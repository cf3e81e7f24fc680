import Tint.Proofs.Classification
import Tint.Proofs.Shift

/-!
# Cutting words with every stretch checked

Here own text is cut into words where it stands, by its places in the whole text. Every stretch that
is looked at must be one: a stretch whose places are in the wrong order, past the end or inside a
character has no text, and then there is no answer at all. Nor is there one where the budget of a
search runs out.

**Words (`nextWord?_eq`).** The word found from a place on is that of the rest of the text, and the
search for it ends.

**Spans (`classify?_eq`).** There always is an answer, and it is what the mode makes of the own text
by itself.
-/

namespace Tint

open Text

variable {k : Nat} {lexems : List Pattern} {text pre rest : List Char}

/-! ## Surveys from a place on -/

namespace Survey

/-- What all lexems find in a text from a place on. -/
def fromPlace (lexems : List Pattern) (text : List Char) (place : Nat) : Survey :=
  lexems.foldl (fun s p => s.note (p.find text place)) {}

def shift (k : Nat) (s : Survey) : Survey := ⟨s.word.map (Found.shift k), s.empty.map (k + ·)⟩

theorem note_shift (s : Survey) (found : Option Found) (k : Nat) :
    (s.shift k).note (found.map (Found.shift k)) = (s.note found).shift k := by
  cases found with
  | none => rfl
  | some f =>
    have hmin : ∀ e, Nat.min (k + e) (k + f.start) = k + Nat.min e f.start :=
      fun e => Nat.add_min_add_left k e f.start
    obtain ⟨word, empty⟩ := s
    simp only [note, shift, Option.map_some, Found.shift, Nat.add_lt_add_iff_left]
    by_cases hf : f.start < f.stop
    · rw [if_pos hf, if_pos hf]
      cases word with
      | none => rfl
      | some w =>
        simp only [Option.map_some, Found.shift, Nat.add_lt_add_iff_left]
        split
        · rfl
        · rfl
    · rw [if_neg hf, if_neg hf]
      cases empty with
      | none => rfl
      | some e => simp [hmin]

theorem fromPlace_append (lexems : List Pattern) (pre rest : List Char) :
    fromPlace lexems (pre ++ rest) (size pre) = (ofLexems lexems rest).shift (size pre) := by
  have hgen : ∀ s : Survey,
      lexems.foldl (fun s p => s.note (p.find (pre ++ rest) (size pre))) (s.shift (size pre)) =
        (lexems.foldl (fun s p => s.note (p.find rest 0)) s).shift (size pre) := by
    induction lexems with
    | nil => exact fun s => rfl
    | cons p ps ih =>
      intro s
      have hfind : p.find (pre ++ rest) (size pre) = (p.find rest 0).map (Found.shift (size pre)) :=
        p.firstIn_append_add false pre rest 0
      rw [List.foldl_cons, List.foldl_cons, hfind, note_shift, ih]
  exact hgen {}

/-- An empty match stands at a place of the text. -/
theorem isPlace_of_empty {e : Nat} (h : (ofLexems lexems text).empty = some e) :
    IsPlace text e := by
  obtain ⟨⟨p, -, f, hfind, -, rfl⟩, -⟩ := (tells_foldl (·.find text 0) lexems).empty e h
  obtain ⟨-, u, hu⟩ := Pattern.find_spec hfind
  exact isPlace_left_of_slice? hu

end Survey

/-! ## Words -/

namespace Cut

variable {c : Char} {cs : List Char}

/-- Where the lexems find a word, the text is cut around it. -/
theorem find?_of_word (budget : Nat) (passed : List Char) {w : Found}
    (h : (Survey.ofLexems lexems (c :: cs)).word = some w) :
    ∃ before word after, c :: cs = before ++ word ++ after ∧ size before = w.start ∧
      w.start + size word = w.stop ∧
      find? lexems (budget + 1) passed (c :: cs) = some ⟨passed ++ before, word, after⟩ := by
  obtain ⟨word, hslice, -⟩ := Survey.exists_slice?_of_word h
  obtain ⟨before, after, hcs, hbefore, hstop⟩ := slice?_eq_some_iff.1 hslice
  have hfirst : splitAt (c :: cs) w.start = (before, word ++ after) := by
    rw [hcs, List.append_assoc, ← hbefore, splitAt_append_size]
  have hlen : w.stop - w.start = size word := by omega
  refine ⟨before, word, after, hcs, hbefore, hstop, ?_⟩
  simp only [find?, h, hfirst, hlen, splitAt_append_size]

/-- Where the lexems find empty matches only, the search goes on behind the first of them. -/
theorem find?_of_empty (budget : Nat) (passed : List Char) {e : Nat}
    (hword : (Survey.ofLexems lexems (c :: cs)).word = none)
    (hempty : (Survey.ofLexems lexems (c :: cs)).empty = some e) :
    ∃ before after, c :: cs = before ++ after ∧ size before = e ∧
      find? lexems (budget + 1) passed (c :: cs) =
        match after with
        | [] => none
        | x :: rest => find? lexems budget (passed ++ before ++ [x]) rest := by
  obtain ⟨before, after, hcs, hbefore⟩ := Survey.isPlace_of_empty hempty
  have hsplit : splitAt (c :: cs) e = (before, after) := by
    rw [hcs, ← hbefore, splitAt_append_size]
  refine ⟨before, after, hcs, hbefore, ?_⟩
  simp only [find?, hword, hempty, hsplit]
  cases after <;> rfl

theorem find?_of_none (budget : Nat) (passed : List Char)
    (hword : (Survey.ofLexems lexems (c :: cs)).word = none)
    (hempty : (Survey.ofLexems lexems (c :: cs)).empty = none) :
    find? lexems (budget + 1) passed (c :: cs) = none := by
  simp only [find?, hword, hempty]

/-- What has been passed over stands before the cut and changes nothing else. -/
theorem find?_passed (lexems : List Pattern) (budget : Nat) (passed text : List Char) :
    find? lexems budget passed text =
      (find? lexems budget [] text).map fun cut => { cut with before := passed ++ cut.before } := by
  induction budget generalizing passed text with
  | zero => rfl
  | succ budget ih =>
    cases text with
    | nil => rfl
    | cons c cs =>
      simp only [find?]
      cases (Survey.ofLexems lexems (c :: cs)).word with
      | some w => rfl
      | none =>
        cases (Survey.ofLexems lexems (c :: cs)).empty with
        | none => rfl
        | some e =>
          dsimp only
          split
          · next before x rest _ =>
            rw [ih, ih ([] ++ before ++ [x]), Option.map_map]
            congr 1
            funext cut
            simp
          · rfl

end Cut

namespace Strict

/-- The first word at or after a place of a text, if there is one. Where the lexems find empty
matches only, the search goes on one character behind the first of them, or behind the end. -/
def nextWord? (lexems : List Pattern) (text : List Char) : (budget : Nat) → (place : Nat) →
    Option (Option Found)
  | 0, _ => none
  | budget + 1, place =>
    if place < size text then
      let survey := Survey.fromPlace lexems text place
      match survey.word, survey.empty with
      | some w, _ => some (some w)
      | none, some e =>
        (dropTo? text e).bind fun rest =>
          nextWord? lexems text budget (e + (rest.head?.map Char.utf8Size).getD 1)
      | none, none => some none
    else some none

theorem nextWord?_of_size_le {budget place : Nat} (hbudget : 0 < budget)
    (hle : size text ≤ place) : nextWord? lexems text budget place = some none := by
  obtain ⟨budget, rfl⟩ := Nat.exists_eq_add_of_lt hbudget
  rw [Nat.zero_add, nextWord?, if_neg (by omega)]

/-- The places of the word that a cut of the rest of a text is made around. -/
def wordAt (place : Nat) (cut : Cut) : Found :=
  ⟨place + size cut.before, place + size cut.before + size cut.word⟩

/-- The first word from a place on is that of the rest of the text. -/
theorem nextWord?_eq (pre : List Char) (budget budget' : Nat) (h : rest.length < budget)
    (h' : rest.length < budget') :
    nextWord? lexems (pre ++ rest) budget (size pre) =
      some ((Cut.find? lexems budget' [] rest).map (wordAt (size pre))) := by
  induction budget generalizing budget' pre rest with
  | zero => omega
  | succ budget ih =>
    obtain ⟨budget', rfl⟩ : ∃ n, budget' = n + 1 := ⟨budget' - 1, by omega⟩
    cases rest with
    | nil => exact nextWord?_of_size_le (Nat.zero_lt_succ _) (by simp)
    | cons c cs =>
      have hlt : size pre < size (pre ++ c :: cs) := by
        have := c.utf8Size_pos
        simp only [size_append, size_cons]
        omega
      rw [nextWord?, if_pos hlt, Survey.fromPlace_append]
      cases hword : (Survey.ofLexems lexems (c :: cs)).word with
      | some w =>
        obtain ⟨before, word, after, -, hbefore, hstop, hcut⟩ :=
          Cut.find?_of_word budget' [] hword
        simp only [hcut, Survey.shift, hword, Option.map_some, wordAt, Found.shift,
          List.nil_append, hbefore, Nat.add_assoc, hstop]
      | none =>
        cases hempty : (Survey.ofLexems lexems (c :: cs)).empty with
        | none => simp [Survey.shift, hword, hempty, Cut.find?_of_none]
        | some e =>
          obtain ⟨before, after, hcs, hbefore, hcut⟩ :=
            Cut.find?_of_empty budget' [] hword hempty
          have hdrop : dropTo? (pre ++ c :: cs) (size pre + e) = some after := by
            rw [dropTo?_append_add, hcs, ← hbefore, dropTo?_append]
          simp only [hcut, Survey.shift, hword, hempty, Option.map_some, Option.map_none, hdrop,
            Option.bind_some]
          have hcount := congrArg List.length hcs
          simp only [List.length_cons, List.length_append] at h h' hcount
          cases after with
          | nil =>
            have hend : size (pre ++ c :: cs) ≤ size pre + e + 1 := by
              rw [hcs, size_append, List.append_nil, hbefore]
              exact Nat.le_succ _
            exact nextWord?_of_size_le (by omega) hend
          | cons x rest =>
            have hplace : size pre + e + (((x :: rest).head?.map Char.utf8Size).getD 1) =
                size (pre ++ (before ++ [x])) := by
              simp only [size_append, size_cons, size_nil, List.head?_cons, Option.map_some,
                Option.getD_some, hbefore]
              omega
            have htext : pre ++ c :: cs = (pre ++ (before ++ [x])) ++ rest := by
              rw [hcs]
              simp
            rw [List.length_cons] at hcount
            dsimp only
            rw [hplace, htext, ih _ budget' (by omega) (by omega), List.nil_append,
              Cut.find?_passed lexems budget' (before ++ [x]), Option.map_map]
            congr 2
            funext cut
            simp [wordAt, Nat.add_assoc]

/-! ## Spans -/

/-- The span of a stretch of text, if it is not empty. -/
def stretch? (className : String) (text : List Char) (start stop : Nat) : Option (List Span) :=
  if start < stop then
    (slice? text start stop).map fun own => [⟨className, String.ofList own, start⟩]
  else some []

/-- The spans of a text up to `stop`, from `plainStart` on. Words are looked for from `place` on in
`fragment`, which is the text up to `stop`. -/
def classifyFrom? (m : Mode) (text fragment : List Char) (stop : Nat) : (budget : Nat) →
    (plainStart place : Nat) → Option (List Span)
  | 0, _, _ => none
  | budget + 1, plainStart, place =>
    if place < stop then
      (nextWord? m.lexems fragment (fragment.length + 1) place).bind fun found =>
        match found with
        | none => stretch? m.className text plainStart stop
        | some w =>
          (slice? fragment w.start w.stop).bind fun word =>
            match m.keywords.category? (String.ofList word) with
            | some category =>
              (stretch? m.className text plainStart w.start).bind fun before =>
                (slice? text w.start w.stop).bind fun own =>
                  (classifyFrom? m text fragment stop budget w.stop w.stop).map fun later =>
                    before ++ ⟨category, String.ofList own, w.start⟩ :: later
            | none => classifyFrom? m text fragment stop budget plainStart w.stop
    else stretch? m.className text plainStart stop

/-- The spans of a mode's own text, which stands between two places. -/
def classify? (m : Mode) (text : List Char) (start stop : Nat) : Option (List Span) :=
  if stop ≤ start then some []
  else if m.keywords.isEmpty then stretch? m.className text start stop
  else
    (takeTo? text stop).bind fun fragment =>
      classifyFrom? m text fragment stop (text.length + 1) start start

variable {m : Mode} {own plain post : List Char} {start stop : Nat}

theorem stretch?_eq (className : String) (h : slice? text start stop = some own) :
    stretch? className text start stop = some (Mode.stretch className own start) := by
  have hsize := size_of_slice? h
  unfold stretch? Mode.stretch
  by_cases hlt : start < stop
  · have hne : own.isEmpty = false := by
      cases own with
      | nil => simp at hsize; omega
      | cons c cs => rfl
    rw [if_pos hlt, h, hne]
    rfl
  · have hnil : own = [] := size_eq_zero.1 (by omega)
    rw [if_neg hlt, hnil]
    rfl

/-- The word of a cut stands behind what is in front of the cut and what comes before the word. -/
theorem slice?_wordAt (front : List Char) (cut : Cut) (behind : List Char) :
    slice? (front ++ (cut.before ++ cut.word ++ behind)) (wordAt (size front) cut).start
      (wordAt (size front) cut).stop = some cut.word :=
  slice?_eq_some_iff.2 ⟨front ++ cut.before, behind, by simp, size_append .., rfl⟩

/-- The text up to `stop` is what has become spans, the text that waits for them, and the rest. -/
theorem classifyFrom?_eq (m : Mode) (pre plain rest post : List Char) {budget : Nat} (budget' : Nat)
    (hlt : rest.length < budget) (hlt' : rest.length < budget') :
    classifyFrom? m (pre ++ plain ++ rest ++ post) (pre ++ plain ++ rest)
        (size (pre ++ plain ++ rest)) budget (size pre) (size (pre ++ plain)) =
      some (m.classifyFrom budget' plain rest (size (pre ++ plain))) := by
  induction budget generalizing budget' pre plain rest with
  | zero => omega
  | succ budget ih =>
    obtain ⟨budget', rfl⟩ : ∃ n, budget' = n + 1 := ⟨budget' - 1, by omega⟩
    have hwaits : size (pre ++ plain) - size plain = size pre := by
      rw [size_append, Nat.add_sub_cancel]
    have hwhole : stretch? m.className (pre ++ plain ++ rest ++ post) (size pre)
        (size (pre ++ plain ++ rest)) =
          some (Mode.stretch m.className (plain ++ rest) (size pre)) :=
      stretch?_eq _ (slice?_eq_some_iff.2 ⟨pre, post, by simp, rfl, by simp⟩)
    rw [classifyFrom?, Mode.classifyFrom, hwaits, hwhole]
    by_cases hplace : size (pre ++ plain) < size (pre ++ plain ++ rest)
    · have hnext : nextWord? m.lexems (pre ++ plain ++ rest) ((pre ++ plain ++ rest).length + 1)
          (size (pre ++ plain)) =
            some ((Cut.ofText? m.lexems rest).map (wordAt (size (pre ++ plain)))) :=
        nextWord?_eq _ _ _ (by simp; omega) (Nat.lt_succ_self _)
      rw [if_pos hplace, hnext, Option.bind_some]
      cases hcut : Cut.ofText? m.lexems rest with
      | none => rfl
      | some cut =>
        obtain ⟨rfl, hne⟩ := Cut.ofText?_spec hcut
        have hshorter : 0 < cut.word.length := List.length_pos_iff.2 hne
        simp only [List.length_append] at hlt hlt'
        have hword := slice?_wordAt (pre ++ plain) cut cut.after
        have hown : slice? (pre ++ plain ++ (cut.before ++ cut.word ++ cut.after) ++ post)
            (wordAt (size (pre ++ plain)) cut).start (wordAt (size (pre ++ plain)) cut).stop =
              some cut.word := by
          have hpost := slice?_wordAt (pre ++ plain) cut (cut.after ++ post)
          rwa [← List.append_assoc _ cut.after, ← List.append_assoc (pre ++ plain)] at hpost
        have hbefore : stretch? m.className
            (pre ++ plain ++ (cut.before ++ cut.word ++ cut.after) ++ post) (size pre)
            (wordAt (size (pre ++ plain)) cut).start =
              some (Mode.stretch m.className (plain ++ cut.before) (size pre)) :=
          stretch?_eq _ (slice?_eq_some_iff.2 ⟨pre, cut.word ++ cut.after ++ post, by simp, rfl,
            by simp [wordAt, Nat.add_assoc]⟩)
        simp only [Option.map_some, hword, hown, hbefore, Option.bind_some]
        cases m.keywords.category? (String.ofList cut.word) with
        | some category =>
          have hrest := ih (pre ++ plain ++ cut.before ++ cut.word) [] cut.after budget' (by omega)
            (by omega)
          have htext : pre ++ plain ++ cut.before ++ cut.word ++ [] ++ cut.after =
              pre ++ plain ++ (cut.before ++ cut.word ++ cut.after) := by simp
          have hstop : (wordAt (size (pre ++ plain)) cut).stop =
              size (pre ++ plain ++ cut.before ++ cut.word) := by simp [wordAt, Nat.add_assoc]
          rw [htext, List.append_nil, ← hstop] at hrest
          rw [hrest]
          rfl
        | none =>
          have hrest := ih pre (plain ++ cut.before ++ cut.word) cut.after budget' (by omega)
            (by omega)
          have htext : pre ++ (plain ++ cut.before ++ cut.word) ++ cut.after =
              pre ++ plain ++ (cut.before ++ cut.word ++ cut.after) := by simp
          have hstop : (wordAt (size (pre ++ plain)) cut).stop =
              size (pre ++ (plain ++ cut.before ++ cut.word)) := by simp [wordAt, Nat.add_assoc]
          rw [htext, ← hstop] at hrest
          exact hrest
    · have hrest : rest = [] := by
        rw [size_append (pre ++ plain)] at hplace
        exact size_eq_zero.1 (by omega)
      subst hrest
      rw [if_neg hplace]
      rfl

/-- There always are spans, and they are those that the mode makes of the own text by itself. -/
theorem classify?_eq (m : Mode) (h : slice? text start stop = some own) :
    classify? m text start stop = some (m.classify own start) := by
  have hsize := size_of_slice? h
  unfold classify? Mode.classify
  by_cases hempty : stop ≤ start
  · have hnil : own = [] := size_eq_zero.1 (by omega)
    rw [if_pos hempty, hnil]
    split
    · rfl
    · rfl
  · rw [if_neg hempty]
    split
    · exact stretch?_eq _ h
    · obtain ⟨pre, post, rfl, rfl, rfl⟩ := slice?_eq_some_iff.1 h
      have htake : takeTo? (pre ++ own ++ post) (size pre + size own) = some (pre ++ own) := by
        rw [← size_append, takeTo?_append]
      have hlong : own.length < (pre ++ own ++ post).length + 1 := by
        simp only [List.length_append]
        omega
      have hall := classifyFrom?_eq m pre [] own post (own.length + 1) hlong (Nat.lt_succ_self _)
      rw [List.append_nil, size_append] at hall
      rw [htake, Option.bind_some, hall]

end Strict

end Tint
