import Tint.Proofs.Strict.Words

/-!
# Which word comes next

The search for a word goes in rounds. A round asks every lexem for its first match from the place
where the round starts. If one of these is not empty, the earliest of them is the word. If all are
empty, the next round starts behind the character at the first of them.

**Rounds (`Answers`).** The rule for whole searches is given apart from the search, with no budget
and no character counted. It answers once (`Answers.unique`), and the search does what it says
(`nextWord_eq_iff`).

**Non-empty matches (`nextWord_of_full`).** A lexem that matches empty in a round is not asked where
it matches more. So the earliest match that is not empty is the next word where no lexem matches
empty first, and need not be elsewhere (`nextWord_ne_earliest`).
-/

namespace Tint

open Text

variable {lexems : List Pattern} {text : List Char} {place : Nat} {w : Found}

/-! ## Rounds -/

/-- How the search for a word goes on from a place. In each round every lexem is searched from the
place where the round starts. -/
inductive Answers (lexems : List Pattern) (text : List Char) : Nat → Option Found → Prop
  /-- A lexem's first match is not empty. The earliest of these is the word, whatever else the
  lexems match empty. -/
  | word {place : Nat} {w : Found} :
      Earliest (fun x => wordOf (x.find text place)) lexems w → Answers lexems text place (some w)
  /-- The lexems match nothing but the end. -/
  | spent {place : Nat} :
      (∀ x ∈ lexems, ∀ f, x.find text place = some f → f.start = size text) →
      Answers lexems text place none
  /-- The lexems match empty only. The next round starts behind the character at the first of these
  matches. -/
  | skip {place : Nat} {x : Pattern} {f : Found} {c : Char} {rest : List Char}
      {answer : Option Found} :
      (∀ y ∈ lexems, wordOf (y.find text place) = none) →
      x ∈ lexems → x.find text place = some f →
      (∀ y ∈ lexems, ∀ g, y.find text place = some g → f.start ≤ g.start) →
      dropTo? text f.start = some (c :: rest) →
      Answers lexems text (f.start + c.utf8Size) answer → Answers lexems text place answer

namespace Answers

variable {answer answer' : Option Found}

theorem unique (h : Answers lexems text place answer) (h' : Answers lexems text place answer') :
    answer = answer' := by
  induction h with
  | @word place w hw =>
    cases h' with
    | word hw' => exact congrArg some (hw.unique hw')
    | spent hspent =>
      obtain ⟨x, hx, hfind⟩ := hw.exists_mem
      obtain ⟨hfind, hlt⟩ := wordOf_eq_some_iff.1 hfind
      have := hspent x hx w hfind
      have := Pattern.bounds_of_find hfind
      omega
    | skip hnone =>
      obtain ⟨x, hx, hfind⟩ := hw.exists_mem
      cases (hnone x hx).symm.trans hfind
  | @spent place hspent =>
    cases h' with
    | @word _ w hw =>
      obtain ⟨x, hx, hfind⟩ := hw.exists_mem
      obtain ⟨hfind, hlt⟩ := wordOf_eq_some_iff.1 hfind
      have := hspent x hx w hfind
      have := Pattern.bounds_of_find hfind
      omega
    | spent => rfl
    | skip _ hx hfind _ hdrop => exact absurd (hspent _ hx _ hfind) (lt_size_of_dropTo? hdrop).ne
  | @skip place x f c rest answer hnone hx hfind hfirst hdrop _ ih =>
    cases h' with
    | word hw =>
      obtain ⟨x, hx, hfind⟩ := hw.exists_mem
      cases (hnone x hx).symm.trans hfind
    | spent hspent => exact absurd (hspent x hx f hfind) (lt_size_of_dropTo? hdrop).ne
    | @skip _ y g d more _ _ hy hfind' hfirst' hdrop' hrest =>
      have hstart : f.start = g.start :=
        Nat.le_antisymm (hfirst y hy g hfind') (hfirst' x hx f hfind)
      rw [← hstart] at hdrop' hrest
      cases hdrop.symm.trans hdrop'
      exact ih hrest

/-- What the checked search answers. The induction is on the rounds that its budget allows. -/
theorem of_nextWord? {budget : Nat} (h : Strict.nextWord? lexems text budget place = some answer) :
    Answers lexems text place answer := by
  induction budget generalizing place with
  | zero => cases h
  | succ budget ih =>
    rw [Strict.nextWord?] at h
    have htells : (Survey.fromPlace lexems text place).Tells (fun x => x.find text place) lexems :=
      Survey.tells_foldl ..
    split at h
    · next hlt =>
      dsimp only at h
      split at h
      · next w hword =>
        cases h
        exact .word (htells.word w hword)
      · next e hword hempty =>
        obtain ⟨⟨x, hx, f, hfind, -, rfl⟩, hfirst⟩ := htells.empty e hempty
        have hnone := htells.wordless hword
        have hlow : ∀ y ∈ lexems, ∀ g, y.find text place = some g → f.start ≤ g.start :=
          fun y hy g hg => hfirst y hy g hg (wordOf_eq_none_iff.1 (hnone y hy) g hg)
        obtain ⟨rest, hrest, h⟩ := Option.bind_eq_some_iff.1 h
        cases rest with
        | nil =>
          -- the first empty match is that of the end, and behind the end there are no words
          have hend := eq_size_of_dropTo? hrest
          have hspent : answer = none := by
            cases budget with
            | zero => cases h
            | succ budget =>
              rw [Strict.nextWord?_of_size_le (Nat.zero_lt_succ _) (by omega)] at h
              exact (Option.some.inj h).symm
          subst hspent
          refine .spent fun y hy g hg => ?_
          have := hlow y hy g hg
          have := Pattern.bounds_of_find hg
          omega
        | cons c rest => exact .skip hnone hx hfind hlow hrest (ih h)
      · next hword hempty =>
        cases h
        refine .spent fun x hx f hfind => ?_
        exact absurd (htells.full hempty x hx f hfind)
          (wordOf_eq_none_iff.1 (htells.wordless hword x hx) f hfind)
    · next hge =>
      cases h
      refine .spent fun x _ f hfind => ?_
      have := Pattern.bounds_of_find hfind
      omega

/-- A word that is answered lies ahead, at places of the text, and is not empty. -/
theorem bounds (h : Answers lexems text place (some w)) :
    place ≤ w.start ∧ w.start < w.stop ∧ ∃ u, slice? text w.start w.stop = some u := by
  generalize hanswer : some w = answer at h
  induction h with
  | word hw =>
    cases hanswer
    obtain ⟨x, -, hfind⟩ := hw.exists_mem
    obtain ⟨hfind, hlt⟩ := wordOf_eq_some_iff.1 hfind
    obtain ⟨hle, hslice⟩ := Pattern.find_spec hfind
    exact ⟨hle, hlt, hslice⟩
  | spent => cases hanswer
  | skip _ _ hfind _ _ _ ih =>
    obtain ⟨hle, hrest⟩ := ih hanswer
    have := Pattern.bounds_of_find hfind
    exact ⟨by omega, hrest⟩

end Answers

/-! ## The next word -/

/-- The first word of a text at or after a place. -/
def nextWord (lexems : List Pattern) (text : List Char) (place : Nat) : Option Found :=
  (dropTo? text place).bind fun rest => (Cut.ofText? lexems rest).map (Strict.wordAt place)

/-- The checked search ends, with the word of the rest of the text. -/
theorem Strict.nextWord?_eq_nextWord {budget : Nat} (h : IsPlace text place)
    (hlong : text.length < budget) :
    nextWord? lexems text budget place = some (nextWord lexems text place) := by
  obtain ⟨pre, rest, rfl, rfl⟩ := h
  rw [List.length_append] at hlong
  rw [nextWord?_eq pre budget (rest.length + 1) (by omega) (Nat.lt_succ_self _), nextWord,
    dropTo?_append, Option.bind_some]
  rfl

theorem nextWord_eq_iff (h : IsPlace text place) {answer : Option Found} :
    nextWord lexems text place = answer ↔ Answers lexems text place answer := by
  have hanswers : Answers lexems text place (nextWord lexems text place) :=
    Answers.of_nextWord? (Strict.nextWord?_eq_nextWord h (Nat.lt_succ_self text.length))
  exact ⟨fun heq => heq ▸ hanswers, fun hanswer => hanswers.unique hanswer⟩

theorem nextWord_bounds (h : nextWord lexems text place = some w) :
    place ≤ w.start ∧ w.start < w.stop ∧ ∃ u, slice? text w.start w.stop = some u := by
  obtain ⟨rest, hrest, -⟩ := Option.bind_eq_some_iff.1 h
  exact ((nextWord_eq_iff (isPlace_of_dropTo? hrest)).1 h).bounds

/-! ## Lexems that do not match empty -/

/-- Where no lexem matches empty first, the next word is the earliest match that is not empty. -/
theorem nextWord_of_full (h : IsPlace text place)
    (hfull : ∀ x ∈ lexems, ∀ f, x.find text place = some f → f.start < f.stop) :
    (∀ w, nextWord lexems text place = some w ↔
      Earliest (fun x => x.findNonEmpty text place) lexems w) ∧
    (nextWord lexems text place = none ↔ ∀ x ∈ lexems, x.findNonEmpty text place = none) := by
  have hfind : ∀ x ∈ lexems, x.findNonEmpty text place = x.find text place :=
    fun x hx => Pattern.findNonEmpty_eq_find (hfull x hx)
  have hword : ∀ x ∈ lexems, wordOf (x.find text place) = x.findNonEmpty text place := by
    intro x hx
    rw [hfind x hx]
    cases hf : x.find text place with
    | none => rfl
    | some f => exact wordOf_of_lt (hfull x hx f hf)
  constructor
  · intro w
    rw [nextWord_eq_iff h]
    constructor
    · intro hanswers
      cases hanswers with
      | word hw => exact hw.congr hword
      | skip hnone hx hf =>
        exact absurd (hfull _ hx _ hf) (wordOf_eq_none_iff.1 (hnone _ hx) _ hf)
    · exact fun hw => .word (hw.congr fun x hx => (hword x hx).symm)
  · rw [nextWord_eq_iff h]
    constructor
    · intro hanswers x hx
      cases hanswers with
      | spent hspent =>
        rw [hfind x hx, Option.eq_none_iff_forall_ne_some]
        intro f hf
        have := hspent x hx f hf
        have := hfull x hx f hf
        have := Pattern.bounds_of_find hf
        omega
      | skip hnone => rw [← hword x hx, hnone x hx]
    · intro hnone
      refine .spent fun x hx f hf => ?_
      rw [← hfind x hx, hnone x hx] at hf
      cases hf

/-- **Which word comes next.** From any place of a text the search ends, and no stretch that it
looks at is missing. It answers as the rounds say. A word lies at or after the place, starts and
stops at places of the text, and is not empty. Where no lexem's first match is empty, the word is
the earliest match of a lexem that is not empty, that of the lexem listed first if several start
alike; and there is none only if no lexem has such a match. -/
theorem nextWord_answers (lexems : List Pattern) {text : List Char} {place : Nat}
    (h : IsPlace text place) :
    Strict.nextWord? lexems text (text.length + 1) place = some (nextWord lexems text place) ∧
      (∀ answer, nextWord lexems text place = answer ↔ Answers lexems text place answer) ∧
      (∀ w, nextWord lexems text place = some w →
        place ≤ w.start ∧ w.start < w.stop ∧ ∃ u, slice? text w.start w.stop = some u) ∧
      ((∀ x ∈ lexems, ∀ f, x.find text place = some f → f.start < f.stop) →
        (∀ w, nextWord lexems text place = some w ↔
          Earliest (fun x => x.findNonEmpty text place) lexems w) ∧
        (nextWord lexems text place = none ↔ ∀ x ∈ lexems, x.findNonEmpty text place = none)) :=
  ⟨Strict.nextWord?_eq_nextWord h (Nat.lt_succ_self _), fun _ => nextWord_eq_iff h,
    fun _ => nextWord_bounds, nextWord_of_full h⟩

/-- Numbers and words of one letter, which may be empty; one of each is a keyword. -/
def tally : GrammarDefinition where
  name := "tally"
  defaultMode :=
    (({} : ModeDefinition).withKeywords "keyword" ["xx", "5"]).cutting ["[0-9]+", "x*"]

/-- At the start of the text no lexem matches empty, and the one that is listed last finds the
word. -/
theorem nextWord_answers_tally :
    ∃ g, Grammar.compile "tally" tally = .ok g ∧
      nextWord g.defaultMode.lexems "xx 5".toList 0 = some ⟨0, 2⟩ ∧
      Answers g.defaultMode.lexems "xx 5".toList 0 (some ⟨0, 2⟩) ∧
      Earliest (fun x => x.findNonEmpty "xx 5".toList 0) g.defaultMode.lexems ⟨0, 2⟩ := by
  have hrun : ((Grammar.compile "tally" tally).toOption.map fun g =>
      (nextWord g.defaultMode.lexems "xx 5".toList 0,
        g.defaultMode.lexems.map fun x => x.find "xx 5".toList 0)) =
      some (some ⟨0, 2⟩, [some ⟨3, 4⟩, some ⟨0, 2⟩]) := by
    decide +kernel
  obtain ⟨g, hg, hvalues⟩ := Option.map_eq_some_iff.1 hrun
  obtain ⟨hword, hfinds⟩ := Prod.mk.inj hvalues
  have hfull : ∀ x ∈ g.defaultMode.lexems, ∀ f, x.find "xx 5".toList 0 = some f →
      f.start < f.stop := by
    intro x hx f hf
    have hmem : some f ∈ g.defaultMode.lexems.map fun x => x.find "xx 5".toList 0 :=
      List.mem_map.2 ⟨x, hx, hf⟩
    rw [hfinds] at hmem
    simp only [List.mem_cons, Option.some.injEq, List.not_mem_nil, or_false] at hmem
    rcases hmem with rfl | rfl <;> decide
  obtain ⟨-, hanswers, -, hearliest⟩ :=
    nextWord_answers g.defaultMode.lexems (isPlace_zero "xx 5".toList)
  exact ⟨g, Except.toOption_eq_some_iff.1 hg, hword, (hanswers _).1 hword,
    ((hearliest hfull).1 _).1 hword⟩

/-- The earliest match that is not empty need not be the next word. Behind a blank the word of
letters is passed over, since in front of the blank its lexem matches empty and that of numbers
finds its word. -/
theorem nextWord_ne_earliest :
    ¬ ∀ (d : GrammarDefinition) (g : Grammar), Grammar.compile d.name d = .ok g →
      ∀ m ∈ g.allModes, m.keywords.isEmpty = false →
      ∀ (text : List Char) (place : Nat), IsPlace text place →
      ∀ w, nextWord m.lexems text place = some w →
        Earliest (fun x => x.findNonEmpty text place) m.lexems w := by
  intro hclaim
  have hrun : ((Grammar.compile tally.name tally).toOption.map fun g =>
      (g.defaultMode.keywords.isEmpty, nextWord g.defaultMode.lexems " xx 5".toList 0,
        g.defaultMode.lexems.map fun x => x.findNonEmpty " xx 5".toList 0)) =
      some (false, some ⟨4, 5⟩, [some ⟨4, 5⟩, some ⟨1, 3⟩]) := by
    decide +kernel
  obtain ⟨g, hg, hvalues⟩ := Option.map_eq_some_iff.1 hrun
  simp only [Prod.mk.injEq] at hvalues
  obtain ⟨hkeywords, hword, hfinds⟩ := hvalues
  have hearliest := hclaim tally g (Except.toOption_eq_some_iff.1 hg) g.defaultMode
    List.mem_cons_self hkeywords " xx 5".toList 0 (isPlace_zero _) ⟨4, 5⟩ hword
  obtain ⟨x, hx, hfind⟩ : ∃ x ∈ g.defaultMode.lexems,
      x.findNonEmpty " xx 5".toList 0 = some ⟨1, 3⟩ := by
    have hmem : some ⟨1, 3⟩ ∈
        g.defaultMode.lexems.map fun x => x.findNonEmpty " xx 5".toList 0 := by
      rw [hfinds]
      simp
    exact List.mem_map.1 hmem
  exact absurd (hearliest.start_le hx hfind) (by decide)

end Tint
