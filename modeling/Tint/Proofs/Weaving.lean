import Tint.Proofs.NextWord

/-!
# Classification is exact

The words of a mode's own text are found one after the other (`WordsFrom`). Those that the table of
the mode knows become spans, and so does every gap that is left before, between and behind them
(`Woven`). A word that is not known belongs to the gap it stands in, so two gaps never meet.

**Weaving (`exists_woven_classifyFrom`).** The loop goes on in two places: what has become spans
ends at one, and the search for words goes on from the other. The text between them waits. A known
word makes a gap of it and brings the two places together; an unknown one is added to it.

**Adding (`push?_eq`).** Written as a loop that adds span after span to those that are there,
classification leaves these as they are.

**Theorem (`Mode.classify_exact`).** Beside the weave, the spans lie end to end and make up the own
text.
-/

namespace Tint

open Text

variable {m : Mode} {text : List Char} {words : List Found}

/-! ## Words and pieces -/

/-- The words that are found one after the other, each from where the word before it stops. -/
inductive WordsFrom (lexems : List Pattern) (text : List Char) : Nat → List Found → Prop
  | nil {place : Nat} : nextWord lexems text place = none → WordsFrom lexems text place []
  | cons {place : Nat} {w : Found} {words : List Found} :
      nextWord lexems text place = some w → WordsFrom lexems text w.stop words →
      WordsFrom lexems text place (w :: words)

/-- A span of a classified text: a known word, or a gap between known words. -/
inductive Piece where
  | gap (s : Span)
  | word (s : Span)

namespace Piece

def span : Piece → Span
  | gap s => s
  | word s => s

/-- The span of a piece that is a known word. -/
def word? : Piece → Option Span
  | gap _ => none
  | word s => some s

/-- The piece of a gap, if it is not empty. -/
def ofGap (className : String) (own : List Char) (offset : Nat) : List Piece :=
  (Mode.stretch className own offset).map gap

theorem map_span_ofGap (className : String) (own : List Char) (offset : Nat) :
    (ofGap className own offset).map span = Mode.stretch className own offset := by
  rw [ofGap, List.map_map]
  exact List.map_id _

end Piece

/-- The span of a word that the table of a mode knows, with its category. -/
def Mode.wordSpan? (m : Mode) (text : List Char) (w : Found) : Option Span :=
  let word := String.ofList (between text w.start w.stop)
  (m.keywords.category? word).map fun category => ⟨category, word, w.start⟩

/-- Pieces made around the known ones of some words. -/
structure Woven (m : Mode) (text : List Char) (words : List Found) (pieces : List Piece) :
    Prop where
  /-- There is one piece for each word that is known, in the order of the words. -/
  known : pieces.filterMap Piece.word? = words.filterMap (m.wordSpan? text)
  class_of_gap : ∀ s, .gap s ∈ pieces → s.className = m.className
  /-- Of two pieces that are next to each other one is a known word. -/
  apart : pieces.IsChain fun a b => a.word?.isSome ∨ b.word?.isSome

namespace Woven

variable {pieces : List Piece} {w : Found} {s : Span}

theorem ofGap (m : Mode) (text own : List Char) (offset : Nat) :
    Woven m text [] (Piece.ofGap m.className own offset) := by
  unfold Piece.ofGap Mode.stretch
  split
  · exact ⟨rfl, nofun, .nil⟩
  · refine ⟨rfl, fun s hs => ?_, .singleton _⟩
    cases List.mem_singleton.1 hs
    rfl

theorem cons_unknown (h : Woven m text words pieces) (hw : m.wordSpan? text w = none) :
    Woven m text (w :: words) pieces where
  known := by rw [h.known, List.filterMap_cons_none hw]
  class_of_gap := h.class_of_gap
  apart := h.apart

theorem cons_known (h : Woven m text words pieces) (hw : m.wordSpan? text w = some s) :
    Woven m text (w :: words) (.word s :: pieces) where
  known := by
    rw [List.filterMap_cons_some hw, ← h.known]
    rfl
  class_of_gap t ht := by
    rcases List.mem_cons.1 ht with ht | ht
    · cases ht
    · exact h.class_of_gap t ht
  apart := List.isChain_cons.2 ⟨fun _ _ => .inl rfl, h.apart⟩

theorem gap_before (h : Woven m text words (.word s :: pieces)) (own : List Char)
    (offset : Nat) :
    Woven m text words (Piece.ofGap m.className own offset ++ .word s :: pieces) := by
  unfold Piece.ofGap Mode.stretch
  split
  · exact h
  · refine ⟨h.known, fun t ht => ?_, List.isChain_cons_cons.2 ⟨.inr rfl, h.apart⟩⟩
    rcases List.mem_cons.1 ht with ht | ht
    · cases ht
      rfl
    · exact h.class_of_gap t ht

end Woven

/-- Classification of the rest of a text weaves the words that are found in it. -/
theorem Mode.exists_woven_classifyFrom (m : Mode) (pre plain rest : List Char) {budget : Nat}
    (hlt : rest.length < budget) :
    ∃ words pieces, WordsFrom m.lexems (pre ++ plain ++ rest) (size (pre ++ plain)) words ∧
      m.classifyFrom budget plain rest (size (pre ++ plain)) = pieces.map Piece.span ∧
      Woven m (pre ++ plain ++ rest) words pieces := by
  induction budget generalizing pre plain rest with
  | zero => omega
  | succ budget ih =>
    have hwaits : size (pre ++ plain) - size plain = size pre := by
      rw [size_append, Nat.add_sub_cancel]
    have hnext : nextWord m.lexems (pre ++ plain ++ rest) (size (pre ++ plain)) =
        (Cut.ofText? m.lexems rest).map (Strict.wordAt (size (pre ++ plain))) := by
      rw [nextWord, dropTo?_append, Option.bind_some]
    rw [classifyFrom, hwaits]
    cases hcut : Cut.ofText? m.lexems rest with
    | none =>
      rw [hcut, Option.map_none] at hnext
      exact ⟨[], _, .nil hnext, (Piece.map_span_ofGap ..).symm, .ofGap ..⟩
    | some cut =>
      obtain ⟨rfl, hne⟩ := Cut.ofText?_spec hcut
      have hshorter : 0 < cut.word.length := List.length_pos_iff.2 hne
      simp only [List.length_append] at hlt
      rw [hcut, Option.map_some] at hnext
      have hword : m.wordSpan? (pre ++ plain ++ (cut.before ++ cut.word ++ cut.after))
          (Strict.wordAt (size (pre ++ plain)) cut) =
            (m.keywords.category? (String.ofList cut.word)).map fun category =>
              ⟨category, String.ofList cut.word, size (pre ++ plain) + size cut.before⟩ := by
        rw [wordSpan?, between_of_slice? (Strict.slice?_wordAt ..)]
        rfl
      dsimp only
      cases hcategory : m.keywords.category? (String.ofList cut.word) with
      | some category =>
        rw [hcategory, Option.map_some] at hword
        have hrest := ih (pre ++ plain ++ cut.before ++ cut.word) [] cut.after (by omega)
        have htext : pre ++ plain ++ cut.before ++ cut.word ++ [] ++ cut.after =
            pre ++ plain ++ (cut.before ++ cut.word ++ cut.after) := by simp
        have hstop : size (pre ++ plain ++ cut.before ++ cut.word) =
            size (pre ++ plain) + size cut.before + size cut.word := by simp [Nat.add_assoc]
        rw [htext, List.append_nil, hstop] at hrest
        obtain ⟨words, pieces, hwords, hspans, hwoven⟩ := hrest
        refine ⟨_, _, .cons hnext hwords, ?_,
          (hwoven.cons_known hword).gap_before (plain ++ cut.before) (size pre)⟩
        rw [List.map_append, Piece.map_span_ofGap, List.map_cons, ← hspans]
        rfl
      | none =>
        rw [hcategory, Option.map_none] at hword
        have hrest := ih pre (plain ++ cut.before ++ cut.word) cut.after (by omega)
        have htext : pre ++ (plain ++ cut.before ++ cut.word) ++ cut.after =
            pre ++ plain ++ (cut.before ++ cut.word ++ cut.after) := by simp
        have hstop : size (pre ++ (plain ++ cut.before ++ cut.word)) =
            size (pre ++ plain) + size cut.before + size cut.word := by simp [Nat.add_assoc]
        rw [htext, hstop] at hrest
        obtain ⟨words, pieces, hwords, hspans, hwoven⟩ := hrest
        exact ⟨_, pieces, .cons hnext hwords, hspans, hwoven.cons_unknown hword⟩

/-! ## Adding to what is there -/

namespace Strict

/-- Add the span of a stretch of text, if it is not empty. -/
def pushStretch? (className : String) (text : List Char) (start stop : Nat) (out : List Span) :
    Option (List Span) :=
  if start < stop then
    (slice? text start stop).map fun own => out ++ [⟨className, String.ofList own, start⟩]
  else some out

/-- Add the spans of a text up to `stop`, one after the other. What lies between `plainStart` and
`place` waits for a span. -/
def pushFrom? (m : Mode) (text fragment : List Char) (stop : Nat) : (budget : Nat) →
    (plainStart place : Nat) → (out : List Span) → Option (List Span)
  | 0, _, _, _ => none
  | budget + 1, plainStart, place, out =>
    if place < stop then
      (nextWord? m.lexems fragment (fragment.length + 1) place).bind fun found =>
        match found with
        | none => pushStretch? m.className text plainStart stop out
        | some w =>
          (slice? fragment w.start w.stop).bind fun word =>
            match m.keywords.category? (String.ofList word) with
            | some category =>
              (pushStretch? m.className text plainStart w.start out).bind fun out =>
                (slice? text w.start w.stop).bind fun own =>
                  pushFrom? m text fragment stop budget w.stop w.stop
                    (out ++ [⟨category, String.ofList own, w.start⟩])
            | none => pushFrom? m text fragment stop budget plainStart w.stop out
    else pushStretch? m.className text plainStart stop out

/-- Add the spans of a mode's own text, which stands between two places. -/
def push? (m : Mode) (text : List Char) (start stop : Nat) (out : List Span) :
    Option (List Span) :=
  if stop ≤ start then some out
  else if m.keywords.isEmpty then pushStretch? m.className text start stop out
  else
    (takeTo? text stop).bind fun fragment =>
      pushFrom? m text fragment stop (text.length + 1) start start out

variable {out : List Span} {start stop : Nat}

theorem pushStretch?_eq (className : String) (text : List Char) (start stop : Nat)
    (out : List Span) :
    pushStretch? className text start stop out =
      (stretch? className text start stop).map (out ++ ·) := by
  unfold pushStretch? stretch?
  split
  · rw [Option.map_map]
    rfl
  · rw [Option.map_some, List.append_nil]

/-- What is there stays, and the spans come behind it. -/
theorem pushFrom?_eq (m : Mode) (text fragment : List Char) (stop budget plainStart place : Nat)
    (out : List Span) :
    pushFrom? m text fragment stop budget plainStart place out =
      (classifyFrom? m text fragment stop budget plainStart place).map (out ++ ·) := by
  induction budget generalizing plainStart place out with
  | zero => rfl
  | succ budget ih =>
    rw [pushFrom?, classifyFrom?]
    split
    · rw [Option.map_bind]
      congr 1
      funext found
      cases found with
      | none => exact pushStretch?_eq ..
      | some w =>
        dsimp only [Function.comp_apply]
        rw [Option.map_bind]
        congr 1
        funext word
        dsimp only [Function.comp_apply]
        cases m.keywords.category? (String.ofList word) with
        | none => exact ih ..
        | some category =>
          dsimp only
          rw [pushStretch?_eq]
          cases stretch? m.className text plainStart w.start with
          | none => rfl
          | some before =>
            cases slice? text w.start w.stop with
            | none => rfl
            | some own => simp [ih, Function.comp_def]
    · exact pushStretch?_eq ..

theorem push?_eq (m : Mode) (text : List Char) (start stop : Nat) (out : List Span) :
    push? m text start stop out = (classify? m text start stop).map (out ++ ·) := by
  unfold push? classify?
  split
  · rw [Option.map_some, List.append_nil]
  · split
    · exact pushStretch?_eq ..
    · rw [Option.map_bind]
      congr 1
      funext fragment
      exact pushFrom?_eq ..

end Strict

/-! ## Exactness -/

/-- Spans of own text with keywords are woven from the words that are found in it. -/
theorem Mode.exists_woven_classify (m : Mode) (pre own : List Char)
    (hkeywords : m.keywords.isEmpty = false) :
    ∃ words pieces, WordsFrom m.lexems (pre ++ own) (size pre) words ∧
      m.classify own (size pre) = pieces.map Piece.span ∧ Woven m (pre ++ own) words pieces := by
  have h := m.exists_woven_classifyFrom pre [] own (Nat.lt_succ_self own.length)
  rw [List.append_nil] at h
  rwa [classify, hkeywords, if_neg Bool.false_ne_true]

/-- **Classification is exact.** The spans of the own text of a mode come behind those that are
there already, lie end to end, none of them empty, and make up the own text. Without keywords there
is one, with the class of the mode. Otherwise the text up to the end of the own text is searched for
words, from its start on and then from the end of each word: every word that is known has its span,
with its category and in order, and every gap has one, with the class of the mode. Where the own
text would end before it starts, or is empty, nothing is added. -/
theorem Mode.classify_exact (m : Mode) (text : List Char) (start stop : Nat) (out : List Span) :
    (start < stop → IsPlace text start → IsPlace text stop →
      ∃ own fragment spans, slice? text start stop = some own ∧ takeTo? text stop = some fragment ∧
        m.classifyBetween? text start stop = some spans ∧
        Strict.push? m text start stop out = some (out ++ spans) ∧
        Lays own start spans ∧
        (m.keywords.isEmpty = true → spans = [⟨m.className, String.ofList own, start⟩]) ∧
        (m.keywords.isEmpty = false →
          ∃ words pieces, WordsFrom m.lexems fragment start words ∧
            spans = pieces.map Piece.span ∧ Woven m fragment words pieces)) ∧
    (stop ≤ start → m.classifyBetween? text start stop = some [] ∧
      Strict.push? m text start stop out = some out) := by
  constructor
  · intro hlt hstart hstop
    obtain ⟨own, hown⟩ := exists_slice? hstart hstop (Nat.le_of_lt hlt)
    have hbetween : m.classifyBetween? text start stop = some (m.classify own start) := by
      rw [classifyBetween?, if_pos hlt, hown, Option.map_some]
    have hpush : Strict.push? m text start stop out = some (out ++ m.classify own start) := by
      rw [Strict.push?_eq, Strict.classify?_eq m hown, Option.map_some]
    obtain ⟨pre, post, rfl, rfl, rfl⟩ := slice?_eq_some_iff.1 hown
    have hfragment : takeTo? (pre ++ own ++ post) (size pre + size own) = some (pre ++ own) := by
      rw [← size_append, takeTo?_append]
    refine ⟨own, _, _, hown, hfragment, hbetween, hpush, m.classify_lays own _, ?_,
      m.exists_woven_classify pre own⟩
    intro hkeywords
    have hne : own ≠ [] := by
      rintro rfl
      simp at hlt
    rw [classify, if_pos hkeywords, stretch, if_neg (by simpa using hne)]
  · intro hle
    refine ⟨if_neg (Nat.not_lt.2 hle), ?_⟩
    rw [Strict.push?, if_pos hle]

/-- Two keywords that meet have no gap between them, a number that is no keyword stays in its gap,
and what stands behind the stretch is not seen. -/
theorem Mode.classify_exact_tally :
    ∃ g words pieces, Grammar.compile "tally" tally = .ok g ∧
      Strict.push? g.defaultMode "éxx5 7 5.x".toList 2 10 [⟨"", "é", 0⟩] =
        some (⟨"", "é", 0⟩ :: pieces.map Piece.span) ∧
      pieces.map Piece.span = [⟨"keyword", "xx", 2⟩, ⟨"keyword", "5", 4⟩, ⟨"", " 7 ", 5⟩,
        ⟨"keyword", "5", 8⟩, ⟨"", ".", 9⟩] ∧
      WordsFrom g.defaultMode.lexems "éxx5 7 5.".toList 2 words ∧
      Woven g.defaultMode "éxx5 7 5.".toList words pieces := by
  have hrun : ((Grammar.compile "tally" tally).toOption.map fun g =>
      (g.defaultMode.keywords.isEmpty,
        g.defaultMode.classifyBetween? "éxx5 7 5.x".toList 2 10)) =
      some (false, some [⟨"keyword", "xx", 2⟩, ⟨"keyword", "5", 4⟩, ⟨"", " 7 ", 5⟩,
        ⟨"keyword", "5", 8⟩, ⟨"", ".", 9⟩]) := by
    decide +kernel
  obtain ⟨g, hg, hvalues⟩ := Option.map_eq_some_iff.1 hrun
  obtain ⟨hkeywords, hspans⟩ := Prod.mk.inj hvalues
  obtain ⟨own, fragment, spans, -, hfragment, hbetween, hpush, -, -, hwoven⟩ :=
    (g.defaultMode.classify_exact "éxx5 7 5.x".toList 2 10 [⟨"", "é", 0⟩]).1 (by decide)
      (by decide) (by decide)
  obtain rfl : "éxx5 7 5.".toList = fragment := by
    have htake : takeTo? "éxx5 7 5.x".toList 10 = some "éxx5 7 5.".toList := by decide
    exact Option.some.inj (htake.symm.trans hfragment)
  obtain ⟨words, pieces, hwords, rfl, hpieces⟩ := hwoven hkeywords
  exact ⟨g, words, pieces, Except.toOption_eq_some_iff.1 hg, hpush,
    Option.some.inj (hbetween.symm.trans hspans), hwords, hpieces⟩

end Tint
