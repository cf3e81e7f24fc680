import Tint.Proofs.Correspondence

/-!
# Keywords, lexems and relevance decide nothing but spans

Two definitions have the same outline (`GrammarDefinition.SameOutline`) if they differ in no more
than the keywords, the lexems and the relevance of their modes. Their grammars correspond, with
every mode under its own number (`corresponds_of_sameOutline`), so both take the same boundaries.
They cut the text between two boundaries into spans each in its own way, but the cuts at the
boundaries are the same for both.

**Theorem (`lex_of_sameOutline`).** Reading fails alike with both, or succeeds with the same
diagnostics. A grammar without keywords does not cut the text between two boundaries, so each of its
spans is put together from spans of the other grammar.
-/

namespace Tint

open Text

/-! ## Definitions with the same outline -/

/-- The modes differ in their keywords, lexems and relevance at most. -/
structure ModeDefinition.SameOutline (m m' : ModeDefinition) : Prop where
  className : m'.className = m.className
  beginSource : m'.beginSource = m.beginSource
  endSource : m'.endSource = m.endSource
  illegalSource : m'.illegalSource = m.illegalSource
  contains : m'.contains = m.contains

/-- The definitions differ in the keywords, lexems and relevance of their modes at most. -/
structure GrammarDefinition.SameOutline (d d' : GrammarDefinition) : Prop where
  name : d'.name = d.name
  options : d'.options = d.options
  defaultMode : d.defaultMode.SameOutline d'.defaultMode
  modes : List.Forall₂ ModeDefinition.SameOutline d.modes d'.modes

/-- No mode has a keyword. -/
def GrammarDefinition.Wordless (d : GrammarDefinition) : Prop :=
  ∀ m ∈ d.defaultMode :: d.modes, m.Wordless

namespace Grammar

variable {name : String} {d d' : GrammarDefinition} {g g' : Grammar} {s : Scope}
  {m m' : ModeDefinition} {opener closer : Option Pattern} {compiled compiled' : Mode}

theorem Scope.Inner.sameOutline (h : s.Inner m opener closer compiled)
    (h' : s.Inner m' opener closer compiled') (hm : m.SameOutline m') :
    compiled.SameOutline id compiled' where
  className := by rw [h'.className, hm.className, h.className]
  beginPattern := by rw [h'.beginPattern, h.beginPattern]
  endPattern := by rw [h'.endPattern, h.endPattern]
  illegal := by
    have hillegal := h'.illegal
    rw [hm.className, hm.illegalSource, h.illegal] at hillegal
    exact (Except.ok.inj hillegal).symm
  contains := by
    have hcontains := Except.mapM_eq_ok_iff.2 h'.contains
    rw [hm.className, hm.contains, Except.mapM_eq_ok_iff.2 h.contains] at hcontains
    rw [← Except.ok.inj hcontains, List.map_id]

theorem Scope.Bounded.sameOutline (h : s.Bounded m compiled) (h' : s.Bounded m' compiled')
    (hm : m.SameOutline m') : compiled.SameOutline id compiled' := by
  obtain ⟨opener, closer, ho, hc, hinner⟩ := h
  obtain ⟨opener', closer', ho', hc', hinner'⟩ := h'
  rw [hm.className, hm.beginSource, ho] at ho'
  rw [hm.className, hm.endSource, hc] at hc'
  cases ho'
  cases hc'
  exact hinner.sameOutline hinner' hm

theorem forall₂_sameOutline {ms ms' : List ModeDefinition}
    {compiledModes compiledModes' : List Mode} (hm : List.Forall₂ ModeDefinition.SameOutline ms ms')
    (h : List.Forall₂ s.Bounded ms compiledModes) (h' : List.Forall₂ s.Bounded ms' compiledModes') :
    List.Forall₂ (Mode.SameOutline id) compiledModes compiledModes' := by
  induction hm generalizing compiledModes compiledModes' with
  | nil =>
    cases h
    cases h'
    exact .nil
  | cons hhead _ ih =>
    cases h with
    | cons hbounded hrest =>
      cases h' with
      | cons hbounded' hrest' =>
        exact .cons (hbounded.sameOutline hbounded' hhead) (ih hrest hrest')

theorem rel_getD {α β : Type} {R : α → β → Prop} {as : List α} {bs : List β} {a : α} {b : β}
    (h : List.Forall₂ R as bs) (hab : R a b) (i : Nat) : R (as[i]?.getD a) (bs[i]?.getD b) := by
  induction h generalizing i with
  | nil => exact hab
  | cons hhead _ ih =>
    cases i with
    | zero => exact hhead
    | succ i => exact ih i

theorem classNames_eq {ms ms' : List ModeDefinition}
    (h : List.Forall₂ ModeDefinition.SameOutline ms ms') :
    ms'.map (·.className) = ms.map (·.className) :=
  (map_eq_of_forall₂ h fun _ _ hm => hm.className.symm).symm

theorem scopeOf_of_sameOutline (hd : d.SameOutline d') : scopeOf name d' = scopeOf name d := by
  rw [scopeOf, classNames_eq hd.modes, hd.options, scopeOf]

theorem corresponds_of_sameOutline (h : compile name d = .ok g) (h' : compile name d' = .ok g')
    (hd : d.SameOutline d') : Corresponds g g' id := by
  have hc := compile_eq_ok_iff.1 h
  have hc' := compile_eq_ok_iff.1 h'
  have hdefault' := hc'.defaultMode
  have hmodes' := hc'.modes
  rw [scopeOf_of_sameOutline hd] at hdefault' hmodes'
  have hdefault := hc.defaultMode.sameOutline hdefault' hd.defaultMode
  refine ⟨hc'.name_eq.trans hc.name_eq.symm, rfl, ?_⟩
  intro i
  cases i with
  | zero => exact hdefault
  | succ i => exact rel_getD (forall₂_sameOutline hd.modes hc.modes hmodes') hdefault i

/-! ## Grammars without keywords -/

theorem isEmpty_keywords_of_wordless (h : compile name d = .ok g) (hd : d.Wordless) (i : Nat) :
    (g.mode i).keywords.isEmpty = true := by
  obtain ⟨md, hmd, _, _, hinner⟩ := exists_inner_of_compile h i
  rw [hinner.keywords]
  exact (KeywordTable.isEmpty_ofKeywords_iff _).2 (hd md hmd)

end Grammar

/-! ## Coarser spans -/

/-- The span is put together from these spans, which lie end to end. -/
def Span.Joins (s : Span) (parts : List Span) : Prop :=
  parts ≠ [] ∧ Lays s.text.toList s.offset parts

/-- Each of the spans is put together from consecutive spans of the others, and none is left out. -/
def Coarsens (coarse fine : List Span) : Prop :=
  ∃ parts : List (List Span), parts.flatten = fine ∧ List.Forall₂ Span.Joins coarse parts

theorem Coarsens.append {coarse coarse' fine fine' : List Span} (h : Coarsens coarse fine)
    (h' : Coarsens coarse' fine') : Coarsens (coarse ++ coarse') (fine ++ fine') := by
  obtain ⟨parts, rfl, hparts⟩ := h
  obtain ⟨parts', rfl, hparts'⟩ := h'
  exact ⟨parts ++ parts', List.flatten_append, List.rel_append hparts hparts'⟩

/-- A mode without keywords makes one span of its own text, or none if there is no text. -/
theorem coarsens_classify (m : Mode) {m' : Mode} (h : m'.keywords.isEmpty = true)
    (own : List Char) (offset : Nat) :
    Coarsens (m'.classify own offset) (m.classify own offset) := by
  have hlays := m.classify_lays own offset
  rw [Mode.classify, if_pos h, Mode.stretch]
  cases own with
  | nil =>
    rw [hlays.eq_nil_iff.2 rfl]
    exact ⟨[], rfl, .nil⟩
  | cons x rest =>
    have hne : m.classify (x :: rest) offset ≠ [] := by
      intro hnil
      exact absurd (hlays.eq_nil_iff.1 hnil) (List.cons_ne_nil x rest)
    refine ⟨[m.classify (x :: rest) offset], by simp, .cons ⟨hne, ?_⟩ .nil⟩
    rw [String.toList_ofList]
    exact hlays

namespace Lexer

open Grammar

variable {job : Job} {g g' : Grammar}

theorem boundary_renumber_id (b : Boundary) : b.renumber id = b := by
  obtain ⟨t, f⟩ := b
  cases t <;> rfl

/-- What grammars with the same outline give: the same diagnostics, and coarser spans where the
second one has no keywords. -/
structure OutlineAlike (g' : Grammar) (out out' : LexOutput) : Prop where
  diagnostics : out'.diagnostics = out.diagnostics
  spans : (∀ i, (g'.mode i).keywords.isEmpty = true) → Coarsens out'.spans out.spans

theorem coarsens_ownSpans (job : Job) (σ : Nat → Nat)
    (h : ∀ i, (g'.mode i).keywords.isEmpty = true) (stack : ModeStack) (stop : Nat) :
    Coarsens (ownSpans (job.under g') (stack.renumber σ).top stop)
      (ownSpans job stack.top stop) := by
  rw [ownSpans, textStart_top_renumber, ownSpans]
  exact coarsens_classify _ (h _) _ _

theorem carries_outlineAlike {σ : Nat → Nat} (h : Corresponds job.grammar g' σ) :
    Carries job g' σ (OutlineAlike g') where
  ending c :=
    ⟨unterminated_renumber (sameWinners_of_corresponds h) c.stack,
      fun hg' => coarsens_ownSpans job σ hg' c.stack job.size⟩
  after stack b _ _ hout :=
    ⟨hout.diagnostics, fun hg' =>
      (coarsens_ownSpans job σ hg' stack b.cut).append (hout.spans hg')⟩
  withDefault _ _ hout := ⟨hout.diagnostics, hout.spans⟩

end Lexer

/-! ## Reading a text -/

namespace Grammar

open Lexer

/-- **Keywords, lexems and relevance do not decide how a text is read.** Take two definitions that
differ in nothing else, and compile both under one name. Reading a text takes the same boundaries
with both grammars, under whatever limits, and it fails with the same error or succeeds with the
same diagnostics. If the second definition has no keywords, each of its spans is put together from
consecutive spans that the first one gives. -/
theorem lex_of_sameOutline {name : String} {d d' : GrammarDefinition} {g g' : Grammar}
    (h : compile name d = .ok g) (h' : compile name d' = .ok g') (hd : d.SameOutline d')
    (text : String) (options : LexOptions) :
    g'.trace text options = g.trace text options ∧
      (g'.lex text options).map (·.diagnostics) = (g.lex text options).map (·.diagnostics) ∧
      (d'.Wordless → ∀ out out', g.lex text options = .ok out → g'.lex text options = .ok out' →
        Coarsens out'.spans out.spans) := by
  have hg := corresponds_of_sameOutline h h' hd
  obtain ⟨hagree, htrace⟩ := lex_renumber hg text options (carries_outlineAlike hg)
  refine ⟨?_, ?_, ?_⟩
  · rw [htrace]
    exact List.map_id'' boundary_renumber_id _
  · exact hagree.map_eq fun _ _ hout => hout.diagnostics
  · intro hwords out out' hout hout'
    rw [hout, hout'] at hagree
    exact hagree.of_ok.spans (isEmpty_keywords_of_wordless h' hwords)

/-- Blocks without the keyword, which count for nothing. -/
def wordlessBlocks : GrammarDefinition :=
  { blocks with
    defaultMode := { blocks.defaultMode with keywords := .empty, lexems := [] }
    modes := blocks.modes.map (·.weighing 0) }

/-- The keyword is part of a longer span where it is none. -/
theorem lex_of_sameOutline_blocks :
    ∃ g g' out out', compile "blocks" blocks = .ok g ∧
      compile "blocks" wordlessBlocks = .ok g' ∧ blocks.SameOutline wordlessBlocks ∧
      wordlessBlocks.Wordless ∧ g.lex "if a\x7bif\x7bé" {} = .ok out ∧
      g'.lex "if a\x7bif\x7bé" {} = .ok out' ∧
      out.spans =
        [⟨"keyword", "if", 0⟩, ⟨"", " a", 2⟩, ⟨"block", "\x7bif", 4⟩, ⟨"block", "\x7bé", 7⟩] ∧
      out'.spans = [⟨"", "if a", 0⟩, ⟨"block", "\x7bif", 4⟩, ⟨"block", "\x7bé", 7⟩] ∧
      (g.trace "if a\x7bif\x7bé" {}).length = 2 ∧
      g'.trace "if a\x7bif\x7bé" {} = g.trace "if a\x7bif\x7bé" {} ∧
      (g'.lex "if a\x7bif\x7bé" {}).map (·.diagnostics) =
        (g.lex "if a\x7bif\x7bé" {}).map (·.diagnostics) ∧
      Coarsens out'.spans out.spans := by
  have hrun : ((compile "blocks" blocks).toOption.bind fun g =>
      (g.lex "if a\x7bif\x7bé" {}).toOption.map fun out =>
        (out.spans, (g.trace "if a\x7bif\x7bé" {}).length)) =
      some ([⟨"keyword", "if", 0⟩, ⟨"", " a", 2⟩, ⟨"block", "\x7bif", 4⟩, ⟨"block", "\x7bé", 7⟩],
        2) := by
    decide +kernel
  have hrun' : ((compile "blocks" wordlessBlocks).toOption.bind fun g' =>
      (g'.lex "if a\x7bif\x7bé" {}).toOption.map (·.spans)) =
      some [⟨"", "if a", 0⟩, ⟨"block", "\x7bif", 4⟩, ⟨"block", "\x7bé", 7⟩] := by
    decide +kernel
  obtain ⟨g, hg, hlex⟩ := Option.bind_eq_some_iff.1 hrun
  obtain ⟨out, hout, hvalues⟩ := Option.map_eq_some_iff.1 hlex
  obtain ⟨hspans, hlength⟩ := Prod.mk.inj hvalues
  obtain ⟨g', hg', hlex'⟩ := Option.bind_eq_some_iff.1 hrun'
  obtain ⟨out', hout', hspans'⟩ := Option.map_eq_some_iff.1 hlex'
  rw [Except.toOption_eq_some_iff] at hg hg' hout hout'
  have houtline : blocks.SameOutline wordlessBlocks :=
    ⟨rfl, rfl, ⟨rfl, rfl, rfl, rfl, rfl⟩, .cons ⟨rfl, rfl, rfl, rfl, rfl⟩ .nil⟩
  have hwords : wordlessBlocks.Wordless := by
    intro m hm e he
    rcases List.mem_cons.1 hm with rfl | hm
    · cases he
    · rw [List.mem_singleton.1 hm] at he
      cases he
  obtain ⟨htrace, hdiagnostics, hcoarse⟩ :=
    lex_of_sameOutline hg hg' houtline "if a\x7bif\x7bé" {}
  exact ⟨g, g', out, out', hg, hg', houtline, hwords, hout, hout', hspans, hspans', hlength, htrace,
    hdiagnostics, hcoarse hwords out out' hout hout'⟩

end Grammar

end Tint
