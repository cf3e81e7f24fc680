import Tint.Proofs.Correspondence
import Tint.Proofs.Size
import Mathlib.Data.List.Nodup

/-!
# The order of the modes, and modes that nothing reaches

A definition lists its modes in some order, and a mode is known by its place in that list. Put the
list into another order, and place further modes anywhere between (`GrammarDefinition.Extends`): all
places change, and with them every reference that has been resolved.

**Renumbering (`renumbering`).** The old place of a name goes to its new place. Both lists are
compiled one by one, so the mode at the new place is the one at the old place with its references
renumbered (`mode_renumbering`).

**Theorem (`lex_of_extends`).** The changed definition is accepted, and its grammar reads every text
as before. The grammars correspond, and here nothing is left out of the outlines; so the outputs are
not only related but equal. The further modes are never entered, since no old mode refers to them.
-/

namespace Tint

/-! ## Definitions with further modes -/

/-- The mode can be compiled beside modes with these names: it has both boundaries, its patterns are
regular expressions, and what it refers to is there. -/
structure ModeDefinition.Fits (options : PatternOptions) (names : List String)
    (m : ModeDefinition) : Prop where
  beginSource : ∃ source p, m.beginSource = some source ∧ Pattern.compile? source options = some p
  endSource : ∃ source p, m.endSource = some source ∧ Pattern.compile? source options = some p
  illegalSource : ∀ source, m.illegalSource = some source →
    ∃ p, Pattern.compile? source options = some p
  contains : ∀ reference ∈ m.contains, reference = defaultModeReference ∨ reference ∈ names
  lexems : ∀ source ∈ m.lexems, ∃ p, Pattern.compile? source options = some p

/-- The mode can be compiled between boundaries that are given. -/
structure ModeDefinition.FitsInside (options : PatternOptions) (names : List String)
    (m : ModeDefinition) : Prop where
  illegalSource : ∀ source, m.illegalSource = some source →
    ∃ p, Pattern.compile? source options = some p
  contains : ∀ reference ∈ m.contains, reference = defaultModeReference ∨ reference ∈ names
  lexems : ∀ source ∈ m.lexems, ∃ p, Pattern.compile? source options = some p

theorem ModeDefinition.Fits.inside {options : PatternOptions} {names : List String}
    {m : ModeDefinition} (h : m.Fits options names) : m.FitsInside options names :=
  ⟨h.illegalSource, h.contains, h.lexems⟩

namespace GrammarDefinition

/-- The names of the modes, without the default mode. -/
def modeNames (d : GrammarDefinition) : List String := d.modes.map (·.className)

/-- The further modes have names of their own, and can be compiled in this definition. -/
structure Admits (d : GrammarDefinition) (taken : List String) (further : List ModeDefinition) :
    Prop where
  nodup : (further.map (·.className)).Nodup
  fresh : ∀ m ∈ further, m.className ≠ defaultModeReference ∧ m.className ∉ taken
  fits : ∀ m ∈ further, m.Fits d.options d.modeNames

/-- The definition `d'` has the modes of `d` in any order, with further modes anywhere between. -/
structure Extends (d d' : GrammarDefinition) : Prop where
  options : d'.options = d.options
  defaultMode : d'.defaultMode = d.defaultMode
  modes : ∃ further, d'.modes.Perm (d.modes ++ further) ∧ d'.Admits d.modeNames further

end GrammarDefinition

/-! ## Modes under other numbers -/

/-- The mode where the modes that it contains have other numbers. -/
def Mode.renumber (σ : Nat → Nat) (m : Mode) : Mode := { m with contains := m.contains.map σ }

theorem Mode.sameOutline_renumber (σ : Nat → Nat) (m : Mode) : m.SameOutline σ (m.renumber σ) :=
  ⟨rfl, rfl, rfl, rfl, rfl⟩

theorem Mode.classifyFrom_contains (m : Mode) (contains : List Nat) (budget : Nat)
    (plain text : List Char) (offset : Nat) :
    ({ m with contains } : Mode).classifyFrom budget plain text offset =
      m.classifyFrom budget plain text offset := by
  induction budget generalizing plain text offset with
  | zero => rfl
  | succ budget ih =>
    simp only [classifyFrom, ih]

/-- How a mode cuts its own text does not depend on the modes that it contains. -/
theorem Mode.classify_contains (m : Mode) (contains : List Nat) (own : List Char) (offset : Nat) :
    ({ m with contains } : Mode).classify own offset = m.classify own offset := by
  simp only [classify, classifyFrom_contains]

namespace Grammar

variable {s : Scope} {m : ModeDefinition} {opener closer : Option Pattern} {compiled : Mode}
  {names names' : List String}

/-! ## Names -/

/-- Where a mode with its place in one list of names is found in another. What has no place there
is taken for the default mode. -/
def renumbering (names names' : List String) : Nat → Nat
  | 0 => 0
  | i + 1 =>
    match names[i]? with
    | some n => names'.idxOf n + 1
    | none => 0

theorem renumbering_succ {n : String} {i : Nat} (h : names[i]? = some n) :
    renumbering names names' (i + 1) = names'.idxOf n + 1 := by
  simp only [renumbering, h]

theorem idxOf?_of_mem {n : String} (h : n ∈ names) : names.idxOf? n = some (names.idxOf n) := by
  obtain ⟨i, hi⟩ := Option.isSome_iff_exists.1 (List.isSome_idxOf?.2 h)
  rw [List.idxOf_eq_getD_idxOf?, hi, Option.getD_some]

namespace Scope

/-- The scope with other names. -/
def withNames (s : Scope) (names : List String) : Scope := { s with modeNames := names }

@[simp] theorem pattern_withNames (mode : String) (field : PatternField) (source : String) :
    (s.withNames names).pattern mode field source = s.pattern mode field source := rfl

@[simp] theorem optional_withNames (mode : String) (field : PatternField)
    (source : Option String) :
    (s.withNames names).optional mode field source = s.optional mode field source := rfl

@[simp] theorem lexems_withNames (mode : String) (keywords : KeywordTable)
    (declared : List Pattern) :
    (s.withNames names).lexems mode keywords declared = s.lexems mode keywords declared := by
  simp only [lexems, pattern_withNames]

theorem resolve_withNames {mode reference : String} {i : Nat}
    (h : s.resolve mode reference = .ok i) (hnames : s.modeNames ⊆ names) :
    (s.withNames names).resolve mode reference = .ok (renumbering s.modeNames names i) := by
  rcases resolve_eq_ok_iff.1 h with ⟨hdefault, rfl⟩ | ⟨hdefault, k, hk, rfl⟩
  · exact resolve_eq_ok_iff.2 (.inl ⟨hdefault, rfl⟩)
  · obtain ⟨hlt, hname, -⟩ := List.idxOf?_eq_some_iff.1 hk
    have hmem : reference ∈ names := hnames (hname ▸ List.getElem_mem hlt)
    have hget : s.modeNames[k]? = some reference := hname ▸ List.getElem?_eq_getElem hlt
    exact resolve_eq_ok_iff.2 (.inr ⟨hdefault, _, idxOf?_of_mem hmem, renumbering_succ hget⟩)

theorem Inner.withNames (h : s.Inner m opener closer compiled) (hnames : s.modeNames ⊆ names) :
    (s.withNames names).Inner m opener closer
      (compiled.renumber (renumbering s.modeNames names)) where
  className := h.className
  beginPattern := h.beginPattern
  endPattern := h.endPattern
  illegal := by
    rw [optional_withNames]
    exact h.illegal
  contains := by
    show List.Forall₂ _ m.contains (compiled.contains.map _)
    rw [List.forall₂_map_right_iff]
    exact h.contains.imp fun _ _ hresolve => resolve_withNames hresolve hnames
  keywords := h.keywords
  lexems := by
    obtain ⟨declared, hdeclared, hlexems⟩ := h.lexems
    refine ⟨declared, hdeclared, ?_⟩
    rw [lexems_withNames]
    exact hlexems
  relevance := h.relevance

theorem Bounded.withNames (h : s.Bounded m compiled) (hnames : s.modeNames ⊆ names) :
    (s.withNames names).Bounded m (compiled.renumber (renumbering s.modeNames names)) := by
  obtain ⟨opener, closer, hopener, hcloser, hinner⟩ := h
  exact ⟨opener, closer, hopener, hcloser, hinner.withNames hnames⟩

end Scope

/-! ## Modes that can be compiled -/

theorem exists_forall₂ {α β : Type} {R : α → β → Prop} {as : List α} (h : ∀ a ∈ as, ∃ b, R a b) :
    ∃ bs, List.Forall₂ R as bs := by
  induction as with
  | nil => exact ⟨[], .nil⟩
  | cons a as ih =>
    obtain ⟨b, hb⟩ := h a List.mem_cons_self
    obtain ⟨bs, hbs⟩ := ih fun a ha => h a (List.mem_cons_of_mem _ ha)
    exact ⟨b :: bs, .cons hb hbs⟩

namespace Scope

theorem exists_resolve (mode : String) {reference : String}
    (h : reference = defaultModeReference ∨ reference ∈ s.modeNames) :
    ∃ i, s.resolve mode reference = .ok i := by
  by_cases hdefault : reference = defaultModeReference
  · exact ⟨0, resolve_eq_ok_iff.2 (.inl ⟨hdefault, rfl⟩)⟩
  · exact ⟨_, resolve_eq_ok_iff.2
      (.inr ⟨hdefault, _, idxOf?_of_mem (h.resolve_left hdefault), rfl⟩)⟩

/-- A mode always finds lexems: where it declares none, there is the pattern of words. -/
theorem exists_lexems (s : Scope) (mode : String) (keywords : KeywordTable)
    (declared : List Pattern) : ∃ lexems, s.lexems mode keywords declared = .ok lexems := by
  unfold lexems
  split
  · exact ⟨_, rfl⟩
  · split
    · obtain ⟨p, hp⟩ := Pattern.exists_compile?_wordSource s.options
      rw [pattern_eq_ok_iff.2 hp]
      exact ⟨_, rfl⟩
    · exact ⟨_, rfl⟩

theorem exists_inner (h : m.FitsInside s.options s.modeNames) (opener closer : Option Pattern) :
    ∃ compiled, s.Inner m opener closer compiled := by
  have hillegal : ∃ illegal, s.optional m.className .illegal m.illegalSource = .ok illegal := by
    cases hsource : m.illegalSource with
    | none => exact ⟨none, rfl⟩
    | some source =>
      obtain ⟨p, hp⟩ := h.illegalSource source hsource
      exact ⟨some p, by rw [optional, pattern_eq_ok_iff.2 hp]; rfl⟩
  obtain ⟨illegal, hillegal⟩ := hillegal
  obtain ⟨contains, hcontains⟩ := exists_forall₂ fun reference href =>
    exists_resolve m.className (h.contains reference href)
  have hdeclared : ∀ source ∈ m.lexems, ∃ p, s.pattern m.className .lexems source = .ok p := by
    intro source hsource
    obtain ⟨p, hp⟩ := h.lexems source hsource
    exact ⟨p, pattern_eq_ok_iff.2 hp⟩
  obtain ⟨declared, hdeclared⟩ := exists_forall₂ hdeclared
  obtain ⟨lexems, hlexems⟩ := s.exists_lexems m.className
    (.ofKeywords m.keywords s.options.caseInsensitive) declared
  exact ⟨⟨m.className, opener, closer, illegal, contains, _, lexems, m.relevance⟩,
    rfl, rfl, rfl, hillegal, hcontains, rfl, ⟨declared, hdeclared, hlexems⟩, rfl⟩

theorem exists_bounded (h : m.Fits s.options s.modeNames) : ∃ compiled, s.Bounded m compiled := by
  obtain ⟨_, opener, hbegin, hopener⟩ := h.beginSource
  obtain ⟨_, closer, hend, hcloser⟩ := h.endSource
  obtain ⟨compiled, hinner⟩ := exists_inner h.inside (some opener) (some closer)
  refine ⟨compiled, opener, closer, ?_, ?_, hinner⟩
  · rw [hbegin]
    exact pattern_eq_ok_iff.2 hopener
  · rw [hend]
    exact pattern_eq_ok_iff.2 hcloser

end Scope

end Grammar

/-! ## The extended definition -/

theorem GrammarDefinition.getElem_idxOf_className {d : GrammarDefinition} {m : ModeDefinition}
    (hnodup : d.modeNames.Nodup) (hm : m ∈ d.modes) :
    ∃ h : d.modeNames.idxOf m.className < d.modes.length,
      d.modes[d.modeNames.idxOf m.className] = m := by
  have hlt := List.idxOf_lt_length_of_mem (List.mem_map_of_mem (f := (·.className)) hm)
  have hfound : d.modeNames[d.modeNames.idxOf m.className] = m.className := List.getElem_idxOf hlt
  have hplace : d.modeNames.idxOf m.className < d.modes.length := by
    rwa [List.length_map] at hlt
  refine ⟨hplace, List.inj_on_of_nodup_map hnodup (List.getElem_mem hplace) hm ?_⟩
  exact (List.getElem_map ..).symm.trans hfound

namespace GrammarDefinition.Extends

open Grammar

variable {name : String} {d d' : GrammarDefinition} {g : Grammar}

theorem mem_modes (hd : d.Extends d') {m : ModeDefinition} (hm : m ∈ d.modes) : m ∈ d'.modes := by
  obtain ⟨further, hperm, -⟩ := hd.modes
  exact hperm.mem_iff.2 (List.mem_append_left _ hm)

theorem modeNames_subset (hd : d.Extends d') : d.modeNames ⊆ d'.modeNames := by
  intro n hn
  obtain ⟨m, hm, rfl⟩ := List.mem_map.1 hn
  exact List.mem_map_of_mem (hd.mem_modes hm)

theorem noClash (hd : d.Extends d') (h : firstClash [] d.modeNames = none) :
    firstClash [] d'.modeNames = none := by
  obtain ⟨further, hperm, hadmits⟩ := hd.modes
  obtain ⟨hnodup, hproper⟩ := firstClash_eq_none_iff.1 h
  have hnames : d'.modeNames.Perm (d.modeNames ++ further.map (·.className)) := by
    rw [modeNames, modeNames, ← List.map_append]
    exact hperm.map _
  refine firstClash_eq_none_iff.2 ⟨?_, ?_⟩
  · rw [hnames.nodup_iff, List.nodup_append]
    refine ⟨hnodup, hadmits.nodup, ?_⟩
    rintro n hn _ hn' rfl
    obtain ⟨m, hm, rfl⟩ := List.mem_map.1 hn'
    exact (hadmits.fresh m hm).2 hn
  · intro n hn
    rcases List.mem_append.1 (hnames.mem_iff.1 hn) with hn | hn
    · exact hproper n hn
    · obtain ⟨m, hm, rfl⟩ := List.mem_map.1 hn
      exact ⟨(hadmits.fresh m hm).1, List.not_mem_nil⟩

theorem scopeOf_eq (hd : d.Extends d') (name : String) :
    scopeOf name d' = (scopeOf name d).withNames d'.modeNames := by
  rw [scopeOf, hd.options]
  rfl

theorem exists_bounded (hd : d.Extends d') (h : Compiled name d g) :
    ∀ m ∈ d'.modes, ∃ compiled, (scopeOf name d').Bounded m compiled := by
  obtain ⟨further, hperm, hadmits⟩ := hd.modes
  intro m hm
  rcases List.mem_append.1 (hperm.mem_iff.1 hm) with hold | hnew
  · obtain ⟨i, hi, rfl⟩ := List.mem_iff_getElem.1 hold
    have hbounded := h.modes.get hi (h.modes.length_eq ▸ hi)
    rw [hd.scopeOf_eq]
    exact ⟨_, hbounded.withNames hd.modeNames_subset⟩
  · exact Scope.exists_bounded (hadmits.fits m hnew)

/-- The extended definition is accepted as well. -/
theorem exists_compile (hd : d.Extends d') (h : compile name d = .ok g) :
    ∃ g', compile name d' = .ok g' := by
  have hc := compile_eq_ok_iff.1 h
  obtain ⟨modes, hmodes⟩ := exists_forall₂ (hd.exists_bounded hc)
  have hdefault := hc.defaultMode.withNames hd.modeNames_subset
  rw [← hd.scopeOf_eq, ← hd.defaultMode] at hdefault
  exact ⟨⟨_, d'.options, _, modes⟩,
    compile_eq_ok_iff.2 ⟨hc.name_ne, hd.noClash hc.noClash, rfl, rfl, hdefault, hmodes⟩⟩

end GrammarDefinition.Extends

namespace Grammar

variable {name : String} {d d' : GrammarDefinition} {g g' : Grammar}

theorem defaultMode_renumbering (h : compile name d = .ok g) (h' : compile name d' = .ok g')
    (hd : d.Extends d') :
    g'.defaultMode = g.defaultMode.renumber (renumbering d.modeNames d'.modeNames) := by
  have hinner := (compile_eq_ok_iff.1 h).defaultMode.withNames hd.modeNames_subset
  have hinner' := (compile_eq_ok_iff.1 h').defaultMode
  rw [hd.scopeOf_eq, hd.defaultMode] at hinner'
  exact hinner.unique hinner'

/-- At its new place stands each mode as before, with its references renumbered. -/
theorem mode_renumbering (h : compile name d = .ok g) (h' : compile name d' = .ok g')
    (hd : d.Extends d') (i : Nat) :
    g'.mode (renumbering d.modeNames d'.modeNames i) =
      (g.mode i).renumber (renumbering d.modeNames d'.modeNames) := by
  cases i with
  | zero => exact defaultMode_renumbering h h' hd
  | succ i =>
    rcases Nat.lt_or_ge i d.modes.length with hi | hi
    · have hname : d.modeNames[i]? = some d.modes[i].className := by
        rw [GrammarDefinition.modeNames, List.getElem?_map, List.getElem?_eq_getElem hi]
        rfl
      -- no other mode of the new definition has the name, so it leads to the same mode
      have hnodup := (firstClash_eq_none_iff.1 (compile_eq_ok_iff.1 h').noClash).1
      obtain ⟨hplace, hsame⟩ := GrammarDefinition.getElem_idxOf_className hnodup
        (hd.mem_modes (List.getElem_mem hi))
      have hbounded := (bounded_of_compile h hi).withNames hd.modeNames_subset
      have hbounded' := bounded_of_compile h' hplace
      rw [hsame, hd.scopeOf_eq] at hbounded'
      rw [renumbering_succ hname]
      exact hbounded.unique hbounded'
    -- what is not the number of a mode stands for the default mode in both grammars
    · have hname : d.modeNames[i]? = none := by
        rw [GrammarDefinition.modeNames, List.getElem?_map, List.getElem?_eq_none hi]
        rfl
      have hplace : renumbering d.modeNames d'.modeNames (i + 1) = 0 := by
        simp only [renumbering, hname]
      rw [hplace, mode_of_length_le h hi]
      exact defaultMode_renumbering h h' hd

end Grammar

namespace Lexer

variable {job : Job} {g' : Grammar} {σ : Nat → Nat}

theorem ownSpans_renumber
    (h : ∀ i, ∃ contains, g'.mode (σ i) = { job.grammar.mode i with contains })
    (stack : ModeStack) (stop : Nat) :
    ownSpans (job.under g') (stack.renumber σ).top stop = ownSpans job stack.top stop := by
  obtain ⟨contains, hmode⟩ := h stack.top.mode
  rw [ownSpans, mode_top_renumber, textStart_top_renumber]
  show (g'.mode (σ stack.top.mode)).classify _ _ = _
  rw [hmode, Mode.classify_contains]
  rfl

/-- Where the same matches win and modes differ in what they contain at most, the outputs are the
same. -/
theorem carries_eq_of_sameWinners (h : SameWinners job.grammar g' σ)
    (hmode : ∀ i, ∃ contains, g'.mode (σ i) = { job.grammar.mode i with contains }) :
    Carries job g' σ Eq where
  ending c := by
    rw [ending, ending, ← ownSpans_renumber hmode, ← unterminated_renumber h]
    rfl
  after stack b _ _ hout := by
    have hrelevance : (b.renumber σ).relevance g' = b.relevance job.grammar := by
      obtain ⟨transition, f⟩ := b
      cases transition with
      | forbidden => rfl
      | close => rfl
      | enter child =>
        obtain ⟨contains, hchild⟩ := hmode child
        show (g'.mode (σ child)).relevance = _
        rw [hchild]
        rfl
    rw [ownSpans_renumber hmode, hrelevance, hout]
  withDefault _ _ hout := by
    obtain ⟨contains, hzero⟩ := hmode 0
    rw [h.start] at hzero
    have hdefault : g'.defaultMode = { job.grammar.defaultMode with contains } := hzero
    rw [hout]
    show _ = LexOutput.after [] g'.defaultMode.relevance _
    rw [hdefault]
    rfl

/-- Where nothing but the numbers differs, the outputs are the same. -/
theorem carries_eq (h : Grammar.Corresponds job.grammar g' σ)
    (hmode : ∀ i, g'.mode (σ i) = (job.grammar.mode i).renumber σ) :
    Carries job g' σ Eq :=
  carries_eq_of_sameWinners (sameWinners_of_corresponds h) fun i => ⟨_, hmode i⟩

end Lexer

namespace Grammar

/-- **Neither the order of the modes matters nor what other modes there are.** Take a definition
that is accepted. Put its modes into any order and place further modes anywhere between, which have
names of their own and can be compiled. The new definition is accepted as well, and with it reading
gives for every text, under whatever limits, what it gives with the old one. -/
theorem lex_of_extends {name : String} {d d' : GrammarDefinition} {g : Grammar}
    (h : compile name d = .ok g) (hd : d.Extends d') :
    ∃ g', compile name d' = .ok g' ∧
      ∀ text options, g'.lex text options = g.lex text options := by
  obtain ⟨g', h'⟩ := hd.exists_compile h
  have hmode := mode_renumbering h h' hd
  have hg : Corresponds g g' (renumbering d.modeNames d'.modeNames) := by
    refine ⟨?_, rfl, ?_⟩
    · rw [(compile_eq_ok_iff.1 h').name_eq, (compile_eq_ok_iff.1 h).name_eq]
    · intro i
      rw [hmode]
      exact (g.mode i).sameOutline_renumber _
  refine ⟨g', h', fun text options => ?_⟩
  obtain ⟨hagree, -⟩ := lex_renumber hg text options (Lexer.carries_eq hg hmode)
  exact hagree.eq

/-- Notes, which run to the end of a line and may hold blocks. -/
def note : ModeDefinition :=
  ((ModeDefinition.bounded "note" "#" "$").containing ["block", "note"]).withKeywords "tag" ["todo"]

/-- Blocks with notes before them. -/
def notedBlocks : GrammarDefinition := { blocks with modes := note :: blocks.modes }

theorem extends_notedBlocks : blocks.Extends notedBlocks where
  options := rfl
  defaultMode := rfl
  modes := by
    have hopener : (Pattern.compile? "#" notedBlocks.options).isSome = true := by decide +kernel
    have hcloser : (Pattern.compile? "$" notedBlocks.options).isSome = true := by decide +kernel
    obtain ⟨opener, hopener⟩ := Option.isSome_iff_exists.1 hopener
    obtain ⟨closer, hcloser⟩ := Option.isSome_iff_exists.1 hcloser
    have hperm : List.Perm ([note] ++ blocks.modes) (blocks.modes ++ [note]) :=
      List.perm_append_comm
    refine ⟨[note], hperm, by decide, by decide, ?_⟩
    intro m hm
    rw [List.mem_singleton.1 hm]
    exact ⟨⟨_, opener, rfl, hopener⟩, ⟨_, closer, rfl, hcloser⟩, nofun, by decide, nofun⟩

/-- Blocks have another number beside notes, but they are read as without them. -/
theorem lex_of_extends_blocks :
    ∃ g g' out, compile "blocks" blocks = .ok g ∧ blocks.Extends notedBlocks ∧
      compile "blocks" notedBlocks = .ok g' ∧ (g.mode 1).className = "block" ∧
      (g'.mode 2).className = "block" ∧ g.lex "if#\x7b\x7bé" {} = .ok out ∧
      out.spans =
        [⟨"keyword", "if", 0⟩, ⟨"", "#", 2⟩, ⟨"block", "\x7b", 3⟩, ⟨"block", "\x7bé", 4⟩] ∧
      g'.lex "if#\x7b\x7bé" {} = .ok out := by
  have hrun : ((compile "blocks" blocks).toOption.bind fun g =>
      (g.lex "if#\x7b\x7bé" {}).toOption.map fun out => (out.spans, (g.mode 1).className)) =
      some ([⟨"keyword", "if", 0⟩, ⟨"", "#", 2⟩, ⟨"block", "\x7b", 3⟩, ⟨"block", "\x7bé", 4⟩],
        "block") := by
    decide +kernel
  obtain ⟨g, hg, hlex⟩ := Option.bind_eq_some_iff.1 hrun
  obtain ⟨out, hout, hvalues⟩ := Option.map_eq_some_iff.1 hlex
  obtain ⟨hspans, hname⟩ := Prod.mk.inj hvalues
  rw [Except.toOption_eq_some_iff] at hg hout
  obtain ⟨g', hg', hsame⟩ := lex_of_extends hg extends_notedBlocks
  have hname' : (g'.mode 2).className = "block" := by
    have hmode := mode_renumbering hg hg' extends_notedBlocks 1
    exact (congrArg Mode.className hmode).trans hname
  exact ⟨g, g', out, hg, extends_notedBlocks, hg', hname, hname', hout, hspans,
    (hsame _ _).trans hout⟩

end Grammar

end Tint
