import Tint.Grammar.Compiled
import Tint.Proofs.Keywords
import Mathlib.Data.List.Forall2

/-!
# What a compiled grammar is made of

**Inversion (`inner_eq_ok_iff`, `bounded_eq_ok_iff`, `compile_eq_ok_iff`).** A mode is compiled
exactly when each of its parts is, and then it consists of the compiled parts; a grammar likewise.
The compiler's checks are run through here once, so that no later proof follows them again.

**Consequences.** The default mode of a compiled grammar is neither opened nor closed
(`bare_of_compile`), the keyword table of every mode answers with one of its own categories
(`category?_mem_of_compile`), and a mode contains modes of the grammar only
(`contains_lt_of_compile`).
-/

namespace Tint

/-! ## Computations that may fail -/

theorem Except.bind_eq_ok_iff {ε α β : Type} {x : Except ε α} {f : α → Except ε β} {b : β} :
    x >>= f = .ok b ↔ ∃ a, x = .ok a ∧ f a = .ok b := by
  cases x with
  | error e => exact ⟨nofun, nofun⟩
  | ok a =>
    constructor
    · exact fun h => ⟨a, rfl, h⟩
    · rintro ⟨_, h, hf⟩
      cases h
      exact hf

theorem Except.toOption_eq_some_iff {ε α : Type} {x : Except ε α} {a : α} :
    x.toOption = some a ↔ x = .ok a := by
  cases x <;> simp [Except.toOption]

theorem Except.mapM_eq_ok_iff {ε α β : Type} {f : α → Except ε β} {xs : List α} {ys : List β} :
    xs.mapM f = .ok ys ↔ List.Forall₂ (fun x y => f x = .ok y) xs ys := by
  induction xs generalizing ys with
  | nil =>
    rw [List.mapM_nil, List.forall₂_nil_left_iff]
    exact ⟨fun h => by cases h; rfl, fun h => by rw [h]; rfl⟩
  | cons x xs ih =>
    rw [List.mapM_cons, List.forall₂_cons_left_iff]
    simp only [Except.bind_eq_ok_iff, ih]
    constructor
    · rintro ⟨y, hy, ys', hys, h⟩
      cases h
      exact ⟨y, ys', hy, hys, rfl⟩
    · rintro ⟨y, ys', hy, hys, rfl⟩
      exact ⟨y, hy, ys', hys, rfl⟩

theorem map_eq_of_forall₂ {α β γ : Type} {R : α → β → Prop} {φ : α → γ} {ψ : β → γ} {as : List α}
    {bs : List β} (h : List.Forall₂ R as bs) (heq : ∀ a b, R a b → φ a = ψ b) :
    as.map φ = bs.map ψ := by
  rw [← List.forall₂_eq_eq_eq, List.forall₂_map_left_iff, List.forall₂_map_right_iff]
  exact h.imp heq

/-! ## Patterns -/

theorem Pattern.automaton?_eq_some_iff {source : String} {options : PatternOptions}
    {a : Regex.Automaton} :
    Pattern.automaton? source options = some a ↔
      ∃ e t, Regex.Expr.read? source = some e ∧ e.meaning? (flags options) = some t ∧
        t.fits = true ∧ a = .ofTerm t := by
  simp only [automaton?, Option.bind_eq_bind, Option.bind_eq_some_iff]
  constructor
  · rintro ⟨e, he, t, ht, h⟩
    split at h
    · next hfits =>
      cases h
      exact ⟨e, t, he, ht, hfits, rfl⟩
    · cases h
  · rintro ⟨e, t, he, ht, hfits, rfl⟩
    exact ⟨e, he, t, ht, if_pos hfits⟩

theorem Pattern.compile?_eq_some_iff {source : String} {options : PatternOptions} {p : Pattern} :
    Pattern.compile? source options = some p ↔
      ∃ e t, Regex.Expr.read? source = some e ∧ e.meaning? (flags options) = some t ∧
        t.fits = true ∧
        p = ⟨source, .ofTerm t, automaton? (anchoredSource source) options⟩ := by
  simp only [compile?, Option.map_eq_some_iff, automaton?_eq_some_iff]
  constructor
  · rintro ⟨_, ⟨e, t, he, ht, hfits, rfl⟩, rfl⟩
    exact ⟨e, t, he, ht, hfits, rfl⟩
  · rintro ⟨e, t, he, ht, hfits, rfl⟩
    exact ⟨_, ⟨e, t, he, ht, hfits, rfl⟩, rfl⟩

theorem Pattern.automaton_of_compile? {source : String} {options : PatternOptions} {p : Pattern}
    {e : Regex.Expr} {t : Regex.Term} (h : Pattern.compile? source options = some p)
    (hread : Regex.Expr.read? source = some e) (hmeaning : e.meaning? (flags options) = some t) :
    p.automaton = .ofTerm t := by
  obtain ⟨e', t', he, ht, -, rfl⟩ := compile?_eq_some_iff.1 h
  cases hread.symm.trans he
  cases hmeaning.symm.trans ht
  rfl

namespace Grammar

/-! ## Modes -/

namespace Scope

variable {s : Scope} {d : ModeDefinition} {opener closer : Option Pattern} {m : Mode}

theorem pattern_eq_ok_iff {mode : String} {field : PatternField} {source : String} {p : Pattern} :
    s.pattern mode field source = .ok p ↔ Pattern.compile? source s.options = some p := by
  unfold pattern
  cases Pattern.compile? source s.options <;> simp

theorem required_eq_ok_iff {mode : String} {field : PatternField} {source : Option String}
    {p : Pattern} : s.required mode field source = .ok p ↔
      ∃ given, source = some given ∧ Pattern.compile? given s.options = some p := by
  cases source with
  | none => exact ⟨nofun, nofun⟩
  | some given =>
    rw [required, pattern_eq_ok_iff]
    exact ⟨fun h => ⟨given, rfl, h⟩, fun ⟨_, hgiven, h⟩ => Option.some.inj hgiven ▸ h⟩

theorem optional_eq_ok_some_iff {mode : String} {field : PatternField} {source : Option String}
    {p : Pattern} : s.optional mode field source = .ok (some p) ↔
      ∃ given, source = some given ∧ Pattern.compile? given s.options = some p := by
  rw [← required_eq_ok_iff]
  cases source with
  | none => exact ⟨nofun, nofun⟩
  | some given =>
    rw [optional, required]
    cases s.pattern mode field given <;> simp [Except.map]

/-- A name is resolved to the default mode, or to its place behind it. -/
theorem resolve_eq_ok_iff {mode reference : String} {i : Nat} :
    s.resolve mode reference = .ok i ↔
      reference = defaultModeReference ∧ i = 0 ∨ reference ≠ defaultModeReference ∧
        ∃ k, s.modeNames.idxOf? reference = some k ∧ i = k + 1 := by
  constructor
  · intro h
    unfold resolve at h
    split at h
    · next hdefault =>
      cases h
      exact .inl ⟨beq_iff_eq.1 hdefault, rfl⟩
    · next hdefault =>
      split at h
      · next k hk =>
        cases h
        exact .inr ⟨mt beq_iff_eq.2 hdefault, k, hk, rfl⟩
      · cases h
  · rintro (⟨hdefault, rfl⟩ | ⟨hdefault, k, hk, rfl⟩)
    · exact if_pos (beq_iff_eq.2 hdefault)
    · rw [resolve, if_neg (mt beq_iff_eq.1 hdefault), hk]

/-- The mode consists of the compiled parts of its definition, between these boundaries. -/
structure Inner (s : Scope) (d : ModeDefinition) (opener closer : Option Pattern) (m : Mode) :
    Prop where
  className : m.className = d.className
  beginPattern : m.beginPattern = opener
  endPattern : m.endPattern = closer
  illegal : s.optional d.className .illegal d.illegalSource = .ok m.illegal
  contains : List.Forall₂ (fun name i => s.resolve d.className name = .ok i) d.contains m.contains
  keywords : m.keywords = .ofKeywords d.keywords s.options.caseInsensitive
  lexems : ∃ declared,
    List.Forall₂ (fun source p => s.pattern d.className .lexems source = .ok p) d.lexems declared ∧
      s.lexems d.className m.keywords declared = .ok m.lexems
  relevance : m.relevance = d.relevance

theorem inner_eq_ok_iff : s.inner d opener closer = .ok m ↔ Inner s d opener closer m := by
  simp only [inner, Except.bind_eq_ok_iff, Except.mapM_eq_ok_iff]
  constructor
  · rintro ⟨illegal, hi, contains, hc, declared, hd, lexems, hl, hm⟩
    cases hm
    exact ⟨rfl, rfl, rfl, hi, hc, rfl, ⟨declared, hd, hl⟩, rfl⟩
  · rintro ⟨hn, ho, hcl, hi, hc, hk, ⟨declared, hd, hl⟩, hr⟩
    rw [hk] at hl
    refine ⟨_, hi, _, hc, declared, hd, _, hl, ?_⟩
    cases m
    cases hn; cases ho; cases hcl; cases hk; cases hr
    rfl

/-- The mode consists of the compiled parts of its definition, with both boundaries. -/
def Bounded (s : Scope) (d : ModeDefinition) (m : Mode) : Prop :=
  ∃ opener closer, s.required d.className .beginPattern d.beginSource = .ok opener ∧
    s.required d.className .endPattern d.endSource = .ok closer ∧
    Inner s d (some opener) (some closer) m

theorem Inner.unique {m' : Mode} (h : Inner s d opener closer m) (h' : Inner s d opener closer m') :
    m' = m := by
  have hm := inner_eq_ok_iff.2 h
  rw [inner_eq_ok_iff.2 h'] at hm
  exact Except.ok.inj hm

theorem bounded_eq_ok_iff : s.bounded d = .ok m ↔ Bounded s d m := by
  simp only [bounded, Except.bind_eq_ok_iff, inner_eq_ok_iff, Bounded]
  constructor
  · rintro ⟨opener, ho, closer, hc, h⟩
    exact ⟨opener, closer, ho, hc, h⟩
  · rintro ⟨opener, closer, ho, hc, h⟩
    exact ⟨opener, ho, closer, hc, h⟩

theorem Bounded.unique {m' : Mode} (h : Bounded s d m) (h' : Bounded s d m') : m' = m := by
  have hm := bounded_eq_ok_iff.2 h
  rw [bounded_eq_ok_iff.2 h'] at hm
  exact Except.ok.inj hm

end Scope

/-! ## Names -/

/-- The names clash unless they are all different, and different from those seen before. -/
theorem firstClash_eq_none_iff {seen names : List String} :
    firstClash seen names = none ↔
      names.Nodup ∧ ∀ n ∈ names, n ≠ defaultModeReference ∧ n ∉ seen := by
  induction names generalizing seen with
  | nil => simp [firstClash]
  | cons n ns ih =>
    rw [firstClash]
    by_cases hn : n = defaultModeReference ∨ n ∈ seen
    · have hclash : (n == defaultModeReference || seen.contains n) = true := by simpa using hn
      rw [if_pos hclash]
      refine ⟨nofun, fun ⟨_, hall⟩ => ?_⟩
      obtain ⟨hdefault, hseen⟩ := hall n List.mem_cons_self
      exact (hn.elim hdefault hseen).elim
    · have hclash : ¬(n == defaultModeReference || seen.contains n) = true := by simpa using hn
      rw [if_neg hclash, ih, List.nodup_cons]
      obtain ⟨hdefault, hseen⟩ := not_or.1 hn
      constructor
      · rintro ⟨hnodup, hall⟩
        refine ⟨⟨fun hmem => (hall n hmem).2 List.mem_cons_self, hnodup⟩, ?_⟩
        intro other hother
        rcases List.mem_cons.1 hother with rfl | hother
        · exact ⟨hdefault, hseen⟩
        · exact ⟨(hall other hother).1, fun h => (hall other hother).2 (List.mem_cons_of_mem _ h)⟩
      · rintro ⟨⟨hmem, hnodup⟩, hall⟩
        refine ⟨hnodup, fun other hother => ?_⟩
        obtain ⟨hne, hnot⟩ := hall other (List.mem_cons_of_mem _ hother)
        refine ⟨hne, fun h => ?_⟩
        rcases List.mem_cons.1 h with rfl | h
        · exact hmem hother
        · exact hnot h

/-! ## Grammars -/

variable {name : String} {d : GrammarDefinition} {g : Grammar}

/-- Where the modes of a definition are compiled under a name. -/
def scopeOf (name : String) (d : GrammarDefinition) : Scope where
  grammar := Unicode.trim name
  options := d.options
  modeNames := d.modes.map (·.className)

/-- The grammar consists of the compiled modes of its definition, and no two of them clash. -/
structure Compiled (name : String) (d : GrammarDefinition) (g : Grammar) : Prop where
  name_ne : Unicode.trim name ≠ ""
  noClash : firstClash [] (d.modes.map (·.className)) = none
  name_eq : g.name = Unicode.trim name
  options_eq : g.options = d.options
  defaultMode : (scopeOf name d).Inner d.defaultMode none none g.defaultMode
  modes : List.Forall₂ (scopeOf name d).Bounded d.modes g.modes

theorem compile_eq_ok_iff : compile name d = .ok g ↔ Compiled name d g := by
  simp only [compile]
  constructor
  · intro h
    split at h
    · cases h
    next hname =>
    split at h
    · cases h
    next hclash =>
    simp only [Except.bind_eq_ok_iff, Except.mapM_eq_ok_iff, Scope.bounded_eq_ok_iff,
      Scope.inner_eq_ok_iff] at h
    obtain ⟨defaultMode, hd, modes, hm, h⟩ := h
    cases h
    exact ⟨by simpa using hname, hclash, rfl, rfl, hd, hm⟩
  · rintro ⟨hname, hclash, hn, ho, hd, hm⟩
    rw [if_neg (by simpa using hname), hclash]
    simp only [Except.bind_eq_ok_iff, Except.mapM_eq_ok_iff, Scope.bounded_eq_ok_iff,
      Scope.inner_eq_ok_iff]
    refine ⟨_, hd, _, hm, ?_⟩
    cases g
    cases hn; cases ho
    rfl

/-- The default mode is never opened or closed. -/
theorem bare_of_compile (h : compile name d = .ok g) :
    g.defaultMode.beginPattern = none ∧ g.defaultMode.endPattern = none :=
  have hd := (compile_eq_ok_iff.1 h).defaultMode
  ⟨hd.beginPattern, hd.endPattern⟩

theorem mode_mem_allModes (g : Grammar) (i : Nat) : g.mode i ∈ g.allModes := by
  cases i with
  | zero => exact List.mem_cons_self
  | succ i =>
    simp only [mode, mode?, allModes]
    cases h : g.modes[i]? with
    | none => exact List.mem_cons_self
    | some m => exact List.mem_cons_of_mem _ (List.mem_of_getElem? h)

/-- Every mode is compiled from one of the definitions. -/
theorem exists_inner_of_compile (h : compile name d = .ok g) (i : Nat) :
    ∃ md ∈ d.defaultMode :: d.modes, ∃ opener closer,
      (scopeOf name d).Inner md opener closer (g.mode i) := by
  have hc := compile_eq_ok_iff.1 h
  rcases List.mem_cons.1 (mode_mem_allModes g i) with hm | hm
  · rw [hm]
    exact ⟨_, List.mem_cons_self, _, _, hc.defaultMode⟩
  · obtain ⟨k, hk, hm⟩ := List.mem_iff_getElem.1 hm
    have hk' : k < d.modes.length := by rwa [hc.modes.length_eq]
    rw [← hm]
    obtain ⟨opener, closer, _, _, hinner⟩ := hc.modes.get hk' hk
    exact ⟨_, List.mem_cons_of_mem _ (List.getElem_mem hk'), some opener, some closer, hinner⟩

theorem exists_keywords_of_compile (h : compile name d = .ok g) (i : Nat) :
    ∃ keywords ignoreCase, (g.mode i).keywords = .ofKeywords keywords ignoreCase := by
  obtain ⟨_, -, _, _, hinner⟩ := exists_inner_of_compile h i
  exact ⟨_, _, hinner.keywords⟩

theorem category?_mem_of_compile (h : compile name d = .ok g) {i : Nat} {word c : String}
    (hc : (g.mode i).keywords.category? word = some c) : c ∈ (g.mode i).keywords.categories := by
  obtain ⟨keywords, ignoreCase, ht⟩ := exists_keywords_of_compile h i
  exact KeywordTable.category?_mem ht hc

/-! ## Indices of modes -/

theorem mode?_eq_some (g : Grammar) {i : Nat} (h : i < g.modeCount) :
    g.mode? i = some (g.mode i) := by
  cases i with
  | zero => rfl
  | succ i =>
    have hi : i < g.modes.length := Nat.lt_of_succ_lt_succ h
    simp only [mode, mode?, List.getElem?_eq_getElem hi, Option.getD_some]

theorem bounded_of_compile (h : compile name d = .ok g) (hi : i < d.modes.length) :
    (scopeOf name d).Bounded d.modes[i] (g.mode (i + 1)) := by
  have hmodes := (compile_eq_ok_iff.1 h).modes
  have hi' : i < g.modes.length := hmodes.length_eq ▸ hi
  have hmode : g.mode (i + 1) = g.modes[i] := by
    simp only [mode, mode?, List.getElem?_eq_getElem hi', Option.getD_some]
  rw [hmode]
  exact hmodes.get hi hi'

theorem mode_of_length_le (h : compile name d = .ok g) (hi : d.modes.length ≤ i) :
    g.mode (i + 1) = g.defaultMode := by
  rw [(compile_eq_ok_iff.1 h).modes.length_eq] at hi
  simp only [mode, mode?, List.getElem?_eq_none hi, Option.getD_none]

theorem modeCount_of_compile (h : compile name d = .ok g) : g.modeCount = d.modes.length + 1 :=
  congrArg (· + 1) (compile_eq_ok_iff.1 h).modes.length_eq.symm

theorem Scope.resolve_le {s : Scope} {mode reference : String} {i : Nat}
    (h : s.resolve mode reference = .ok i) : i ≤ s.modeNames.length := by
  rcases resolve_eq_ok_iff.1 h with ⟨-, rfl⟩ | ⟨-, k, hk, rfl⟩
  · exact Nat.zero_le _
  · exact Nat.succ_le_of_lt (List.idxOf?_eq_some_iff.1 hk).1

/-- The modes that a mode contains are modes of the grammar. -/
theorem contains_lt_of_compile (h : compile name d = .ok g) (i : Nat) :
    ∀ child ∈ (g.mode i).contains, child < g.modeCount := by
  intro child hchild
  obtain ⟨_, -, _, _, hinner⟩ := exists_inner_of_compile h i
  obtain ⟨k, hk, rfl⟩ := List.mem_iff_getElem.1 hchild
  have hle := Scope.resolve_le
    (hinner.contains.get (by rwa [hinner.contains.length_eq]) hk)
  have hnames : (scopeOf name d).modeNames.length = d.modes.length := List.length_map ..
  have hcount := modeCount_of_compile h
  rw [hnames] at hle
  exact hcount ▸ Nat.lt_succ_of_le hle

/-! ## A small grammar -/

/-- Blocks in braces, which may hold further blocks. Outside of them `if` is a keyword, and inside
of them a semicolon is forbidden. -/
def blocks : GrammarDefinition where
  name := "blocks"
  defaultMode :=
    ((({} : ModeDefinition).containing ["block"]).withKeywords "keyword" ["if"]).cutting ["[a-z]+"]
  modes := [((ModeDefinition.bounded "block" "\\x7b" "\\x7d").containing
    ["block", defaultModeReference]).forbidding ";"]

end Grammar

end Tint
