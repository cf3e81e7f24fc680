import Tint.Proofs.Compile
import Mathlib.Algebra.Group.Nat.Defs

/-!
# Modes and their numbers

A mode of a grammar is known by its number. Numbers are given twice: names are put into a table
before any mode is compiled (`numbered`), so that a reference may point to a mode that comes later,
and the compiled modes are then counted as they come. A table of numbers of 32 bits serves as long
as there are fewer than `2 ^ 32` modes.

**Theorem (`image_of_compile`).** Both ways of counting agree, and every mode is the image of its
definition under the same number (`Mode.IsImage`). A reference leads to the one mode of that name.

Both ways are compared with the place of a name in the list of all names (`numbered_spec`,
`modeIndex?_of_compile`). Since no two names are the same, there is one place for each
(`idxOf?_eq_some_iff_getElem?`).
-/

namespace Tint

/-- In a list without repetitions, the place of a member is the place where it is found. -/
theorem idxOf?_eq_some_iff_getElem? {α : Type} [BEq α] [LawfulBEq α] {l : List α} (h : l.Nodup)
    {a : α} {i : Nat} : l.idxOf? a = some i ↔ l[i]? = some a := by
  rw [List.idxOf?_eq_some_iff, List.getElem?_eq_some_iff]
  constructor
  · rintro ⟨hi, ha, -⟩
    exact ⟨hi, ha⟩
  · rintro ⟨hi, ha⟩
    refine ⟨hi, ha, fun j hj hja => ?_⟩
    exact hj.ne (h.getElem_inj_iff.1 (hja.trans ha.symm))

namespace Grammar

variable {name : String} {d : GrammarDefinition} {g : Grammar}

/-! ## The table of numbers -/

/-- Put names into a table, each with the number that comes next. A clash ends it. -/
def numberFrom (table : OrderedMap UInt32) (i : Nat) :
    List String → Except String (OrderedMap UInt32)
  | [] => .ok table
  | n :: ns =>
    if n == defaultModeReference || table.contains n then .error n
    else numberFrom (table.put n (.ofNat i + 1)) (i + 1) ns

/-- The table of the numbers of these names, from one on. -/
def numbered (names : List String) : Except String (OrderedMap UInt32) := numberFrom .empty 0 names

/-- The number that a reference leads to by a table of numbers. -/
def numberOf? (table : OrderedMap UInt32) (reference : String) : Option Nat :=
  if reference = defaultModeReference then some 0 else (table.get? reference).map UInt32.toNat

theorem numberFrom_spec {seen names : List String} {table : OrderedMap UInt32} {i : Nat}
    (hseen : ∀ n, table.contains n = seen.contains n) :
    match firstClash seen names with
    | some n => numberFrom table i names = .error n
    | none => ∃ table', numberFrom table i names = .ok table' ∧ ∀ c, table'.get? c =
        (table.get? c).or ((names.idxOf? c).map fun k => .ofNat (i + k) + 1) := by
  induction names generalizing seen table i with
  | nil => exact ⟨table, rfl, fun c => by simp⟩
  | cons n ns ih =>
    rw [firstClash, numberFrom, hseen n]
    by_cases hclash : (n == defaultModeReference || seen.contains n) = true
    · rw [if_pos hclash, if_pos hclash]
    · rw [if_neg hclash, if_neg hclash]
      have hput : ∀ m, (table.put n (.ofNat i + 1)).contains m = (n :: seen).contains m := by
        intro m
        rw [OrderedMap.contains_put, List.contains_cons, hseen]
      have hrest := ih (i := i + 1) hput
      cases hfirst : firstClash (n :: seen) ns with
      | some c =>
        rw [hfirst] at hrest
        exact hrest
      | none =>
        rw [hfirst] at hrest
        obtain ⟨table', htable, hget⟩ := hrest
        refine ⟨table', htable, fun c => ?_⟩
        rw [hget, OrderedMap.get?_put, List.idxOf?_cons]
        by_cases hc : c = n
        · -- the name is new to the table, so its number is the one given here
          have hnew : seen.contains n = false := by
            rw [Bool.not_eq_true, Bool.or_eq_false_iff] at hclash
            exact hclash.2
          have hnone : table.get? n = none :=
            OrderedMap.get?_eq_none_iff.2 ((hseen n).trans hnew)
          rw [if_pos hc, hc, if_pos (beq_self_eq_true n), hnone]
          rfl
        · rw [if_neg hc, if_neg (by simpa using Ne.symm hc), Option.map_map]
          congr 2
          funext k
          rw [Function.comp_apply, Nat.add_right_comm, Nat.add_assoc]

/-- The table knows every name under its place and one, unless two names clash. -/
theorem numbered_spec (names : List String) :
    match firstClash [] names with
    | some n => numbered names = .error n
    | none => ∃ table, numbered names = .ok table ∧
        ∀ c, table.get? c = (names.idxOf? c).map fun k => .ofNat k + 1 := by
  have hseen : ∀ n, (OrderedMap.empty : OrderedMap UInt32).contains n =
      ([] : List String).contains n := fun _ => rfl
  have h := @numberFrom_spec [] names .empty 0 hseen
  cases hfirst : firstClash [] names with
  | some n =>
    rw [hfirst] at h
    exact h
  | none =>
    rw [hfirst] at h
    obtain ⟨table, htable, hget⟩ := h
    refine ⟨table, htable, fun c => (hget c).trans ?_⟩
    simp only [Nat.zero_add]
    exact Option.none_or

/-! ## Names of modes -/

/-- The mode with this number is declared under this name. -/
def Declares (g : Grammar) (i : Nat) (className : String) : Prop :=
  i ≠ 0 ∧ ∃ m, g.mode? i = some m ∧ m.className = className

/-- The number is that of the mode that a reference names: the default mode under the name reserved
for it, and otherwise the one mode that is declared under the name. -/
structure Refers (g : Grammar) (reference : String) (i : Nat) : Prop where
  lt : i < g.modeCount
  eq_zero_iff : i = 0 ↔ reference = defaultModeReference
  declares_iff : reference ≠ defaultModeReference → ∀ j, g.Declares j reference ↔ j = i

theorem lt_modeCount_of_mode? {i : Nat} {m : Mode} (h : g.mode? i = some m) : i < g.modeCount := by
  cases i with
  | zero => exact Nat.succ_pos _
  | succ i => exact Nat.succ_lt_succ (List.getElem?_eq_some_iff.1 h).1

theorem classNames_of_compile (h : compile name d = .ok g) :
    g.modes.map (·.className) = d.modes.map (·.className) := by
  refine (map_eq_of_forall₂ (compile_eq_ok_iff.1 h).modes fun m compiled hm => ?_).symm
  obtain ⟨_, _, -, -, hinner⟩ := hm
  exact hinner.className.symm

theorem noClash_of_compile (h : compile name d = .ok g) :
    (d.modes.map (·.className)).Nodup ∧
      ∀ n ∈ d.modes.map (·.className), n ≠ defaultModeReference := by
  obtain ⟨hnodup, hall⟩ := firstClash_eq_none_iff.1 (compile_eq_ok_iff.1 h).noClash
  exact ⟨hnodup, fun n hn => (hall n hn).1⟩

/-- A name is looked up by its place in the list of all names. -/
theorem modeIndex?_of_compile (h : compile name d = .ok g) (c : String) :
    g.modeIndex? c = ((d.modes.map (·.className)).idxOf? c).map (· + 1) := by
  rw [← classNames_of_compile h, List.idxOf?, List.findIdx?_map]
  rfl

theorem declares_iff_getElem? (h : compile name d = .ok g) {c : String} {i : Nat} :
    g.Declares i c ↔ ∃ k, i = k + 1 ∧ (d.modes.map (·.className))[k]? = some c := by
  rw [← classNames_of_compile h]
  cases i with
  | zero => simp [Declares]
  | succ i => simp [Declares, mode?]

/-- Looking up a name gives the number of the mode that is declared under it. -/
theorem modeIndex?_eq_some_iff (h : compile name d = .ok g) {c : String} {i : Nat} :
    g.modeIndex? c = some i ↔ g.Declares i c := by
  have hnodup := (noClash_of_compile h).1
  rw [modeIndex?_of_compile h, declares_iff_getElem? h, Option.map_eq_some_iff]
  simp only [idxOf?_eq_some_iff_getElem? hnodup, and_comm, eq_comm]

theorem toOption_resolve_of_compile (h : compile name d = .ok g) (mode reference : String) :
    ((scopeOf name d).resolve mode reference).toOption =
      if reference = defaultModeReference then some 0 else g.modeIndex? reference := by
  have hnames : (scopeOf name d).modeNames = d.modes.map (·.className) := rfl
  rw [modeIndex?_of_compile h, Scope.resolve, hnames]
  by_cases hdefault : reference = defaultModeReference
  · rw [if_pos (beq_iff_eq.2 hdefault), if_pos hdefault]
    rfl
  · rw [if_neg (mt beq_iff_eq.1 hdefault), if_neg hdefault]
    cases (d.modes.map (·.className)).idxOf? reference <;> rfl

theorem refers_of_resolve (h : compile name d = .ok g) {mode reference : String} {i : Nat}
    (hresolve : (scopeOf name d).resolve mode reference = .ok i) : g.Refers reference i := by
  have hi := toOption_resolve_of_compile h mode reference
  rw [hresolve] at hi
  by_cases hdefault : reference = defaultModeReference
  · rw [if_pos hdefault] at hi
    cases hi
    exact ⟨Nat.succ_pos _, ⟨fun _ => hdefault, fun _ => rfl⟩, fun hne => absurd hdefault hne⟩
  · rw [if_neg hdefault] at hi
    have hindex : g.modeIndex? reference = some i := hi.symm
    obtain ⟨hne, m, hm, -⟩ := (modeIndex?_eq_some_iff h).1 hindex
    refine ⟨lt_modeCount_of_mode? hm, ⟨fun hzero => absurd hzero hne,
      fun hd => absurd hd hdefault⟩, fun _ j => ?_⟩
    rw [← modeIndex?_eq_some_iff h, hindex, Option.some_inj, eq_comm]

end Grammar

/-! ## Images of modes -/

/-- All patterns of a mode. -/
def Mode.patterns (m : Mode) : List Pattern :=
  m.beginPattern.toList ++ m.endPattern.toList ++ m.illegal.toList ++ m.lexems

/-- The sources of the patterns that cut words out of the text of a mode: none without words, and
what stands for any word where the author wrote none. -/
def ModeDefinition.lexemSources (m : ModeDefinition) : List String :=
  if m.Wordless then [] else if m.lexems = [] then [Grammar.wordSource] else m.lexems

theorem ModeDefinition.lexemSources_eq_nil_iff {m : ModeDefinition} :
    m.lexemSources = [] ↔ m.Wordless := by
  unfold lexemSources
  split
  · next h => exact ⟨fun _ => h, fun _ => rfl⟩
  · next h =>
    split
    · exact ⟨nofun, fun hm => absurd hm h⟩
    · next hlexems => exact ⟨fun hnil => absurd hnil hlexems, fun hm => absurd hm h⟩

/-- In this grammar, the mode is the image of its definition, between boundaries that are written
like this. -/
structure Mode.IsImage (g : Grammar) (m : ModeDefinition) (opener closer : Option String)
    (compiled : Mode) : Prop where
  className : compiled.className = m.className
  beginSource : compiled.beginPattern.map (·.source) = opener
  endSource : compiled.endPattern.map (·.source) = closer
  illegalSource : compiled.illegal.map (·.source) = m.illegalSource
  contains : List.Forall₂ g.Refers m.contains compiled.contains
  keywords : compiled.keywords = .ofKeywords m.keywords g.options.caseInsensitive
  lexems_eq_nil_iff : compiled.lexems = [] ↔ m.Wordless
  lexemSources : compiled.lexems.map (·.source) = m.lexemSources
  relevance : compiled.relevance = m.relevance
  patterns : ∀ p ∈ compiled.patterns, Pattern.compile? p.source g.options = some p

theorem Pattern.source_of_compile? {source : String} {options : PatternOptions} {p : Pattern}
    (h : compile? source options = some p) : p.source = source := by
  obtain ⟨_, _, -, -, -, rfl⟩ := compile?_eq_some_iff.1 h
  rfl

theorem Pattern.compile?_source {source : String} {options : PatternOptions} {p : Pattern}
    (h : compile? source options = some p) : compile? p.source options = some p := by
  rwa [source_of_compile? h]

theorem Pattern.compiled_of_forall₂ {options : PatternOptions} {sources : List String}
    {ps : List Pattern}
    (h : List.Forall₂ (fun source p => compile? source options = some p) sources ps) :
    ps.map (·.source) = sources ∧ ∀ p ∈ ps, compile? p.source options = some p := by
  induction h with
  | nil => exact ⟨rfl, nofun⟩
  | cons hp _ ih =>
    rw [List.map_cons, source_of_compile? hp, ih.1]
    exact ⟨rfl, List.forall_mem_cons.2 ⟨compile?_source hp, ih.2⟩⟩

namespace Grammar

namespace Scope

variable {s : Scope} {m : ModeDefinition} {opener closer : Option Pattern} {compiled : Mode}

theorem optional_compiled {mode : String} {field : PatternField} {source : Option String}
    {compiled : Option Pattern} (h : s.optional mode field source = .ok compiled) :
    compiled.map (·.source) = source ∧
      ∀ p ∈ compiled, Pattern.compile? p.source s.options = some p := by
  cases compiled with
  | none =>
    cases source with
    | none => exact ⟨rfl, nofun⟩
    | some given =>
      rw [optional] at h
      cases hp : s.pattern mode field given <;> rw [hp] at h <;> cases h
  | some p =>
    obtain ⟨given, rfl, hp⟩ := optional_eq_ok_some_iff.1 h
    refine ⟨congrArg some (Pattern.source_of_compile? hp), fun q hq => ?_⟩
    cases hq
    exact Pattern.compile?_source hp

/-- The lexems of a mode are compiled from what its author wrote, or from the pattern of words. -/
theorem Inner.lexems_compiled (h : s.Inner m opener closer compiled) :
    List.Forall₂ (fun source p => Pattern.compile? source s.options = some p) m.lexemSources
      compiled.lexems := by
  obtain ⟨declared, hdeclared, hlexems⟩ := h.lexems
  simp only [pattern_eq_ok_iff] at hdeclared
  rw [Scope.lexems, h.keywords] at hlexems
  rw [ModeDefinition.lexemSources]
  by_cases hwords : m.Wordless
  · rw [if_pos ((KeywordTable.isEmpty_ofKeywords_iff _).2 hwords)] at hlexems
    rw [if_pos hwords, ← Except.ok.inj hlexems]
    exact .nil
  · rw [if_neg (mt (KeywordTable.isEmpty_ofKeywords_iff _).1 hwords)] at hlexems
    rw [if_neg hwords]
    generalize m.lexems = sources at hdeclared ⊢
    cases hdeclared with
    | nil =>
      rw [if_pos rfl]
      cases hpattern : s.pattern m.className .lexems wordSource with
      | error _ =>
        rw [hpattern] at hlexems
        cases hlexems
      | ok p =>
        rw [hpattern] at hlexems
        rw [← Except.ok.inj hlexems]
        exact .cons (pattern_eq_ok_iff.1 hpattern) .nil
    | cons hp hps =>
      rw [if_neg (List.cons_ne_nil _ _), ← Except.ok.inj hlexems]
      exact .cons hp hps

/-- What is compiled between boundaries is the image of its definition. -/
theorem Inner.isImage {name : String} {d : GrammarDefinition} {g : Grammar}
    (h : compile name d = .ok g) (hm : (scopeOf name d).Inner m opener closer compiled)
    (hopener : ∀ p ∈ opener, Pattern.compile? p.source g.options = some p)
    (hcloser : ∀ p ∈ closer, Pattern.compile? p.source g.options = some p) :
    compiled.IsImage g m (opener.map (·.source)) (closer.map (·.source)) := by
  have hoptions : (scopeOf name d).options = g.options := (compile_eq_ok_iff.1 h).options_eq.symm
  obtain ⟨hsource, hillegal⟩ := optional_compiled hm.illegal
  have hlexems := hm.lexems_compiled
  rw [hoptions] at hillegal hlexems
  obtain ⟨hsources, hcompiled⟩ := Pattern.compiled_of_forall₂ hlexems
  refine ⟨hm.className, congrArg _ hm.beginPattern, congrArg _ hm.endPattern, hsource,
    hm.contains.imp fun _ _ => refers_of_resolve h, ?_, ?_, hsources, hm.relevance, ?_⟩
  · rw [hm.keywords, hoptions]
  · rw [← ModeDefinition.lexemSources_eq_nil_iff, ← List.length_eq_zero_iff,
      ← List.length_eq_zero_iff, hlexems.length_eq]
  · intro p hp
    rw [Mode.patterns, hm.beginPattern, hm.endPattern] at hp
    simp only [List.mem_append, Option.mem_toList] at hp
    rcases hp with ((hp | hp) | hp) | hp
    · exact hopener p hp
    · exact hcloser p hp
    · exact hillegal p hp
    · exact hcompiled p hp

end Scope

variable {name : String} {d : GrammarDefinition} {g : Grammar}

/-- A mode with boundaries is the image of its definition, and has both. -/
theorem isImage_of_compile (h : compile name d = .ok g) {i : Nat} {m : ModeDefinition}
    (hm : d.modes[i]? = some m) :
    ∃ compiled, g.mode? (i + 1) = some compiled ∧
      compiled.IsImage g m m.beginSource m.endSource ∧
      compiled.beginPattern.isSome = true ∧ compiled.endPattern.isSome = true := by
  obtain ⟨hi, rfl⟩ := List.getElem?_eq_some_iff.1 hm
  obtain ⟨opener, closer, hopener, hcloser, hinner⟩ := bounded_of_compile h hi
  obtain ⟨given, hbegin, hopener⟩ := Scope.required_eq_ok_iff.1 hopener
  obtain ⟨given', hend, hcloser⟩ := Scope.required_eq_ok_iff.1 hcloser
  have hoptions : (scopeOf name d).options = g.options := (compile_eq_ok_iff.1 h).options_eq.symm
  rw [hoptions] at hopener hcloser
  have himage := hinner.isImage h
    (fun p hp => by cases hp; exact Pattern.compile?_source hopener)
    (fun p hp => by cases hp; exact Pattern.compile?_source hcloser)
  rw [Option.map_some, Option.map_some, Pattern.source_of_compile? hopener,
    Pattern.source_of_compile? hcloser, ← hbegin, ← hend] at himage
  refine ⟨_, mode?_eq_some g ?_, himage, ?_, ?_⟩
  · rw [modeCount_of_compile h]
    exact Nat.succ_lt_succ hi
  · rw [hinner.beginPattern]
    rfl
  · rw [hinner.endPattern]
    rfl

theorem compile?_of_mem_patterns (h : compile name d = .ok g) {i : Nat} {p : Pattern}
    (hp : p ∈ (g.mode i).patterns) : Pattern.compile? p.source g.options = some p := by
  have hdefault := ((compile_eq_ok_iff.1 h).defaultMode.isImage h nofun nofun).patterns
  cases i with
  | zero => exact hdefault p hp
  | succ i =>
    cases hm : d.modes[i]? with
    | none =>
      rw [mode_of_length_le h (List.getElem?_eq_none_iff.1 hm)] at hp
      exact hdefault p hp
    | some m =>
      obtain ⟨compiled, hmode, himage, -, -⟩ := isImage_of_compile h hm
      rw [mode, hmode, Option.getD_some] at hp
      exact himage.patterns p hp

/-- The table that is made before any mode is compiled holds the number of every mode. -/
theorem exists_numbered_of_compile (h : compile name d = .ok g) (hcount : g.modeCount < 2 ^ 32) :
    ∃ table, numbered (d.modes.map (·.className)) = .ok table ∧
      ∀ c, (table.get? c).map UInt32.toNat = g.modeIndex? c := by
  have hnumbered := numbered_spec (d.modes.map (·.className))
  rw [(compile_eq_ok_iff.1 h).noClash] at hnumbered
  obtain ⟨table, htable, hget⟩ := hnumbered
  refine ⟨table, htable, fun c => ?_⟩
  rw [hget, Option.map_map, modeIndex?_of_compile h]
  cases hplace : (d.modes.map (·.className)).idxOf? c with
  | none => rfl
  | some k =>
    obtain ⟨hk, -, -⟩ := List.idxOf?_eq_some_iff.1 hplace
    rw [modeCount_of_compile h] at hcount
    rw [List.length_map] at hk
    have hnumber : (UInt32.ofNat k + 1).toNat = k + 1 := by
      rw [UInt32.toNat_add, UInt32.toNat_ofNat', UInt32.toNat_one]
      omega
    rw [Option.map_some, Option.map_some, Function.comp_apply, hnumber]

theorem Scope.Inner.numberOf? (h : compile name d = .ok g) {table : OrderedMap UInt32}
    (htable : ∀ c, (table.get? c).map UInt32.toNat = g.modeIndex? c) {m : ModeDefinition}
    {opener closer : Option Pattern} {compiled : Mode}
    (hm : (scopeOf name d).Inner m opener closer compiled) :
    List.Forall₂ (fun reference i => numberOf? table reference = some i) m.contains
      compiled.contains := by
  refine hm.contains.imp fun reference i hresolve => ?_
  rw [Grammar.numberOf?, htable, ← toOption_resolve_of_compile h m.className, hresolve]
  rfl

/-- The grammar is the image of a definition. It has one mode more than the author listed: the
default mode comes first and has no boundaries, the others follow in their order and have both. -/
structure IsImage (g : Grammar) (d : GrammarDefinition) : Prop where
  options : g.options = d.options
  modeCount : g.modeCount = d.modes.length + 1
  mode?_zero : g.mode? 0 = some g.defaultMode
  defaultMode : g.defaultMode.IsImage g d.defaultMode none none
  modes : ∀ i m, d.modes[i]? = some m → ∃ compiled, g.mode? (i + 1) = some compiled ∧
    compiled.IsImage g m m.beginSource m.endSource ∧
    compiled.beginPattern.isSome = true ∧ compiled.endPattern.isSome = true
  /-- The mode that is declared under a name is the one that is looked up under it. -/
  modeIndex? : ∀ i c, g.modeIndex? c = some i ↔ g.Declares i c
  /-- Its number is the one that its name was given before any mode was compiled, and references
  lead to these numbers. -/
  numbered : ∃ table, numbered (d.modes.map (·.className)) = .ok table ∧
    (∀ c, (table.get? c).map UInt32.toNat = g.modeIndex? c) ∧
    List.Forall₂ (fun m compiled =>
      List.Forall₂ (fun reference i => numberOf? table reference = some i) m.contains
        compiled.contains) (d.defaultMode :: d.modes) g.allModes

/-- What a definition is compiled to is its image. -/
theorem image_of_compile (h : compile name d = .ok g) (hcount : g.modeCount < 2 ^ 32) :
    g.IsImage d where
  options := (compile_eq_ok_iff.1 h).options_eq
  modeCount := modeCount_of_compile h
  mode?_zero := rfl
  defaultMode := (compile_eq_ok_iff.1 h).defaultMode.isImage h nofun nofun
  modes := fun _ _ => isImage_of_compile h
  modeIndex? := fun _ _ => modeIndex?_eq_some_iff h
  numbered := by
    have hc := compile_eq_ok_iff.1 h
    obtain ⟨table, hnumbered, htable⟩ := exists_numbered_of_compile h hcount
    exact ⟨table, hnumbered, htable, .cons (hc.defaultMode.numberOf? h htable)
      (hc.modes.imp fun _ _ ⟨_, _, _, _, hm⟩ => hm.numberOf? h htable)⟩

/-- Modes that refer to themselves, to each other and to modes that come later. The first one has a
category without words, so it has no use for its lexems. -/
def crossing : GrammarDefinition where
  name := "crossing"
  defaultMode := ({} : ModeDefinition).containing ["second"]
  modes := [
    (((ModeDefinition.bounded "first" "\\x7b" "\\x7d").containing
      ["second", "first", defaultModeReference]).withKeywords "none" []).cutting ["[a-z]+"],
    (((ModeDefinition.bounded "second" "<" ">").containing ["first"]).withKeywords "word"
      ["if"]).cutting ["[a-z]+"]]

/-- References forward, backward and to the mode itself lead to the right numbers. -/
theorem image_of_compile_crossing :
    ∃ g, compile "crossing" crossing = .ok g ∧ g.modeCount = 3 ∧
      g.allModes.map (·.contains) = [[2], [2, 1, 0], [1]] ∧
      g.allModes.map (·.lexems.map (·.source)) = [[], [], ["[a-z]+"]] ∧
      g.modeIndex? "second" = some 2 ∧ g.IsImage crossing := by
  have hvalues : ((compile "crossing" crossing).toOption.map fun g =>
      (g.modeCount, g.allModes.map (·.contains), g.allModes.map (·.lexems.map (·.source)),
        g.modeIndex? "second")) =
      some (3, [[2], [2, 1, 0], [1]], [[], [], ["[a-z]+"]], some 2) := by
    decide +kernel
  obtain ⟨g, hg, hvalues⟩ := Option.map_eq_some_iff.1 hvalues
  rw [Except.toOption_eq_some_iff] at hg
  simp only [Prod.mk.injEq] at hvalues
  obtain ⟨hcount, hcontains, hlexems, hindex⟩ := hvalues
  exact ⟨g, hg, hcount, hcontains, hlexems, hindex, image_of_compile hg (by rw [hcount]; decide)⟩

end Grammar

end Tint
