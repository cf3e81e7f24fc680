import Mathlib.Data.List.Infix
import Tint.Proofs.Reordering

/-!
# The faults of a definition

A definition may have many faults at once. They are listed here one after the other
(`Grammar.faults`), each read off the definition by itself and none hidden by another: those
of the names first, then those of the modes in order, and in each mode those of its fields.

**Reports (`Reports`).** A computation reports a list of faults when it fails with the first of
them, and does not fail where there is none. Steps one after the other report their lists one after
the other (`Reports.bind`, `Reports.mapM`), so what the compiler reports is put together as the
compiler is.

**Theorem (`compile_reports_first`).** So a definition is accepted exactly when it has no fault,
which is to say when it is valid, and otherwise the error is its first fault.
-/

namespace Tint

/-! ## Computations that report faults -/

section Reports

variable {ε α β : Type} {x : Except ε α} {fs gs : List ε}

/-- The computation fails with the first of these faults, and only with it. -/
inductive Reports : Except ε α → List ε → Prop
  | ok (a : α) : Reports (.ok a) []
  | error (fault : ε) (later : List ε) : Reports (.error fault) (fault :: later)

theorem Reports.exists_ok_iff (h : Reports x fs) : (∃ a, x = .ok a) ↔ fs = [] := by
  cases h <;> simp

theorem Reports.eq_error_iff (h : Reports x fs) (fault : ε) :
    x = .error fault ↔ fs.head? = some fault := by
  cases h <;> simp

theorem Reports.map (h : Reports x fs) (f : α → β) : Reports (x.map f) fs := by
  cases h with
  | ok a => exact .ok (f a)
  | error fault later => exact .error fault later

/-- What comes later is reported only where nothing went wrong before. -/
theorem Reports.bind {f : α → Except ε β} (h : Reports x fs)
    (hf : ∀ a, x = .ok a → Reports (f a) gs) : Reports (x >>= f) (fs ++ gs) := by
  cases h with
  | ok a => exact hf a rfl
  | error fault later => exact .error fault (later ++ gs)

theorem Reports.bind_ok {f : α → Except ε β} (h : Reports x fs) (hf : ∀ a, ∃ b, f a = .ok b) :
    Reports (x >>= f) fs := by
  rw [← List.append_nil fs]
  refine h.bind fun a _ => ?_
  obtain ⟨b, hb⟩ := hf a
  exact hb ▸ .ok b

/-- A list is gone through member by member. -/
theorem Reports.mapM {f : α → Except ε β} {faults : α → List ε} (h : ∀ a, Reports (f a) (faults a))
    (as : List α) : Reports (as.mapM f) (as.flatMap faults) := by
  induction as with
  | nil => exact .ok []
  | cons a as ih =>
    rw [List.mapM_cons, List.flatMap_cons]
    exact (h a).bind fun b _ => ih.bind_ok fun bs => ⟨b :: bs, rfl⟩

end Reports

namespace Grammar

/-! ## Faults of names -/

/-- The names that no mode may have where they stand: that of the default mode, and any that stands
before. -/
def clashes (names : List String) : List String :=
  ((names.zip names.inits).filter fun e => e.1 = defaultModeReference ∨ e.1 ∈ e.2).map Prod.fst

theorem firstClash_eq_find? (seen names : List String) :
    firstClash seen names = ((names.zip names.inits).find? fun e =>
      e.1 = defaultModeReference ∨ e.1 ∈ seen ∨ e.1 ∈ e.2).map Prod.fst := by
  induction names generalizing seen with
  | nil => rfl
  | cons n ns ih =>
    rw [firstClash, List.inits_cons, List.zip_cons_cons, List.find?_cons]
    by_cases hn : n = defaultModeReference ∨ n ∈ seen
    · simp [hn]
    · -- behind `n`, having been seen and standing before mean one name more and one less
      have hlater : (fun e : String × List String => decide (e.1 = defaultModeReference ∨
          e.1 ∈ seen ∨ e.1 ∈ e.2)) ∘ Prod.map id (n :: ·) = fun e =>
            decide (e.1 = defaultModeReference ∨ e.1 ∈ n :: seen ∨ e.1 ∈ e.2) := by
        funext e
        simp only [Function.comp_apply, Prod.map_fst, Prod.map_snd, id_eq, List.mem_cons,
          decide_eq_decide]
        tauto
      rw [List.zip_map_right, List.find?_map, hlater]
      simp [hn, ih, Function.comp_def]

theorem firstClash_eq_head? (names : List String) :
    firstClash [] names = (clashes names).head? := by
  rw [firstClash_eq_find?, clashes, List.head?_map, List.head?_filter]
  simp

theorem clashes_eq_nil_iff {names : List String} :
    clashes names = [] ↔ names.Nodup ∧ defaultModeReference ∉ names := by
  rw [← List.head?_eq_none_iff, ← firstClash_eq_head?, firstClash_eq_none_iff]
  refine and_congr_right fun _ => ⟨fun h hmem => (h _ hmem).1 rfl, fun h n hn => ⟨?_, by simp⟩⟩
  rintro rfl
  exact h hn

/-! ## Faults of modes -/

namespace Scope

variable {s : Scope} {d : ModeDefinition} {opener closer : Option Pattern}

/-- A pattern is at fault when it is not a regular expression. -/
def patternFaults (s : Scope) (mode : String) (field : PatternField) (source : String) :
    List ConfigError :=
  if (Pattern.compile? source s.options).isSome then []
  else [.invalidPattern s.grammar mode field source invalidPatternMessage]

/-- A pattern that a mode must have may also be missing. -/
def boundaryFaults (s : Scope) (mode : String) (field : PatternField) :
    Option String → List ConfigError
  | none => [.missingPattern s.grammar mode field]
  | some source => s.patternFaults mode field source

/-- A reference is at fault when there is no mode of this name. -/
def referenceFaults (s : Scope) (mode reference : String) : List ConfigError :=
  if reference = defaultModeReference ∨ reference ∈ s.modeNames then []
  else [.unresolvedReference s.grammar mode reference]

/-- The faults of what every mode has. Lexems count even where no keyword needs them. -/
def innerFaults (s : Scope) (d : ModeDefinition) : List ConfigError :=
  d.illegalSource.toList.flatMap (s.patternFaults d.className .illegal) ++
    d.contains.flatMap (s.referenceFaults d.className) ++
    d.lexems.flatMap (s.patternFaults d.className .lexems)

/-- The faults of a mode with boundaries. -/
def boundedFaults (s : Scope) (d : ModeDefinition) : List ConfigError :=
  s.boundaryFaults d.className .beginPattern d.beginSource ++
    s.boundaryFaults d.className .endPattern d.endSource ++ s.innerFaults d

theorem pattern_reports (s : Scope) (mode : String) (field : PatternField) (source : String) :
    Reports (s.pattern mode field source) (s.patternFaults mode field source) := by
  unfold pattern patternFaults
  cases Pattern.compile? source s.options with
  | none => exact .error _ []
  | some p => exact .ok p

theorem required_reports (s : Scope) (mode : String) (field : PatternField)
    (source : Option String) :
    Reports (s.required mode field source) (s.boundaryFaults mode field source) := by
  cases source with
  | none => exact .error _ []
  | some source => exact s.pattern_reports mode field source

theorem optional_reports (s : Scope) (mode : String) (field : PatternField)
    (source : Option String) :
    Reports (s.optional mode field source)
      (source.toList.flatMap (s.patternFaults mode field)) := by
  cases source with
  | none => exact .ok none
  | some source =>
    rw [Option.toList_some, List.flatMap_singleton]
    exact (s.pattern_reports mode field source).map some

theorem resolve_reports (s : Scope) (mode reference : String) :
    Reports (s.resolve mode reference) (s.referenceFaults mode reference) := by
  unfold referenceFaults
  split
  · next h =>
    obtain ⟨i, hi⟩ := s.exists_resolve mode h
    exact hi ▸ .ok i
  · next h =>
    obtain ⟨hdefault, hnames⟩ := not_or.1 h
    rw [resolve, if_neg (mt beq_iff_eq.1 hdefault), List.idxOf?_eq_none_iff.2 hnames]
    exact .error _ []

theorem inner_reports (s : Scope) (d : ModeDefinition) (opener closer : Option Pattern) :
    Reports (s.inner d opener closer) (s.innerFaults d) := by
  rw [innerFaults, List.append_assoc]
  refine (s.optional_reports _ _ _).bind fun illegal _ => ?_
  refine (Reports.mapM (s.resolve_reports _) _).bind fun contains _ => ?_
  refine (Reports.mapM (s.pattern_reports _ _) _).bind_ok fun declared => ?_
  -- what is left is to choose the lexems, and that cannot fail
  obtain ⟨lexems, hlexems⟩ := s.exists_lexems d.className
    (.ofKeywords d.keywords s.options.caseInsensitive) declared
  rw [hlexems]
  exact ⟨_, rfl⟩

theorem bounded_reports (s : Scope) (d : ModeDefinition) :
    Reports (s.bounded d) (s.boundedFaults d) := by
  rw [boundedFaults, List.append_assoc]
  refine (s.required_reports _ _ _).bind fun opener _ => ?_
  refine (s.required_reports _ _ _).bind fun closer _ => ?_
  exact s.inner_reports d (some opener) (some closer)

/-! ## Modes without faults -/

theorem patternFaults_eq_nil_iff {mode : String} {field : PatternField} {source : String} :
    s.patternFaults mode field source = [] ↔
      ∃ p, Pattern.compile? source s.options = some p := by
  rw [← Option.isSome_iff_exists, patternFaults]
  split
  · next h => simp [h]
  · next h => simp [h]

theorem boundaryFaults_eq_nil_iff {mode : String} {field : PatternField}
    {source : Option String} :
    s.boundaryFaults mode field source = [] ↔
      ∃ given p, source = some given ∧ Pattern.compile? given s.options = some p := by
  cases source with
  | none => simp [boundaryFaults]
  | some given => simp [boundaryFaults, patternFaults_eq_nil_iff]

theorem innerFaults_eq_nil_iff :
    s.innerFaults d = [] ↔ d.FitsInside s.options s.modeNames := by
  simp only [innerFaults, List.append_eq_nil_iff, List.flatMap_eq_nil_iff, Option.mem_toList,
    patternFaults_eq_nil_iff, referenceFaults, ite_eq_left_iff, reduceCtorEq, imp_false, not_not]
  exact ⟨fun ⟨⟨hillegal, hcontains⟩, hlexems⟩ => ⟨hillegal, hcontains, hlexems⟩,
    fun h => ⟨⟨h.illegalSource, h.contains⟩, h.lexems⟩⟩

theorem boundedFaults_eq_nil_iff : s.boundedFaults d = [] ↔ d.Fits s.options s.modeNames := by
  rw [boundedFaults, List.append_eq_nil_iff, List.append_eq_nil_iff, boundaryFaults_eq_nil_iff,
    boundaryFaults_eq_nil_iff, innerFaults_eq_nil_iff]
  exact ⟨fun ⟨⟨hbegin, hend⟩, h⟩ => ⟨hbegin, hend, h.illegalSource, h.contains, h.lexems⟩,
    fun h => ⟨⟨h.beginSource, h.endSource⟩, h.inside⟩⟩

end Scope

/-! ## Faults of definitions -/

/-- All faults of a definition under a name, in the order in which they are looked for. -/
def faults (name : String) (d : GrammarDefinition) : List ConfigError :=
  (if Unicode.trim name = "" then [.emptyName] else []) ++
    (clashes d.modeNames).map (.duplicateMode (Unicode.trim name)) ++
    (scopeOf name d).innerFaults d.defaultMode ++ d.modes.flatMap (scopeOf name d).boundedFaults

/-- The definition can be made a grammar with this name: there is a name, no mode has the name of
another or of the default mode, and every mode has the patterns that it needs, refers to modes that
are there, and has regular expressions for patterns. The boundaries of the default mode do not
count. -/
structure Valid (name : String) (d : GrammarDefinition) : Prop where
  name_ne : Unicode.trim name ≠ ""
  nodup : d.modeNames.Nodup
  noDefault : defaultModeReference ∉ d.modeNames
  defaultMode : d.defaultMode.FitsInside d.options d.modeNames
  modes : ∀ m ∈ d.modes, m.Fits d.options d.modeNames

theorem compile_reports (name : String) (d : GrammarDefinition) :
    Reports (compile name d) (faults name d) := by
  unfold compile faults
  by_cases hname : Unicode.trim name = ""
  · rw [if_pos hname, if_pos (by simp [hname])]
    exact .error _ _
  rw [if_neg hname, if_neg (by simp [hname]), List.nil_append]
  dsimp only
  rw [show d.modes.map (·.className) = d.modeNames from rfl, firstClash_eq_head?]
  cases hclash : clashes d.modeNames with
  | cons n later => exact .error _ _
  | nil =>
    refine ((scopeOf name d).inner_reports _ _ _).bind fun defaultMode _ => ?_
    exact (Reports.mapM (scopeOf name d).bounded_reports _).bind_ok fun modes => ⟨_, rfl⟩

theorem faults_eq_nil_iff {name : String} {d : GrammarDefinition} :
    faults name d = [] ↔ Valid name d := by
  simp only [faults, List.append_eq_nil_iff, List.map_eq_nil_iff, clashes_eq_nil_iff,
    Scope.innerFaults_eq_nil_iff, List.flatMap_eq_nil_iff, Scope.boundedFaults_eq_nil_iff,
    ite_eq_right_iff, reduceCtorEq, imp_false]
  exact ⟨fun ⟨⟨⟨hname, hnodup, hdefault⟩, hinside⟩, hmodes⟩ =>
      ⟨hname, hnodup, hdefault, hinside, hmodes⟩,
    fun h => ⟨⟨⟨h.name_ne, h.nodup, h.noDefault⟩, h.defaultMode⟩, h.modes⟩⟩

/-- **A definition is accepted exactly when it is valid, and refused for its first fault.** Every
definition is valid or has faults, whichever and however many, and of these the compiler reports the
first. -/
theorem compile_reports_first (name : String) (d : GrammarDefinition) :
    ((∃ g, compile name d = .ok g) ↔ Valid name d) ∧
      ∀ fault, compile name d = .error fault ↔ (faults name d).head? = some fault :=
  have h := compile_reports name d
  ⟨h.exists_ok_iff.trans faults_eq_nil_iff, h.eq_error_iff⟩

/-- The boundaries of the default mode do not count, its lexems do without keywords, and its faults
come before those of the other mode. -/
example :
    faults "g" {
      defaultMode :=
        { beginSource := some "(", contains := ["block", "note"], lexems := ["[a-z]", "("] }
      modes := [{ className := "block", beginSource := some "\\x7b", contains := ["code"] }] } =
      [.unresolvedReference "g" "" "note", .invalidPattern "g" "" .lexems "(" invalidPatternMessage,
        .missingPattern "g" "block" .endPattern, .unresolvedReference "g" "block" "code"] := by
  decide +kernel

end Grammar

end Tint
