import Tint.Proofs.Reordering

/-!
# Definitions that are accepted

**Theorem (`exists_compile_of_fits`).** A definition is accepted when the names of its modes do not
clash, its default mode can be compiled inside, and its other modes can be compiled with their
boundaries. So a compiler that refuses a definition has found one of these to fail.

**Check (`exists_compile_of_isLight`).** Where all patterns are light, whether this is so is read
off the definition without counting the states of any automaton.
-/

namespace Tint

namespace ModeDefinition

variable {options : PatternOptions} {names : List String} {m : ModeDefinition}

/-- Whether the mode can be compiled between boundaries that are given, with light patterns. -/
def isLightInside (options : PatternOptions) (names : List String) (m : ModeDefinition) : Bool :=
  m.illegalSource.all (Pattern.isLight · options) && m.lexems.all (Pattern.isLight · options) &&
    m.contains.all fun reference => reference == defaultModeReference || names.contains reference

/-- Whether the mode can be compiled, with light patterns. -/
def isLight (options : PatternOptions) (names : List String) (m : ModeDefinition) : Bool :=
  m.beginSource.any (Pattern.isLight · options) && m.endSource.any (Pattern.isLight · options) &&
    m.isLightInside options names

theorem fitsInside_of_isLightInside (h : m.isLightInside options names = true) :
    m.FitsInside options names := by
  simp only [isLightInside, Bool.and_eq_true, Option.all_eq_true, List.all_eq_true,
    Bool.or_eq_true, beq_iff_eq, List.contains_iff_mem] at h
  obtain ⟨⟨hillegal, hlexems⟩, hcontains⟩ := h
  exact ⟨fun source hs => Pattern.exists_compile?_of_isLight (hillegal source hs), hcontains,
    fun source hs => Pattern.exists_compile?_of_isLight (hlexems source hs)⟩

theorem fits_of_isLight (h : m.isLight options names = true) : m.Fits options names := by
  simp only [isLight, Bool.and_eq_true, Option.any_eq_true] at h
  obtain ⟨⟨⟨opener, hbegin, hopener⟩, closer, hend, hcloser⟩, hinside⟩ := h
  obtain ⟨p, hp⟩ := Pattern.exists_compile?_of_isLight hopener
  obtain ⟨q, hq⟩ := Pattern.exists_compile?_of_isLight hcloser
  have hinside := fitsInside_of_isLightInside hinside
  exact ⟨⟨opener, p, hbegin, hp⟩, ⟨closer, q, hend, hq⟩, hinside.illegalSource, hinside.contains,
    hinside.lexems⟩

end ModeDefinition

/-- Whether the modes of a definition do not clash and can be compiled, with light patterns. -/
def GrammarDefinition.isLight (d : GrammarDefinition) : Bool :=
  (Grammar.firstClash [] d.modeNames).isNone &&
    d.defaultMode.isLightInside d.options d.modeNames &&
    d.modes.all (·.isLight d.options d.modeNames)

namespace Grammar

variable {name : String} {d : GrammarDefinition}

/-- A definition is accepted under a name when its modes have names of their own and all of them
can be compiled. -/
theorem exists_compile_of_fits (hname : Unicode.trim name ≠ "")
    (hclash : firstClash [] d.modeNames = none)
    (hdefault : d.defaultMode.FitsInside d.options d.modeNames)
    (hmodes : ∀ m ∈ d.modes, m.Fits d.options d.modeNames) : ∃ g, compile name d = .ok g := by
  obtain ⟨defaultMode, hdefault⟩ := (scopeOf name d).exists_inner hdefault none none
  obtain ⟨modes, hmodes⟩ := exists_forall₂ fun m hm =>
    (scopeOf name d).exists_bounded (hmodes m hm)
  exact ⟨⟨_, d.options, defaultMode, modes⟩,
    compile_eq_ok_iff.2 ⟨hname, hclash, rfl, rfl, hdefault, hmodes⟩⟩

theorem exists_compile_of_isLight (hname : Unicode.trim name ≠ "") (h : d.isLight = true) :
    ∃ g, compile name d = .ok g := by
  simp only [GrammarDefinition.isLight, Bool.and_eq_true, Option.isNone_iff_eq_none,
    List.all_eq_true] at h
  obtain ⟨⟨hclash, hdefault⟩, hmodes⟩ := h
  exact exists_compile_of_fits hname hclash (ModeDefinition.fitsInside_of_isLightInside hdefault)
    fun m hm => ModeDefinition.fits_of_isLight (hmodes m hm)

end Grammar

end Tint
