import Tint.Language.JavaScript
import Tint.Proofs.Acceptance
import Tint.Proofs.Anchors
import Tint.Proofs.Depth
import Tint.Proofs.Ending
import Tint.Proofs.Relevance

/-!
# Any text as JavaScript

What the grammar of JavaScript makes of a text of any kind. It says little about its modes that is
not said of modes in general, so what has to be looked up in the definition is gathered first.

**Nesting (`depth_le`).** The default mode holds functions, functions hold parameters, and these
hold comments. Strings hold escapes, and everything else holds nothing. So there are heights
(`height`), and with the default mode at height three at most four modes are open.

**Rejection (`illegal_of_compile`).** Only strings forbid something, and it is a line feed.

**Modes left open (`leftOpen_of_offers`).** A mode that holds nothing is on top of the stack where
it is open. If it is closed by `^` or `$`, what closes it is found from everywhere, so it is not
open at the end of the text. Only multi-line comments and what holds other modes can be.

**Theorem (`lex_javascript`).** So every text is read to its end, unless there is a line feed in a
string.
-/

namespace Tint.Language.JavaScript

open Grammar Lexer Text

variable {g : Grammar} {text : String} {c : Config} {maxDepth : Nat}

/-! ## The definition -/

/-- The modes in which a line feed is forbidden. -/
def strings : List String := ["string single", "string double"]

/-- The modes that may be open at the end of a text. -/
def leftOpen : List String := ["comment multiline", "_function", "_params"] ++ strings

/-- How many modes may be open above a mode with this name. -/
def height (className : String) : Nat :=
  if className = "" then 3
  else if className = "_function" then 2
  else if className = "_params" ∨ className ∈ strings then 1
  else 0

theorem height_lt : ∀ md ∈ definition.defaultMode :: definition.modes,
    ∀ reference ∈ md.contains, height reference < height md.className := by
  decide

theorem relevance_nonneg : ∀ md ∈ definition.defaultMode :: definition.modes,
    0 ≤ md.relevance := by
  decide

theorem illegalSource_cases : ∀ md ∈ definition.defaultMode :: definition.modes,
    ∀ source ∈ md.illegalSource, source = "\\n" ∧ md.className ∈ strings := by
  decide

theorem endSource_cases : ∀ md ∈ definition.modes, md.className ∈ leftOpen ∨
    md.contains = [] ∧ (md.endSource = some "^" ∨ md.endSource = some "$") := by
  decide

theorem exists_compile : ∃ g, compile name definition = .ok g :=
  exists_compile_of_isLight (by decide +kernel) (by decide +kernel)

/-! ## Its grammar -/

theorem mode_relevance_nonneg (hg : compile name definition = .ok g) (i : Nat) :
    0 ≤ (g.mode i).relevance := by
  obtain ⟨md, hmd, _, _, hinner⟩ := exists_inner_of_compile hg i
  rw [hinner.relevance]
  exact relevance_nonneg md hmd

/-- At most four modes are open. -/
theorem depth_le (hg : compile name definition = .ok g) (hc : c.Stacked g text.toList maxDepth) :
    c.stack.depth ≤ 4 := by
  have hdepth := hc.depth_le (descends_of_names hg height_lt)
  have hdefault : (g.mode 0).className = "" := (compile_eq_ok_iff.1 hg).defaultMode.className
  rwa [hdefault] at hdepth

theorem illegal_of_compile (hg : compile name definition = .ok g) {i : Nat} {p : Pattern}
    (hp : (g.mode i).illegal = some p) :
    Pattern.compile? "\\n" {} = some p ∧ (g.mode i).className ∈ strings := by
  obtain ⟨md, hmd, _, _, hinner⟩ := exists_inner_of_compile hg i
  have hillegal := hinner.illegal
  rw [hp] at hillegal
  obtain ⟨source, hsource, hcompile⟩ := Scope.optional_eq_ok_some_iff.1 hillegal
  obtain ⟨rfl, hstring⟩ := illegalSource_cases md hmd source hsource
  exact ⟨hcompile, hinner.className ▸ hstring⟩

/-- Where nothing is on offer, only some of the modes can be open. -/
theorem leftOpen_of_offers (hg : compile name definition = .ok g)
    (hc : c.Stacked g text.toList maxDepth) (hnone : offers g text.toList c = []) {f : Frame}
    (hf : f ∈ c.stack.openFrames) : (g.mode f.mode).className ∈ leftOpen := by
  obtain ⟨md, hmd, _, closer, -, hcloser, hinner⟩ := hc.exists_bounded hg hf
  rw [hinner.className]
  rcases endSource_cases md hmd with hleft | ⟨hholds, hend⟩
  · exact hleft
  exfalso
  have hempty : (g.mode f.mode).contains = [] := by
    have hcontains := hinner.contains
    rw [hholds] at hcontains
    exact List.forall₂_nil_left_iff.1 hcontains
  rcases hc.eq_top_or_contains (List.mem_cons_of_mem _ hf) with rfl | hne
  · have hnotFound := find_eq_none_of_offers hnone hinner.endPattern
    obtain ⟨source, hsource, hcompile⟩ := Scope.required_eq_ok_iff.1 hcloser
    rw [hsource, Option.some.injEq, Option.some.injEq] at hend
    rcases hend with rfl | rfl
    · rw [Pattern.find_caret hcompile hc.position.1] at hnotFound
      cases hnotFound
    · obtain ⟨found, hfound⟩ := Pattern.exists_find_dollar hcompile hc.position.1
      rw [hfound] at hnotFound
      cases hnotFound
  · exact hne hempty

/-! ## Reading a text -/

theorem output_of_lex (hg : compile name definition = .ok g) {out : LexOutput}
    (h : g.lex text {} = .ok out) :
    1 ≤ out.relevance ∧ out.diagnostics.length ≤ 3 ∧ ∀ d ∈ out.diagnostics, d.mode ∈ leftOpen := by
  obtain ⟨c, hpath, hnone, hout⟩ := path_of_lex_eq_ok h
  have hc := stacked_of_trace hg hpath
  have hdiagnostics : out.diagnostics = unterminated (g.job text {}) c.stack := by
    rw [hout]
    exact diagnostics_along ..
  refine ⟨?_, ?_, ?_⟩
  · have hdefault : g.defaultMode.relevance = 1 :=
      (compile_eq_ok_iff.1 hg).defaultMode.relevance
    rw [← hdefault]
    exact relevance_defaultMode_le (mode_relevance_nonneg hg) h
  · have hlength := length_unterminated_lt (g.job text {}) c.stack
    have hdepth := depth_le hg hc
    rw [hdiagnostics]
    omega
  · intro d hd
    rw [hdiagnostics] at hd
    obtain ⟨f, hf, hmode⟩ := mem_unterminated hd
    rw [hmode]
    exact leftOpen_of_offers hg hc hnone hf

theorem rejection_of_lex (hg : compile name definition = .ok g) {offset : Nat}
    {slice language mode : String}
    (h : g.lex text {} = .error (.illegalSequence offset slice language mode)) :
    slice = "\n" ∧ language = name ∧ slice? text.toList offset (offset + 1) = some ['\n'] ∧
      mode ∈ strings := by
  obtain ⟨_, c, f, -, -, -, hw, rfl, -, hslice, rfl, rfl⟩ := path_of_lex_eq_illegal h
  obtain ⟨p, hp, hfound⟩ := forbidden_of_offer hw.mem
  obtain ⟨hcompile, hstring⟩ := illegal_of_compile hg hp
  obtain ⟨hstop, hfeed⟩ := Pattern.slice?_of_findNonEmpty_lineFeed hcompile hfound
  rw [hslice, Option.some.injEq] at hfeed
  refine ⟨String.toList_inj.1 hfeed, (compile_eq_ok_iff.1 hg).name_eq, ?_, hstring⟩
  rw [← hstop, hslice, hfeed]

/-- **Any text can be read as JavaScript.** It is read to its end and weighs one at least, and of
the modes that are still open there at most three are reported, none of which closes by itself. Or
there is a line feed in a string, and reading ends with this line feed. No limit is ever met, and
never are more than four modes open. -/
theorem lex_javascript (text : String) :
    ∃ g, compile name definition = .ok g ∧
      ((∃ out, g.lex text {} = .ok out ∧ 1 ≤ out.relevance ∧ out.diagnostics.length ≤ 3 ∧
          ∀ d ∈ out.diagnostics, d.mode ∈ leftOpen) ∨
        ∃ offset mode, g.lex text {} = .error (.illegalSequence offset "\n" name mode) ∧
          slice? text.toList offset (offset + 1) = some ['\n'] ∧ mode ∈ strings) ∧
      ∀ n s, Reaches (g.job text {}) n s → s.stack.frames.length ≤ 4 := by
  obtain ⟨g, hg⟩ := exists_compile
  have hbare := bare_of_compile hg
  refine ⟨g, hg, ?_, ?_⟩
  · obtain ⟨c, hpath, -, ⟨-, hlex⟩ | ⟨-, r, hstop, hlex⟩⟩ := lex_spec g text {}
    · exact absurd hlex (lex_ne_stepLimitExceeded hbare.2 rfl _ _)
    cases hstop with
    | done => exact .inl ⟨_, hlex, output_of_lex hg hlex⟩
    | forbidden =>
      obtain ⟨hslice, hlanguage, hfeed, hstring⟩ := rejection_of_lex hg hlex
      refine .inr ⟨_, _, hlex.trans ?_, hfeed, hstring⟩
      rw [hslice, hlanguage]
      rfl
    | tooDeep _ hdeep =>
      have hdepth := depth_le hg (stacked_of_trace hg hpath)
      have hlimit : 1024 ≤ c.stack.depth := hdeep
      omega
  · intro n s hs
    rw [ModeStack.length_frames]
    exact depth_le hg (stacked_of_reaches hbare hs)

end Tint.Language.JavaScript
