import Tint.Proofs.Stack

/-!
# How deeply modes are nested

Every open mode but the default mode is contained in the one below it. So what a grammar's modes may
contain says how they can lie on the stack.

**Heights (`Config.Stacked.depth_le`).** Give every mode a height such that whatever it contains is
lower, the default mode apart, which is never opened. Then the open modes get lower from the bottom
of the stack to its top, and there are no more of them than the default mode is high, and one.

**Modes that contain nothing (`Config.Stacked.eq_top_or_contains`).** Such a mode is on top of the
stack wherever it is open. So at the end of the text it is still open only where the search for what
closes it finds nothing.
-/

namespace Tint

namespace Grammar

variable {name : String} {d : GrammarDefinition} {g : Grammar}

/-- Every mode is higher than the modes that it contains, the default mode apart. -/
def Descends (g : Grammar) (height : Nat → Nat) : Prop :=
  ∀ i, ∀ child ∈ (g.mode i).contains, child ≠ 0 → height child < height i

theorem Scope.getElem?_of_resolve {s : Scope} {mode reference : String} {i : Nat}
    (h : s.resolve mode reference = .ok (i + 1)) : s.modeNames[i]? = some reference := by
  rcases resolve_eq_ok_iff.1 h with ⟨-, hzero⟩ | ⟨-, k, hk, hi⟩
  · cases hzero
  · cases hi
    obtain ⟨hlt, hname, -⟩ := List.idxOf?_eq_some_iff.1 hk
    exact hname ▸ List.getElem?_eq_getElem hlt

theorem className_mem_of_inner (h : compile name d = .ok g) {md : ModeDefinition}
    {opener closer : Option Pattern} {m : Mode}
    (hinner : (scopeOf name d).Inner md opener closer m) {child : Nat} (hchild : child ∈ m.contains)
    (hne : child ≠ 0) : (g.mode child).className ∈ md.contains := by
  obtain ⟨k, hk, rfl⟩ := List.mem_iff_getElem.1 hchild
  obtain ⟨i, hi⟩ := Nat.exists_eq_succ_of_ne_zero hne
  have hk' : k < md.contains.length := by rwa [hinner.contains.length_eq]
  have hresolve : (scopeOf name d).resolve md.className md.contains[k] = .ok m.contains[k] :=
    hinner.contains.get hk' hk
  rw [hi] at hresolve ⊢
  have hname : (d.modes.map (·.className))[i]? = some md.contains[k] :=
    Scope.getElem?_of_resolve hresolve
  obtain ⟨hlt, hname⟩ := List.getElem?_eq_some_iff.1 hname
  rw [List.length_map] at hlt
  rw [List.getElem_map] at hname
  obtain ⟨_, _, -, -, hmode⟩ := bounded_of_compile h hlt
  rw [Nat.succ_eq_add_one, hmode.className, hname]
  exact List.getElem_mem hk'

/-- Heights may be given to the names that a definition uses. -/
theorem descends_of_names (h : compile name d = .ok g) {height : String → Nat}
    (hheight : ∀ md ∈ d.defaultMode :: d.modes, ∀ reference ∈ md.contains,
      height reference < height md.className) :
    g.Descends fun i => height (g.mode i).className := by
  intro i child hchild hne
  obtain ⟨md, hmd, opener, closer, hinner⟩ := exists_inner_of_compile h i
  have hlower := hheight md hmd _ (className_mem_of_inner h hinner hchild hne)
  rwa [← hinner.className] at hlower

end Grammar

namespace Lexer

open Text

variable {g : Grammar} {text : List Char} {bs : List Boundary} {c c' : Config} {job : Job}
  {maxDepth : Nat} {height : Nat → Nat}

/-! ## Heights -/

theorem length_le_of_descends (hg : g.Descends height) {f : Frame} {fs : List Frame}
    (hchain : (f :: fs).IsChain fun f f' => f'.mode ∈ (g.mode f.mode).contains)
    (hne : ∀ f' ∈ fs, f'.mode ≠ 0) : fs.length ≤ height f.mode := by
  induction fs generalizing f with
  | nil => exact Nat.zero_le _
  | cons f' fs ih =>
    obtain ⟨hcontained, hrest⟩ := List.isChain_cons_cons.1 hchain
    have hlower := hg f.mode f'.mode hcontained (hne f' List.mem_cons_self)
    have hlength := ih hrest fun f'' hf'' => hne f'' (List.mem_cons_of_mem _ hf'')
    rw [List.length_cons]
    omega

/-- There are no more open modes than the default mode is high, and one. -/
theorem Config.Stacked.depth_le (hc : c.Stacked g text maxDepth) (hg : g.Descends height) :
    c.stack.depth ≤ height 0 + 1 := by
  have hlength := length_le_of_descends hg hc.contained hc.ne_default
  have hdepth := c.stack.length_frames
  rw [hc.bottom.1] at hlength
  rw [ModeStack.frames, List.length_cons] at hdepth
  omega

theorem Path.stacked (h : Path g text c bs c')
    (hg : g.defaultMode.beginPattern = none ∧ g.defaultMode.endPattern = none)
    (hc : c.Stacked g text maxDepth) (hshallow : Shallow maxDepth c bs) :
    c'.Stacked g text maxDepth := by
  induction h with
  | nil => exact hc
  | cons hw hne _ ih => exact ih (hc.after hg hw hne hshallow.1) hshallow.2

/-! ## Open modes -/

theorem exists_rel_of_mem {α : Type} {R : α → α → Prop} {a b : α} {l : List α}
    (h : (a :: l).IsChain R) (hb : b ∈ l) : ∃ a', R a' b := by
  induction l generalizing a with
  | nil => cases hb
  | cons c l ih =>
    obtain ⟨hac, hrest⟩ := List.isChain_cons_cons.1 h
    rcases List.mem_cons.1 hb with rfl | hb
    · exact ⟨a, hac⟩
    · exact ih hrest hb

theorem Config.Stacked.exists_bounded {name : String} {d : GrammarDefinition}
    (h : Grammar.compile name d = .ok g) (hc : c.Stacked g text maxDepth) {f : Frame}
    (hf : f ∈ c.stack.openFrames) :
    ∃ md ∈ d.modes, (Grammar.scopeOf name d).Bounded md (g.mode f.mode) := by
  obtain ⟨f', hcontained⟩ := exists_rel_of_mem hc.contained hf
  have hlt := Grammar.contains_lt_of_compile h f'.mode f.mode hcontained
  obtain ⟨i, hi⟩ := Nat.exists_eq_succ_of_ne_zero (hc.ne_default f hf)
  rw [Grammar.modeCount_of_compile h, hi] at hlt
  have hi' : i < d.modes.length := Nat.lt_of_succ_lt_succ hlt
  rw [hi]
  exact ⟨d.modes[i], List.getElem_mem hi', Grammar.bounded_of_compile h hi'⟩

/-! ## Modes that contain nothing -/

theorem getLast?_eq_or_rel {α : Type} {R : α → α → Prop} {l : List α} {a : α} (h : l.IsChain R)
    (ha : a ∈ l) : l.getLast? = some a ∨ ∃ b, R a b := by
  obtain ⟨before, after, rfl⟩ := List.append_of_mem ha
  cases after with
  | nil => exact .inl (List.getLast?_concat ..)
  | cons b after =>
    obtain ⟨-, hafter, -⟩ := List.isChain_append.1 h
    exact .inr ⟨b, (List.isChain_cons_cons.1 hafter).1⟩

/-- An open mode is on top of the stack, or it contains something. -/
theorem Config.Stacked.eq_top_or_contains (hc : c.Stacked g text maxDepth) {f : Frame}
    (hf : f ∈ c.stack.frames) : f = c.stack.top ∨ (g.mode f.mode).contains ≠ [] := by
  rcases getLast?_eq_or_rel hc.contained hf with hlast | ⟨f', hf'⟩
  · rw [ModeStack.getLast?_frames] at hlast
    exact .inl (Option.some.inj hlast).symm
  · exact .inr (List.ne_nil_of_mem hf')

theorem find_eq_none_of_offers (h : offers g text c = []) {p : Pattern}
    (hp : (g.mode c.stack.top.mode).endPattern = some p) : p.find text c.position = none := by
  simp only [offers, hp, Option.bind_some, List.append_eq_nil_iff] at h
  have hclose := h.1.2
  cases hfind : p.find text c.position with
  | none => rfl
  | some f =>
    rw [hfind] at hclose
    cases hclose

/-! ## Diagnostics -/

theorem diagnostics_along (job : Job) (c : Config) (bs : List Boundary) (out : LexOutput) :
    (along job c bs out).diagnostics = out.diagnostics := by
  induction bs generalizing c with
  | nil => rfl
  | cons b bs ih => exact ih (c.after b)

/-- Diagnostics name modes that are open above the default mode, each at most once. -/
theorem mem_unterminated {stack : ModeStack} {d : Diagnostic} (h : d ∈ unterminated job stack) :
    ∃ f ∈ stack.openFrames, d.mode = (job.grammar.mode f.mode).className := by
  obtain ⟨f, hf, hd⟩ := List.mem_filterMap.1 h
  obtain ⟨range, -, rfl⟩ := Option.map_eq_some_iff.1 hd
  exact ⟨f, hf, rfl⟩

theorem length_unterminated_lt (job : Job) (stack : ModeStack) :
    (unterminated job stack).length < stack.depth := by
  have hle : (unterminated job stack).length ≤ stack.openFrames.length :=
    List.length_filterMap_le ..
  have hdepth := stack.length_frames
  rw [ModeStack.frames, List.length_cons] at hdepth
  omega

end Lexer

theorem Grammar.stacked_of_trace {name : String} {d : GrammarDefinition} {g : Grammar}
    (h : compile name d = .ok g) {text : String} {options : LexOptions} {c : Lexer.Config}
    (hpath : Lexer.Path g text.toList {} (g.trace text options) c) :
    c.Stacked g text.toList options.maxDepth := by
  obtain ⟨-, -, hshallow, -⟩ := lex_spec g text options
  exact hpath.stacked (bare_of_compile h) (Lexer.stacked_start ..) hshallow

end Tint
