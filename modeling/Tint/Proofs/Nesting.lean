import Mathlib.Data.List.Perm.Subperm
import Mathlib.Logic.Relation
import Tint.Proofs.Depth

/-!
# Grammars whose modes never come to hold themselves

A mode may be opened in another one if that one contains it (`MayOpen`). References to the default
mode open nothing. In an acyclic grammar no mode can be opened inside itself, be it at once or
deeper down (`Acyclic`).

**Paths (`Config.Stacked.modes_nodup`).** The open modes are a path along `MayOpen`, from the
default mode at the bottom of the stack to the mode on top. A path that meets a mode twice would
lead from this mode back to itself, so where there are no cycles no mode is open twice. Then no more
modes are open than the grammar has.

**Room (`Config.Stacked.depth_lt_of_enter`).** The same holds of the stack with a mode more. So
where a mode is about to be opened, one mode at least is not open yet.

**Theorem (`depth_le_of_acyclic`).** So a limit that is not below the number of modes is never met,
though one that is one less may be.
-/

namespace Tint

namespace Grammar

variable {name : String} {d : GrammarDefinition} {g : Grammar} {height : Nat → Nat} {i j : Nat}

/-! ## Cycles -/

/-- A mode may be opened in another one. The default mode is never opened. -/
def MayOpen (g : Grammar) (i j : Nat) : Prop := j ∈ (g.mode i).contains ∧ j ≠ 0

/-- No mode but the default mode can be opened inside itself, at once or deeper down. -/
def Acyclic (g : Grammar) : Prop :=
  ∀ i, 0 < i → i < g.modeCount → ¬Relation.TransGen g.MayOpen i i

theorem height_lt_of_transGen (hg : g.Descends height) (h : Relation.TransGen g.MayOpen i j) :
    height j < height i := by
  induction h with
  | single hij => exact hg _ _ hij.1 hij.2
  | tail _ hjk ih => exact (hg _ _ hjk.1 hjk.2).trans ih

/-- Where every mode is higher than what it contains, there are no cycles. -/
theorem acyclic_of_descends (hg : g.Descends height) : g.Acyclic := by
  intro i _ _ hcycle
  exact (height_lt_of_transGen hg hcycle).ne rfl

end Grammar

namespace Lexer

open Text

variable {g : Grammar} {text : List Char} {c : Config} {maxDepth : Nat}

/-! ## Paths -/

/-- A chain does not meet anything twice that does not lead back to itself. -/
theorem nodup_of_isChain {α : Type} {R : α → α → Prop} {l : List α} (h : l.IsChain R)
    (hcycle : ∀ a ∈ l, ¬Relation.TransGen R a a) : l.Nodup := by
  have hpairs : l.Pairwise (Relation.TransGen R) :=
    (h.imp fun _ _ hab => Relation.TransGen.single hab).pairwise
  refine hpairs.imp_of_mem ?_
  intro a b ha _ hab heq
  exact hcycle a ha (heq ▸ hab)

/-- The open modes, outermost first. -/
def Config.modes (c : Config) : List Nat := c.stack.frames.map Frame.mode

theorem length_modes (c : Config) : c.modes.length = c.stack.depth := by
  rw [Config.modes, List.length_map, ModeStack.length_frames]

theorem Config.Stacked.modes_eq (hc : c.Stacked g text maxDepth) :
    c.modes = 0 :: c.stack.openFrames.map Frame.mode := by
  rw [Config.modes, ModeStack.frames, List.map_cons, hc.bottom.1]

theorem Config.Stacked.ne_zero_of_mem_tail (hc : c.Stacked g text maxDepth) :
    ∀ i ∈ c.modes.tail, i ≠ 0 := by
  rw [hc.modes_eq, List.tail_cons]
  intro i hi
  obtain ⟨f, hf, rfl⟩ := List.mem_map.1 hi
  exact hc.ne_default f hf

theorem Config.Stacked.isChain_modes (hc : c.Stacked g text maxDepth) :
    c.modes.IsChain g.MayOpen := by
  have hcontained := (List.isChain_map (R := fun i j => j ∈ (g.mode i).contains) Frame.mode).2
    hc.contained
  have hne := hc.ne_zero_of_mem_tail
  have hmodes := hc.modes_eq
  have hcontained : c.modes.IsChain fun i j => j ∈ (g.mode i).contains := hcontained
  rw [hmodes] at hcontained hne ⊢
  rw [List.isChain_iff_getElem] at hcontained ⊢
  intro k hk
  refine ⟨hcontained k hk, ?_⟩
  rw [List.getElem_cons_succ]
  exact hne _ (List.getElem_mem _)

theorem Config.Stacked.lt_modeCount (hc : c.Stacked g text maxDepth)
    (hg : ∀ i, ∀ child ∈ (g.mode i).contains, child < g.modeCount) :
    ∀ i ∈ c.modes, i < g.modeCount := by
  intro i hi
  rw [hc.modes_eq] at hi
  rcases List.mem_cons.1 hi with rfl | hi
  · exact Nat.succ_pos _
  · obtain ⟨f, hf, rfl⟩ := List.mem_map.1 hi
    obtain ⟨below, hbelow⟩ := exists_rel_of_mem hc.contained hf
    exact hg below.mode f.mode hbelow

/-- Without cycles, no mode is open twice. -/
theorem Config.Stacked.modes_nodup (hc : c.Stacked g text maxDepth)
    (hg : ∀ i, ∀ child ∈ (g.mode i).contains, child < g.modeCount) (hacyclic : g.Acyclic) :
    c.modes.Nodup := by
  have hchain := hc.isChain_modes
  have hlt := hc.lt_modeCount hg
  have hne := hc.ne_zero_of_mem_tail
  rw [hc.modes_eq] at hchain hlt hne ⊢
  rw [List.tail_cons] at hne
  refine List.nodup_cons.2 ⟨fun hzero => hne 0 hzero rfl, ?_⟩
  apply nodup_of_isChain hchain.tail
  intro i hi
  exact hacyclic i (Nat.pos_of_ne_zero (hne i hi)) (hlt i (List.mem_cons_of_mem _ hi))

/-- Without cycles, no more modes are open than there are. -/
theorem Config.Stacked.depth_le_modeCount (hc : c.Stacked g text maxDepth)
    (hg : ∀ i, ∀ child ∈ (g.mode i).contains, child < g.modeCount) (hacyclic : g.Acyclic) :
    c.stack.depth ≤ g.modeCount := by
  have hsub : c.modes ⊆ List.range g.modeCount := by
    intro i hi
    exact List.mem_range.2 (hc.lt_modeCount hg i hi)
  have hlength := ((hc.modes_nodup hg hacyclic).subperm hsub).length_le
  rwa [length_modes, List.length_range] at hlength

/-! ## Room -/

theorem Config.Stacked.withLimit (hc : c.Stacked g text maxDepth) {limit : Nat}
    (h : c.stack.depth ≤ limit) : c.Stacked g text limit :=
  { hc with depth := ⟨hc.depth.1, h.trans (Nat.le_max_right _ _)⟩ }

theorem Config.Stacked.depth_lt_of_enter {child : Nat} {f : Found}
    (hc : c.Stacked g text maxDepth) (hbegin : g.defaultMode.beginPattern = none)
    (hg : ∀ i, ∀ child ∈ (g.mode i).contains, child < g.modeCount) (hacyclic : g.Acyclic)
    (hw : Wins (offers g text c) ⟨.enter child, f⟩) : c.stack.depth < g.modeCount := by
  -- the stack with the new mode is that of a configuration as well, if the limit allows it
  have hroom : c.Stacked g text (c.stack.depth + 1) := hc.withLimit (Nat.le_succ _)
  have hdepth := (hroom.enter hbegin hw (Nat.lt_succ_self _)).depth_le_modeCount hg hacyclic
  have hpush : (c.after ⟨.enter child, f⟩).stack.depth = c.stack.depth + 1 :=
    ModeStack.depth_push c.stack child f.start
  omega

end Lexer

/-! ## Reading a text -/

namespace Grammar

open Lexer

variable {name : String} {d : GrammarDefinition} {g : Grammar}

/-- **Acyclic grammars do not nest too deep.** Take a grammar in which no mode but the default mode
can be opened inside itself, and a limit that is not below the number of its modes. Whatever the
text is, no more modes are ever open than the grammar has, and reading never fails because modes are
nested too deep. -/
theorem depth_le_of_acyclic (h : compile name d = .ok g) (hacyclic : g.Acyclic) (text : String)
    {options : LexOptions} (hlimit : g.modeCount ≤ options.maxDepth) :
    (∀ n s, Reaches (g.job text options) n s → s.stack.depth ≤ g.modeCount) ∧
      ∀ language limit place,
        g.lex text options ≠ .error (.nestingTooDeep language limit place) := by
  have hbare := bare_of_compile h
  have hcontains := contains_lt_of_compile h
  constructor
  · intro n s hs
    have hstacked : s.config.Stacked g text.toList options.maxDepth := stacked_of_reaches hbare hs
    exact hstacked.depth_le_modeCount hcontains hacyclic
  · intro language limit place hdeep
    obtain ⟨c, hpath, -, ⟨-, hlex⟩ | ⟨-, r, hstop, hlex⟩⟩ := lex_spec g text options
    · rw [hlex] at hdeep
      cases hdeep
    · rw [hlex] at hdeep
      cases hstop with
      | done => cases hdeep
      | forbidden => cases hdeep
      | tooDeep hw hfull =>
        have hroom := (stacked_of_trace h hpath).depth_lt_of_enter hbare.1 hcontains hacyclic hw
        exact absurd (hlimit.trans hfull) (Nat.not_le.2 hroom)

/-- Boxes hold bags, and bags hold boxes no more. Both refer to the default mode, and boxes refer to
bags twice. -/
def boxes : GrammarDefinition where
  name := "boxes"
  defaultMode := ({} : ModeDefinition).containing ["bag", "box"]
  modes :=
    [(ModeDefinition.bounded "box" "\\x7b" "\\x7d").containing ["bag", defaultModeReference, "bag"],
      (ModeDefinition.bounded "bag" "\\(" "\\)").containing [defaultModeReference]]

/-- How many modes may be open above one with this name. -/
def boxHeight (className : String) : Nat := [defaultModeReference, "bag", "box", ""].idxOf className

theorem boxHeight_lt : ∀ md ∈ boxes.defaultMode :: boxes.modes, ∀ reference ∈ md.contains,
    boxHeight reference < boxHeight md.className := by
  decide

/-- Three modes are open at once where the limit is three, and a limit of two is met. -/
theorem depth_le_of_acyclic_boxes :
    ∃ g s, compile "boxes" boxes = .ok g ∧ g.Acyclic ∧ g.modeCount = 3 ∧
      Reaches (g.job "é\x7b(\x7b" { maxDepth := 3 }) 2 s ∧ s.stack.depth = 3 ∧
      s.stack.depth ≤ g.modeCount ∧
      (∀ language limit place, g.lex "é\x7b(\x7b" { maxDepth := 3 } ≠
        .error (.nestingTooDeep language limit place)) ∧
      g.lex "é\x7b(\x7b" { maxDepth := 2 } = .error (.nestingTooDeep "boxes" 2 3) := by
  have hrun : ((compile "boxes" boxes).toOption.bind fun g =>
      (given? (g.job "é\x7b(\x7b" { maxDepth := 3 }) 2).map fun given =>
        (given.1.stack.depth, g.modeCount, g.lex "é\x7b(\x7b" { maxDepth := 2 })) =
      some (3, 3, .error (.nestingTooDeep "boxes" 2 3)) := by
    decide +kernel
  obtain ⟨g, hg, hgiven⟩ := Option.bind_eq_some_iff.1 hrun
  obtain ⟨⟨s, spans, relevance⟩, hgiven, hvalues⟩ := Option.map_eq_some_iff.1 hgiven
  simp only [Prod.mk.injEq] at hvalues
  obtain ⟨hdepth, hcount, hdeep⟩ := hvalues
  rw [Except.toOption_eq_some_iff] at hg
  have hacyclic : g.Acyclic := acyclic_of_descends (descends_of_names hg boxHeight_lt)
  have hreach := reaches_of_given? hgiven
  have hlimit : g.modeCount ≤ ({ maxDepth := 3 } : LexOptions).maxDepth := hcount.le
  obtain ⟨hle, hnever⟩ := depth_le_of_acyclic hg hacyclic "é\x7b(\x7b" hlimit
  exact ⟨g, s, hg, hacyclic, hcount, hreach, hdepth, hle 2 s hreach, hnever, hdeep⟩

end Grammar

end Tint
