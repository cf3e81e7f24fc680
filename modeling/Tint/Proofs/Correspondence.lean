import Tint.Proofs.Restart

/-!
# Grammars that read alike

Two grammars correspond (`Corresponds`) when the modes of one, renumbered, have the outlines of the
modes of the other: the same names, the same patterns for their boundaries and for what they forbid,
and the same modes inside. What cuts their own text into spans, and how much they count, is left out
of the outline.

**Winners (`SameWinners`).** Readers of corresponding grammars that stand at the same place, with
the same modes open, find the same matches (`offers_renumber`). All that matters of them is that the
same one wins, so no more is asked for from here on.

**Lockstep (`step_renumber`).** Where the same match wins, readers take the same transition. What
they remember of earlier searches may lie under other indices; but a sound memo never changes an
answer, so nothing has to be said about it.

**Run (`run_renumber`).** So both take the same boundaries and fail alike, or both succeed. What
can be said of their outputs depends on what the outline leaves out: any relation between outputs
goes from the last transition back to the first if each transition keeps it (`Carries`).
-/

namespace Tint

/-- The modes have the same outline, up to the numbers of the modes that they contain. -/
structure Mode.SameOutline (σ : Nat → Nat) (m m' : Mode) : Prop where
  className : m'.className = m.className
  beginPattern : m'.beginPattern = m.beginPattern
  endPattern : m'.endPattern = m.endPattern
  illegal : m'.illegal = m.illegal
  contains : m'.contains = m.contains.map σ

/-- The renumbered modes of one grammar have the outlines of modes of the other. The default mode
keeps its number. -/
structure Grammar.Corresponds (g g' : Grammar) (σ : Nat → Nat) : Prop where
  name : g'.name = g.name
  start : σ 0 = 0
  outline : ∀ i, (g.mode i).SameOutline σ (g'.mode (σ i))

def Frame.renumber (σ : Nat → Nat) (f : Frame) : Frame := { f with mode := σ f.mode }

def ModeStack.renumber (σ : Nat → Nat) (s : ModeStack) : ModeStack :=
  ⟨s.bottom.renumber σ, s.above.map (Frame.renumber σ)⟩

namespace Lexer

open Text Grammar

def Transition.renumber (σ : Nat → Nat) : Transition → Transition
  | .forbidden => .forbidden
  | .close => .close
  | .enter child => .enter (σ child)

def Boundary.renumber (σ : Nat → Nat) (b : Boundary) : Boundary :=
  { b with transition := b.transition.renumber σ }

def Config.renumber (σ : Nat → Nat) (c : Config) : Config := ⟨c.position, c.stack.renumber σ⟩

/-- The job of reading the same text with another grammar. -/
def Job.under (job : Job) (g' : Grammar) : Job := { job with grammar := g' }

variable {job : Job} {g g' : Grammar} {σ : Nat → Nat} {b : Boundary} {c : Config} {s s' : State}
  {r r' : Except LexError LexOutput} {R : LexOutput → LexOutput → Prop}

/-! ## Renumbering -/

theorem mode_top_renumber (σ : Nat → Nat) (stack : ModeStack) :
    (stack.renumber σ).top.mode = σ stack.top.mode := by
  unfold ModeStack.top ModeStack.renumber
  cases stack.above with
  | nil => rfl
  | cons f rest => rfl

theorem textStart_top_renumber (σ : Nat → Nat) (stack : ModeStack) :
    (stack.renumber σ).top.textStart = stack.top.textStart := by
  unfold ModeStack.top ModeStack.renumber
  cases stack.above with
  | nil => rfl
  | cons f rest => rfl

theorem depth_renumber (σ : Nat → Nat) (stack : ModeStack) :
    (stack.renumber σ).depth = stack.depth := by
  simp [ModeStack.depth, ModeStack.renumber]

theorem openFrames_renumber (σ : Nat → Nat) (stack : ModeStack) :
    (stack.renumber σ).openFrames = stack.openFrames.map (Frame.renumber σ) := by
  simp [ModeStack.openFrames, ModeStack.renumber]

theorem cut_renumber (σ : Nat → Nat) (b : Boundary) : (b.renumber σ).cut = b.cut := by
  obtain ⟨t, f⟩ := b
  cases t <;> rfl

theorem after_renumber (σ : Nat → Nat) (c : Config) (b : Boundary) :
    (c.renumber σ).after (b.renumber σ) = (c.after b).renumber σ := by
  obtain ⟨t, f⟩ := b
  obtain ⟨position, bottom, above⟩ := c
  cases t with
  | forbidden => rfl
  | enter child => rfl
  | close =>
    cases above with
    | nil => rfl
    | cons top rest => cases rest <;> rfl

theorem start_renumber (h : σ 0 = 0) : ({} : Config).renumber σ = {} := by
  simp [Config.renumber, ModeStack.renumber, ModeStack.start, Frame.renumber, h]

/-! ## What is on offer -/

theorem offers_renumber (h : Corresponds g g' σ) (text : List Char) (c : Config) :
    offers g' text (c.renumber σ) = (offers g text c).map (Boundary.renumber σ) := by
  have htop : (c.renumber σ).stack.top.mode = σ c.stack.top.mode := mode_top_renumber ..
  have hplace : (c.renumber σ).position = c.position := rfl
  have htoList : ∀ (t : Transition) (o : Option Found),
      ((o.map fun f => (⟨t, f⟩ : Boundary)).toList).map (Boundary.renumber σ) =
        (o.map fun f => (⟨t.renumber σ, f⟩ : Boundary)).toList := by
    intro t o
    cases o <;> rfl
  simp only [offers, htop, hplace, (h.outline _).illegal, (h.outline _).endPattern,
    (h.outline _).contains, (h.outline _).beginPattern, List.map_append, htoList,
    List.filterMap_map, List.map_filterMap, Option.map_map, Function.comp_def]
  rfl

theorem Wins.renumber {bs : List Boundary} (h : Wins bs b) (σ : Nat → Nat) :
    Wins (bs.map (Boundary.renumber σ)) (b.renumber σ) := by
  apply h.map
  intro x y
  rfl

theorem winner_renumber (bs : List Boundary) (σ : Nat → Nat) :
    winner (bs.map (Boundary.renumber σ)) = (winner bs).map (Boundary.renumber σ) := by
  cases hwinner : winner bs with
  | none =>
    rw [winner_eq_none_iff.1 hwinner]
    rfl
  | some b => exact winner_eq_some_iff.2 ((winner_eq_some_iff.1 hwinner).renumber σ)

/-- Where a match wins with the first grammar, it wins with the second one, renumbered. -/
structure SameWinners (g g' : Grammar) (σ : Nat → Nat) : Prop where
  name : g'.name = g.name
  start : σ 0 = 0
  className : ∀ i, (g'.mode (σ i)).className = (g.mode i).className
  winner : ∀ text c, winner (offers g' text (c.renumber σ)) =
    (winner (offers g text c)).map (Boundary.renumber σ)

theorem sameWinners_of_corresponds (h : Corresponds g g' σ) : SameWinners g g' σ where
  name := h.name
  start := h.start
  className i := (h.outline i).className
  winner text c := by rw [offers_renumber h, winner_renumber]

theorem SameWinners.wins {text : List Char} (h : SameWinners g g' σ)
    (hw : Wins (offers g text c) b) :
    Wins (offers g' text (c.renumber σ)) (b.renumber σ) := by
  rw [← winner_eq_some_iff, h.winner, winner_eq_some_iff.2 hw]
  rfl

theorem SameWinners.offers_eq_nil {text : List Char} (h : SameWinners g g' σ)
    (hnone : offers g text c = []) : offers g' text (c.renumber σ) = [] := by
  rw [← winner_eq_none_iff, h.winner, winner_eq_none_iff.2 hnone]
  rfl

theorem unterminated_renumber (h : SameWinners job.grammar g' σ) (stack : ModeStack) :
    unterminated (job.under g') (stack.renumber σ) = unterminated job stack := by
  rw [unterminated, openFrames_renumber, List.filterMap_map, unterminated]
  apply List.filterMap_congr
  intro f _
  show Diagnostic.unterminated? (g'.mode (σ f.mode)).className f.entry job.size = _
  rw [h.className]

/-! ## Results -/

/-- Both readers fail alike, or both succeed and their outputs are related. -/
inductive Agree (R : LexOutput → LexOutput → Prop) :
    Except LexError LexOutput → Except LexError LexOutput → Prop
  | ok {out out' : LexOutput} : R out out' → Agree R (.ok out) (.ok out')
  | error (e : LexError) : Agree R (.error e) (.error e)

theorem Agree.of_ok {out out' : LexOutput} (h : Agree R (.ok out) (.ok out')) : R out out' := by
  cases h with
  | ok hout => exact hout

theorem Agree.eq (h : Agree Eq r r') : r' = r := by
  cases h with
  | ok hout => rw [hout]
  | error e => rfl

theorem Agree.map_eq {β : Type} {φ : LexOutput → β} (h : Agree R r r')
    (hφ : ∀ out out', R out out' → φ out' = φ out) : r'.map φ = r.map φ := by
  cases h with
  | ok hout => exact congrArg Except.ok (hφ _ _ hout)
  | error e => rfl

/-- The relation holds at the end of the text, and every transition before it keeps it. -/
structure Carries (job : Job) (g' : Grammar) (σ : Nat → Nat)
    (R : LexOutput → LexOutput → Prop) : Prop where
  ending : ∀ c, R (ending job c) (ending (job.under g') (c.renumber σ))
  after : ∀ (stack : ModeStack) (b : Boundary) (out out' : LexOutput), R out out' →
    R (out.after (ownSpans job stack.top b.cut) (b.relevance job.grammar))
      (out'.after (ownSpans (job.under g') (stack.renumber σ).top b.cut)
        ((b.renumber σ).relevance g'))
  withDefault : ∀ out out', R out out' → R (job.grammar.withDefault out) (g'.withDefault out')

theorem Agree.after (hR : Carries job g' σ R) (h : Agree R r r') (stack : ModeStack)
    (b : Boundary) :
    Agree R (r.map (LexOutput.after (ownSpans job stack.top b.cut) (b.relevance job.grammar)))
      (r'.map (LexOutput.after (ownSpans (job.under g') (stack.renumber σ).top b.cut)
        ((b.renumber σ).relevance g'))) := by
  cases h with
  | ok hout => exact .ok (hR.after stack b _ _ hout)
  | error e => exact .error e

theorem Agree.withDefault (hR : Carries job g' σ R) (h : Agree R r r') :
    Agree R (r.map job.grammar.withDefault) (r'.map g'.withDefault) := by
  cases h with
  | ok hout => exact .ok (hR.withDefault _ _ hout)
  | error e => exact .error e

theorem Stops.renumber (h : SameWinners job.grammar g' σ) (hR : Carries job g' σ R)
    (hstop : Stops job c r) : ∃ r', Stops (job.under g') (c.renumber σ) r' ∧ Agree R r r' := by
  have hname : (job.under g').grammar.name = job.grammar.name := h.name
  cases hstop with
  | done hnone => exact ⟨_, .done (h.offers_eq_nil hnone), .ok (hR.ending c)⟩
  | forbidden hw =>
    refine ⟨_, .forbidden (h.wins hw), ?_⟩
    have hclass : ((job.under g').grammar.mode (c.renumber σ).stack.top.mode).className =
        (job.grammar.mode c.stack.top.mode).className := by
      show (g'.mode (c.stack.renumber σ).top.mode).className = _
      rw [mode_top_renumber, h.className]
    rw [hclass, hname]
    exact .error _
  | tooDeep hw hdepth =>
    refine ⟨_, .tooDeep (h.wins hw) ?_, ?_⟩
    · show job.maxDepth ≤ (c.stack.renumber σ).depth
      rw [depth_renumber]
      exact hdepth
    · rw [hname]
      exact .error _

/-! ## Lockstep -/

/-- Two readers stand at the same place, with the same modes open. -/
structure Beside (job : Job) (g' : Grammar) (σ : Nat → Nat) (s s' : State) : Prop where
  sound : s.Sound job
  sound' : s'.Sound (job.under g')
  config : s'.config = s.config.renumber σ

theorem beside_start (h : σ 0 = 0) : Beside job g' σ {} {} where
  sound := sound_start job
  sound' := sound_start (job.under g')
  config := (start_renumber h).symm

/-- **Lockstep.** Where the same match wins with both grammars, readers that stand side by side take
the same transition. -/
theorem step_renumber (h : SameWinners job.grammar g' σ) (hR : Carries job g' σ R)
    (hs : Beside job g' σ s s') :
    (∃ r r', Agree R r r' ∧ step job s = .ofResult r ∧ step (job.under g') s' = .ofResult r') ∨
      ∃ b t t', (s.boundary job).1 = some b ∧
        (s'.boundary (job.under g')).1 = some (b.renumber σ) ∧
        step job s = .next (ownSpans job s.stack.top b.cut) (b.relevance job.grammar) t ∧
        step (job.under g') s' =
          .next (ownSpans (job.under g') (s.stack.renumber σ).top b.cut)
            ((b.renumber σ).relevance g') t' ∧
        Beside job g' σ t t' := by
  obtain ⟨hsound, hsound', hconfig⟩ := hs
  have hstack : s'.stack = s.stack.renumber σ := congrArg Config.stack hconfig
  rcases step_cases hsound with
    ⟨r, hstop, hstep⟩ | ⟨b, t, hb, hw, hne, hdepth, hafter, ht, hstep⟩
  -- what either reader does is read off the configuration, whatever its memo holds
  · obtain ⟨r', hstop', hagree⟩ := hstop.renumber h hR
    rw [← hconfig] at hstop'
    exact .inl ⟨r, r', hagree, hstep, step_of_stops hsound' hstop'⟩
  · have hw' := h.wins hw
    rw [← hconfig] at hw'
    have hne' : (b.renumber σ).transition ≠ .forbidden := by
      obtain ⟨transition, f⟩ := b
      cases transition with
      | forbidden => exact absurd rfl hne
      | close => exact nofun
      | enter child => exact nofun
    have hdepth' : ∀ child, (b.renumber σ).transition = .enter child →
        s'.stack.depth < (job.under g').maxDepth := by
      intro child hchild
      rw [hstack, depth_renumber]
      obtain ⟨transition, f⟩ := b
      cases transition with
      | forbidden => exact absurd rfl hne
      | close => cases hchild
      | enter child' => exact hdepth child' rfl
    obtain ⟨t', hafter', ht', hstep'⟩ := step_of_wins hsound' hw' hne' hdepth'
    have hb' : (s'.boundary (job.under g')).1 = some (b.renumber σ) := by
      rw [(boundary_spec hsound').1]
      exact winner_eq_some_iff.2 hw'
    rw [cut_renumber, hstack] at hstep'
    refine .inr ⟨b, t, t', hb, hb', hstep, hstep', ht, ht', ?_⟩
    rw [hafter', hconfig, after_renumber, hafter]

/-! ## Runs -/

/-- Readers that stand side by side take the same boundaries, and their results agree. -/
theorem run_renumber (h : SameWinners job.grammar g' σ) (hR : Carries job g' σ R)
    (hs : Beside job g' σ s s') (limit budget : Nat) :
    Agree R (run job limit budget s) (run (job.under g') limit budget s') ∧
      trace (job.under g') budget s' = (trace job budget s).map (Boundary.renumber σ) := by
  induction budget generalizing s s' with
  | zero =>
    have hname : (job.under g').grammar.name = job.grammar.name := h.name
    refine ⟨?_, rfl⟩
    rw [run, run, hname]
    exact .error _
  | succ budget ih =>
    rcases step_renumber h hR hs with
      ⟨r, r', hagree, hstep, hstep'⟩ | ⟨b, t, t', hb, hb', hstep, hstep', ht⟩
    · constructor
      · rw [run, run, hstep, hstep']
        cases hagree with
        | ok hout => exact .ok hout
        | error e => exact .error e
      · rw [trace, trace, hstep, hstep']
        cases hagree with
        | ok hout => cases (s.boundary job).1 <;> cases (s'.boundary (job.under g')).1 <;> rfl
        | error e => cases (s.boundary job).1 <;> cases (s'.boundary (job.under g')).1 <;> rfl
    · obtain ⟨hagree, htrace⟩ := ih ht
      constructor
      · rw [run, run, hstep, hstep']
        exact hagree.after hR s.stack b
      · rw [trace, trace, hstep, hstep', hb, hb', List.map_cons, ← htrace]

end Lexer

/-! ## Reading a text -/

namespace Grammar

open Lexer

variable {g g' : Grammar} {σ : Nat → Nat} {R : LexOutput → LexOutput → Prop}

/-- Grammars with which the same matches win read a text with the same boundaries, and their results
agree. -/
theorem lex_of_sameWinners (h : SameWinners g g' σ) (text : String) (options : LexOptions)
    (hR : Carries (g.job text options) g' σ R) :
    Agree R (g.lex text options) (g'.lex text options) ∧
      g'.trace text options = (g.trace text options).map (Boundary.renumber σ) := by
  obtain ⟨hagree, htrace⟩ := run_renumber h hR (beside_start h.start) (options.stepLimitFor text)
    (Nat.min (options.stepLimitFor text) (maxSteps (Text.size text.toList)))
  exact ⟨hagree.withDefault hR, htrace⟩

/-- Corresponding grammars read a text with the same boundaries, and their results agree. -/
theorem lex_renumber (h : Corresponds g g' σ) (text : String) (options : LexOptions)
    (hR : Carries (g.job text options) g' σ R) :
    Agree R (g.lex text options) (g'.lex text options) ∧
      g'.trace text options = (g.trace text options).map (Boundary.renumber σ) :=
  lex_of_sameWinners (sameWinners_of_corresponds h) text options hR

end Grammar

end Tint
