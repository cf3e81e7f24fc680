import Tint.Proofs.Machine

/-!
# The reader in lockstep with the machine

**Lockstep (`step_cases`).** From a sound state the reader does what the machine does from the
state's configuration, and comes to a sound state again. All that is known about a run follows from
this one lemma: `reaches_spec` for the states on the way, `run_spec` for where it ends.

**Theorem (`lex_refines_machine`).** At every state of every run the boundary taken is the winner,
and the run ends at forbidden text exactly when the machine comes to forbidden text before a limit
is met.
-/

namespace Tint

namespace Lexer

open Text

variable {g : Grammar} {text : List Char} {b : Boundary} {bs : List Boundary} {c c' : Config}

/-! ## Searching for a boundary -/

/-- Searching beside a sound memo finds the winner of what is on offer, and leaves a sound memo. -/
theorem nextBoundary_spec {ws : List Watch} {rest : List Char} {position : Nat} {memo : Memo}
    (hw : ∀ w ∈ ws, g.pattern? w.key = some w.pattern) (hr : dropTo? text position = some rest)
    (hm : memo.Sound g text) :
    (nextBoundary ws rest position memo).1 =
        winner (ws.filterMap fun w =>
          (w.pattern.searchIn w.key.slot text position).map (⟨w.transition, ·⟩)) ∧
      (nextBoundary ws rest position memo).2.Sound g text := by
  have hgen : ∀ (ws : List Watch) (best : Option Boundary) (memo : Memo),
      (∀ w ∈ ws, g.pattern? w.key = some w.pattern) → memo.Sound g text →
      let r := ws.foldl (fun acc w =>
        let answer := acc.2.find w.key w.pattern rest position
        (earlier acc.1 w.transition answer.1, answer.2)) (best, memo)
      r.1 = (ws.filterMap fun w =>
          (w.pattern.searchIn w.key.slot text position).map
            (⟨w.transition, ·⟩ : Found → Boundary)).foldl
          (fun best b => earlier best b.transition (some b.found)) best ∧
        r.2.Sound g text := by
    intro ws
    induction ws with
    | nil => exact fun best memo _ hm => ⟨rfl, hm⟩
    | cons w ws ih =>
      intro best memo hw hm
      obtain ⟨hfound, hsound⟩ := hm.find (hw w List.mem_cons_self) hr
      obtain ⟨hr₁, hr₂⟩ := ih (earlier best w.transition
          (w.pattern.searchIn w.key.slot text position)) _
        (fun w' hw' => hw w' (List.mem_cons_of_mem _ hw')) hsound
      simp only [List.foldl_cons, hfound]
      refine ⟨hr₁.trans ?_, hr₂⟩
      cases hs : w.pattern.searchIn w.key.slot text position <;> simp [hs, earlier]
  exact hgen ws none memo hw hm

/-! ## Lockstep -/

/-- A state from which reading goes on as the machine does: it stands at a place of the text and
remembers nothing wrong. -/
structure State.Sound (job : Job) (s : State) : Prop where
  place : IsPlace job.text s.position
  memo : s.memo.Sound job.grammar job.text

theorem sound_start (job : Job) : ({} : State).Sound job :=
  ⟨isPlace_zero job.text, Memo.sound_empty job.grammar job.text⟩

/-- The boundary taken is the winner. -/
theorem boundary_spec {job : Job} {s : State} (hs : s.Sound job) :
    (s.boundary job).1 = winner (offers job.grammar job.text s.config) ∧
      (s.boundary job).2.Sound job.grammar job.text := by
  obtain ⟨rest, hr⟩ := isPlace_iff_dropTo?.1 hs.place
  simp only [State.boundary, hr, offers_eq_filterMap]
  exact nextBoundary_spec (fun w hw => (pattern?_key_of_mem_watches hw).1) hr hs.memo

/-- Up to where the own text of the open mode becomes spans at a boundary. -/
def Boundary.cut (b : Boundary) : Nat :=
  match b.transition with
  | .close => b.found.stop
  | _ => b.found.start

/-- What a boundary adds to the relevance. -/
def Boundary.relevance (g : Grammar) (b : Boundary) : Int :=
  match b.transition with
  | .enter child => (g.mode child).relevance
  | _ => 0

/-- What a configuration gives at the end of the text. -/
def ending (job : Job) (c : Config) : LexOutput where
  spans := ownSpans job c.stack.top job.size
  diagnostics := unterminated job c.stack

/-- The machine stops at a configuration, with a result: there is nothing on offer, or the winner
is forbidden, or it would open one mode too many. -/
inductive Stops (job : Job) (c : Config) : Except LexError LexOutput → Prop
  | done : offers job.grammar job.text c = [] → Stops job c (.ok (ending job c))
  | forbidden {f : Found} : Wins (offers job.grammar job.text c) ⟨.forbidden, f⟩ →
      Stops job c (.error (.illegalSequence f.start
        (String.ofList (between job.text f.start f.stop)) job.grammar.name
        (job.grammar.mode c.stack.top.mode).className))
  | tooDeep {child : Nat} {f : Found} :
      Wins (offers job.grammar job.text c) ⟨.enter child, f⟩ → job.maxDepth ≤ c.stack.depth →
      Stops job c (.error (.nestingTooDeep job.grammar.name job.maxDepth f.start))

/-- The outcome of a transition at which reading ends. -/
def Outcome.ofResult : Except LexError LexOutput → Outcome
  | .ok out => .done out
  | .error e => .fail e

/-- **Lockstep.** From a sound state, either the machine stops and reading ends with the same
result, or the machine goes on and reading comes to a sound state with the configuration that the
machine comes to. -/
theorem step_cases {job : Job} {s : State} (hs : s.Sound job) :
    (∃ r, Stops job s.config r ∧ step job s = .ofResult r) ∨
      ∃ b s', (s.boundary job).1 = some b ∧ Wins (offers job.grammar job.text s.config) b ∧
        b.transition ≠ .forbidden ∧
        (∀ child, b.transition = .enter child → s.stack.depth < job.maxDepth) ∧
        s'.config = s.config.after b ∧ s'.Sound job ∧
        step job s = .next (ownSpans job s.stack.top b.cut) (b.relevance job.grammar) s' := by
  obtain ⟨hwin, hmemo⟩ := boundary_spec hs
  cases hb : (s.boundary job).1 with
  | none =>
    refine .inl ⟨_, .done (winner_eq_none_iff.1 (hwin.symm.trans hb)), ?_⟩
    simp only [step, hb]
    rfl
  | some b =>
    have hw : Wins (offers job.grammar job.text s.config) b :=
      winner_eq_some_iff.1 (hwin.symm.trans hb)
    obtain ⟨-, ⟨w, hslice⟩, -⟩ := offers_spec hw.mem
    obtain ⟨t, f⟩ := b
    cases t with
    | forbidden =>
      refine .inl ⟨_, .forbidden hw, ?_⟩
      simp only [step, hb]
      rfl
    | close =>
      refine .inr ⟨_, _, rfl, hw, nofun, nofun, ?_, ?_, by simp only [step, hb]; rfl⟩
      · rfl
      · exact ⟨isPlace_right_of_slice? hslice, hmemo⟩
    | enter child =>
      by_cases hdepth : job.maxDepth ≤ s.stack.depth
      · refine .inl ⟨_, .tooDeep hw hdepth, ?_⟩
        simp only [step, hb, if_pos hdepth]
        rfl
      · refine .inr ⟨_, _, rfl, hw, nofun, fun _ _ => Nat.lt_of_not_le hdepth, ?_, ?_,
          by simp only [step, hb, if_neg hdepth]; rfl⟩
        · rfl
        · exact ⟨isPlace_right_of_slice? hslice, hmemo⟩

/-! ## Runs -/

/-- The boundaries that a run takes. -/
def trace (job : Job) : (budget : Nat) → State → List Boundary
  | 0, _ => []
  | budget + 1, s =>
    match (s.boundary job).1, step job s with
    | some b, .next _ _ s' => b :: trace job budget s'
    | _, _ => []

/-- An output with what the boundaries on the way to it add. -/
def along (job : Job) : Config → List Boundary → LexOutput → LexOutput
  | _, [], out => out
  | c, b :: bs, out =>
    let later := along job (c.after b) bs out
    { later with
      spans := ownSpans job c.stack.top b.cut ++ later.spans
      relevance := b.relevance job.grammar + later.relevance }

/-- A run follows the machine along its trace. It ends where the budget is used up or the machine
stops. -/
theorem run_spec {job : Job} {s : State} (hs : s.Sound job) (limit budget : Nat) :
    ∃ c, Path job.grammar job.text s.config (trace job budget s) c ∧
      Shallow job.maxDepth s.config (trace job budget s) ∧
      (((trace job budget s).length = budget ∧
          run job limit budget s = .error (.stepLimitExceeded job.grammar.name limit)) ∨
        ((trace job budget s).length < budget ∧ ∃ r, Stops job c r ∧
          run job limit budget s = r.map (along job s.config (trace job budget s)))) := by
  induction budget generalizing s with
  | zero => exact ⟨s.config, .nil _, trivial, .inl ⟨rfl, rfl⟩⟩
  | succ budget ih =>
    rcases step_cases hs with ⟨r, hstop, hstep⟩ | ⟨b, s', hb, hw, hne, hdepth, hafter, hs', hstep⟩
    · have htrace : trace job (budget + 1) s = [] := by
        simp only [trace, hstep]
        cases r <;> cases (s.boundary job).1 <;> rfl
      rw [htrace]
      refine ⟨s.config, .nil _, trivial, .inr ⟨Nat.zero_lt_succ _, r, hstop, ?_⟩⟩
      simp only [run, hstep]
      cases r <;> rfl
    · have htrace : trace job (budget + 1) s = b :: trace job budget s' := by
        simp only [trace, hstep, hb]
      have hrun : run job limit (budget + 1) s =
          (run job limit budget s').map fun out =>
            { out with
              spans := ownSpans job s.stack.top b.cut ++ out.spans
              relevance := b.relevance job.grammar + out.relevance } := by
        simp only [run, hstep]
      obtain ⟨c, hpath, hshallow, hend⟩ := ih hs'
      rw [hafter] at hpath hshallow
      rw [htrace, List.length_cons, hrun]
      refine ⟨c, .cons hw hne hpath, ⟨hdepth, hshallow⟩, ?_⟩
      rcases hend with ⟨hlen, hrun'⟩ | ⟨hlen, r, hstop, hrun'⟩
      · refine .inl ⟨by omega, ?_⟩
        rw [hrun']
        rfl
      · refine .inr ⟨by omega, r, hstop, ?_⟩
        rw [hrun', hafter]
        cases r <;> rfl

theorem stuck_of_forbidden {f : Found} (h : Wins (offers g text c) ⟨.forbidden, f⟩) :
    Stuck g text c :=
  fun _ hw => by rw [hw.unique h]

/-! ## States on the way -/

/-- The states that a run comes to, with the number of transitions taken. -/
inductive Reaches (job : Job) : Nat → State → Prop
  | start : Reaches job 0 {}
  | next {n : Nat} {s s' : State} {spans : List Span} {relevance : Int} :
      Reaches job n s → step job s = .next spans relevance s' → Reaches job (n + 1) s'

theorem boundary_of_next {job : Job} {s s' : State} {spans : List Span} {relevance : Int}
    (hs : s.Sound job) (h : step job s = .next spans relevance s') :
    ∃ b, (s.boundary job).1 = some b ∧ Wins (offers job.grammar job.text s.config) b ∧
      b.transition ≠ .forbidden ∧
      (∀ child, b.transition = .enter child → s.stack.depth < job.maxDepth) ∧
      s'.config = s.config.after b ∧ s'.Sound job := by
  rcases step_cases hs with ⟨r, -, hstep⟩ | ⟨b, t, hb, hw, hne, hdepth, hafter, ht, hstep⟩
  · rw [h] at hstep
    cases r <;> cases hstep
  · rw [h] at hstep
    cases hstep
    exact ⟨b, hb, hw, hne, hdepth, hafter, ht⟩

theorem move_of_next {job : Job} {s s' : State} {spans : List Span} {relevance : Int}
    (hs : s.Sound job) (h : step job s = .next spans relevance s') :
    ∃ b, Wins (offers job.grammar job.text s.config) b ∧ b.transition ≠ .forbidden ∧
      s'.config = s.config.after b ∧ s'.Sound job := by
  obtain ⟨b, -, hw, hne, -, hafter, hs'⟩ := boundary_of_next hs h
  exact ⟨b, hw, hne, hafter, hs'⟩

theorem reaches_spec {job : Job} {n : Nat} {s : State} (h : Reaches job n s) :
    s.Sound job ∧ ∃ bs, bs.length = n ∧ Path job.grammar job.text {} bs s.config := by
  induction h with
  | start => exact ⟨sound_start job, [], rfl, .nil _⟩
  | next _ hstep ih =>
    obtain ⟨hs, bs, rfl, hpath⟩ := ih
    obtain ⟨b, hw, hne, hafter, hs'⟩ := move_of_next hs hstep
    exact ⟨hs', bs ++ [b], by simp, hpath.concat hw hne hafter⟩

end Lexer

/-! ## Reading a text -/

namespace Grammar

open Lexer Text

/-- The job of reading a text. -/
def job (g : Grammar) (text : String) (options : LexOptions) : Job where
  grammar := g
  text := text.toList
  size := size text.toList
  maxDepth := options.maxDepth

/-- The boundaries taken in reading a text. -/
def trace (g : Grammar) (text : String) (options : LexOptions) : List Boundary :=
  Lexer.trace (g.job text options)
    (Nat.min (options.stepLimitFor text) (maxSteps (size text.toList))) {}

variable {name : String} {d : GrammarDefinition} {g : Grammar}

/-- Reading follows the machine along its trace, and its result is what the machine stops with and
what the boundaries on the way add. -/
theorem lex_spec (g : Grammar) (text : String) (options : LexOptions) :
    ∃ c, Path g text.toList {} (g.trace text options) c ∧
      Shallow options.maxDepth {} (g.trace text options) ∧
      (((g.trace text options).length =
            Nat.min (options.stepLimitFor text) (maxSteps (size text.toList)) ∧
          g.lex text options = .error (.stepLimitExceeded g.name (options.stepLimitFor text))) ∨
        ((g.trace text options).length <
            Nat.min (options.stepLimitFor text) (maxSteps (size text.toList)) ∧
          ∃ r, Stops (g.job text options) c r ∧ g.lex text options = r.map fun out =>
            let out := along (g.job text options) {} (g.trace text options) out
            { out with relevance := g.defaultMode.relevance + out.relevance })) := by
  obtain ⟨c, hpath, hshallow, hend⟩ := run_spec (sound_start (g.job text options))
    (options.stepLimitFor text) (Nat.min (options.stepLimitFor text) (maxSteps (size text.toList)))
  refine ⟨c, hpath, hshallow, hend.imp (fun ⟨hlen, hrun⟩ => ⟨hlen, ?_⟩)
    fun ⟨hlen, r, hstop, hrun⟩ => ⟨hlen, r, hstop, ?_⟩⟩
  · exact congrArg (Except.map _) hrun
  · refine (congrArg (Except.map _) hrun).trans ?_
    cases r <;> rfl

/-- Reading that succeeds has come to where nothing is on offer. -/
theorem path_of_lex_eq_ok {text : String} {options : LexOptions} {out : LexOutput}
    (h : g.lex text options = .ok out) :
    ∃ c, Path g text.toList {} (g.trace text options) c ∧ offers g text.toList c = [] ∧
      out =
        let job := g.job text options
        let out := along job {} (g.trace text options) (ending job c)
        { out with relevance := g.defaultMode.relevance + out.relevance } := by
  obtain ⟨c, hpath, -, ⟨-, hlex⟩ | ⟨-, r, hstop, hlex⟩⟩ := lex_spec g text options
  · rw [hlex] at h
    cases h
  rw [hlex] at h
  cases hstop with
  | forbidden => cases h
  | tooDeep => cases h
  | done hnone =>
    cases h
    exact ⟨c, hpath, hnone, rfl⟩

/-- Forbidden text on the machine's path, before a limit is met, is where reading ends. -/
theorem lex_eq_illegal_of_path (hg : g.defaultMode.endPattern = none) {text : String}
    {options : LexOptions} {bs : List Boundary} {c : Config} {f : Found} {w : List Char}
    (hpath : Path g text.toList {} bs c) (hlen : bs.length < options.stepLimitFor text)
    (hshallow : Shallow options.maxDepth {} bs)
    (hw : Wins (offers g text.toList c) ⟨.forbidden, f⟩)
    (hslice : slice? text.toList f.start f.stop = some w) :
    g.lex text options = .error (.illegalSequence f.start (String.ofList w) g.name
      (g.mode c.stack.top.mode).className) := by
  obtain ⟨c', hpath', -, hend⟩ := lex_spec g text options
  obtain ⟨rest, hbs, hrest⟩ := hpath.append_of_stuck (stuck_of_forbidden hw) hpath'
  have hbudget : bs.length <
      Nat.min (options.stepLimitFor text) (maxSteps (size text.toList)) := by
    have := length_le_of_path hg hpath
    exact Nat.lt_min.2 ⟨hlen, by unfold maxSteps; omega⟩
  rcases hend with ⟨hlen', -⟩ | ⟨-, r, hstop, hlex⟩
  · -- The run would have used up its budget before the end of the path.
    rw [hbs, List.length_append] at hbudget
    omega
  cases hstop with
  | done hnone =>
    obtain rfl := hrest.eq_nil_of_stuck fun b hb => absurd (hnone ▸ hb.mem) (by simp)
    cases hrest
    exact absurd (hnone ▸ hw.mem) (by simp)
  | forbidden hw' =>
    obtain rfl := hrest.eq_nil_of_stuck (stuck_of_forbidden hw')
    cases hrest
    cases hw.unique hw'
    rw [hlex]
    simp only [Except.map, job, between_of_slice? hslice]
  | tooDeep hw' hdepth =>
    cases hrest with
    | nil => cases hw.unique hw'
    | cons hwb _ _ =>
      cases hwb.unique hw'
      rw [hbs, shallow_append hpath'] at hshallow
      exact absurd (hshallow.2.1 _ rfl) (Nat.not_lt.2 hdepth)

/-- Reading that ends at forbidden text has come to it on the machine's path. -/
theorem path_of_lex_eq_illegal {text : String} {options : LexOptions} {offset : Nat}
    {slice language mode : String}
    (h : g.lex text options = .error (.illegalSequence offset slice language mode)) :
    ∃ bs c f, Path g text.toList {} bs c ∧ bs.length < options.stepLimitFor text ∧
      Shallow options.maxDepth {} bs ∧ Wins (offers g text.toList c) ⟨.forbidden, f⟩ ∧
      offset = f.start ∧ f.start < f.stop ∧
      slice? text.toList f.start f.stop = some slice.toList ∧
      language = g.name ∧ mode = (g.mode c.stack.top.mode).className := by
  obtain ⟨c, hpath, hshallow, ⟨-, hlex⟩ | ⟨hlen, r, hstop, hlex⟩⟩ := lex_spec g text options
  · rw [hlex] at h
    cases h
  rw [hlex] at h
  cases hstop with
  | done => cases h
  | tooDeep => cases h
  | forbidden hw =>
    cases h
    obtain ⟨-, ⟨w, hslice⟩, hlt⟩ := offers_spec hw.mem
    refine ⟨_, c, _, hpath, (Nat.lt_min.1 hlen).1, hshallow, hw, rfl, hlt nofun, ?_, rfl, rfl⟩
    rw [between_of_slice? hslice, String.toList_ofList]
    exact hslice

/-- **The reader refines the machine that remembers nothing.** At every state that a run comes to,
the boundary taken is the winner of what is on offer there; reading ends where the machine stops,
and otherwise goes where the winner leads. So it ends at forbidden text exactly when the machine
comes to forbidden text before a limit is met, and then the error names the place, the text and the
mode. -/
theorem lex_refines_machine (h : compile name d = .ok g) (text : String) (options : LexOptions) :
    (∀ n s, Reaches (g.job text options) n s →
      (∃ bs, bs.length = n ∧ Path g text.toList {} bs s.config) ∧
      (∀ b, (s.boundary (g.job text options)).1 = some b ↔
        Wins (offers g text.toList s.config) b) ∧
      ((∃ r, Stops (g.job text options) s.config r ∧
          step (g.job text options) s = .ofResult r) ∨
        ∃ b s', Wins (offers g text.toList s.config) b ∧ b.transition ≠ .forbidden ∧
          (∀ child, b.transition = .enter child → s.stack.depth < options.maxDepth) ∧
          s'.config = s.config.after b ∧
          ∃ spans relevance, step (g.job text options) s = .next spans relevance s')) ∧
    ∀ offset slice language mode,
      g.lex text options = .error (.illegalSequence offset slice language mode) ↔
        ∃ bs c f, Path g text.toList {} bs c ∧ bs.length < options.stepLimitFor text ∧
          Shallow options.maxDepth {} bs ∧ Wins (offers g text.toList c) ⟨.forbidden, f⟩ ∧
          offset = f.start ∧ f.start < f.stop ∧
          slice? text.toList f.start f.stop = some slice.toList ∧
          language = g.name ∧ mode = (g.mode c.stack.top.mode).className := by
  refine ⟨fun n s hs => ?_, fun offset slice language mode => ⟨path_of_lex_eq_illegal, ?_⟩⟩
  · obtain ⟨hsound, hpath⟩ := reaches_spec hs
    refine ⟨hpath, fun b => ?_, (step_cases hsound).imp_right ?_⟩
    · rw [(boundary_spec hsound).1]
      exact winner_eq_some_iff
    · rintro ⟨b, s', -, hw, hne, hdepth, hafter, -, hstep⟩
      exact ⟨b, s', hw, hne, hdepth, hafter, _, _, hstep⟩
  · rintro ⟨bs, c, f, hpath, hlen, hshallow, hw, rfl, -, hslice, rfl, rfl⟩
    rw [lex_eq_illegal_of_path (bare_of_compile h).2 hpath hlen hshallow hw hslice,
      String.ofList_toList]

/-- A semicolon inside a block. -/
theorem lex_refines_machine_blocks :
    ∃ g, compile "blocks" blocks = .ok g ∧
      g.lex "if a\x7bb;" {} = .error (.illegalSequence 6 ";" "blocks" "block") ∧
      ∃ bs c f, Path g "if a\x7bb;".toList {} bs c ∧ bs.length < 15 ∧ Shallow 1024 {} bs ∧
        Wins (offers g "if a\x7bb;".toList c) ⟨.forbidden, f⟩ ∧ 6 = f.start ∧
        "block" = (g.mode c.stack.top.mode).className := by
  have hrun : ((compile "blocks" blocks).toOption.map fun g => g.lex "if a\x7bb;" {}) =
      some (.error (.illegalSequence 6 ";" "blocks" "block")) := by
    decide +kernel
  obtain ⟨g, hg, hlex⟩ := Option.map_eq_some_iff.1 hrun
  rw [Except.toOption_eq_some_iff] at hg
  obtain ⟨bs, c, f, hpath, hlen, hshallow, hw, hstart, -, -, -, hmode⟩ :=
    ((lex_refines_machine hg "if a\x7bb;" {}).2 ..).1 hlex
  exact ⟨g, hg, hlex, bs, c, f, hpath, hlen, hshallow, hw, hstart, hmode⟩

end Grammar

end Tint
