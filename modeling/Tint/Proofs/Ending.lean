import Tint.Proofs.Lockstep
import Mathlib.Algebra.Group.Nat.Defs

/-!
# Reading comes to an end

Here a run is followed without a budget. `Reads` takes one transition after the other until one of
them ends the reading, and keeps the states that they were taken from, so the number of these states
is the number of transitions.

**Measure (`potential_lt_of_move`).** What may still happen is two transitions for each octet ahead
and one for each open mode. A transition that opens a mode passes an octet at least, and one that
closes a mode takes it off the stack, so each of them lowers this number. The default mode is never
closed, so there is always a mode to take off.

**Theorem (`lex_within_budget`).** So a run takes at most twice as many transitions as the text has
octets, and one, and the default budget is never used up.
-/

namespace Tint

/-- An output with what was given before it. -/
def LexOutput.after (spans : List Span) (relevance : Int) (out : LexOutput) : LexOutput :=
  { out with spans := spans ++ out.spans, relevance := relevance + out.relevance }

namespace Lexer

open Text

variable {job : Job} {move : State → Outcome} {s s' : State} {states states' : List State}
  {r r' : Except LexError LexOutput}

/-! ## Runs without a budget -/

/-- Transitions are taken from these states, one after the other, and the last one ends the reading
with this result. -/
inductive Reads (move : State → Outcome) : State → List State → Except LexError LexOutput → Prop
  | last {s : State} {r : Except LexError LexOutput} :
      move s = .ofResult r → Reads move s [s] r
  | next {s s' : State} {spans : List Span} {relevance : Int} {states : List State}
      {r : Except LexError LexOutput} :
      move s = .next spans relevance s' → Reads move s' states r →
      Reads move s (s :: states) (r.map (LexOutput.after spans relevance))

theorem Outcome.ofResult_injective : Function.Injective Outcome.ofResult := by
  intro r r' h
  cases r <;> cases r' <;> cases h <;> rfl

theorem Outcome.ofResult_ne_next (r : Except LexError LexOutput) (spans : List Span)
    (relevance : Int) (s : State) : Outcome.ofResult r ≠ .next spans relevance s := by
  intro h
  cases r <;> cases h

/-- There is one run from a state at most. -/
theorem Reads.unique (h : Reads move s states r) (h' : Reads move s states' r') :
    states = states' ∧ r = r' := by
  induction h generalizing states' r' with
  | last hmove =>
    cases h' with
    | last hmove' => exact ⟨rfl, Outcome.ofResult_injective (hmove.symm.trans hmove')⟩
    | next hmove' _ => exact absurd (hmove.symm.trans hmove') (Outcome.ofResult_ne_next _ _ _ _)
  | next hmove _ ih =>
    cases h' with
    | last hmove' => exact absurd (hmove'.symm.trans hmove) (Outcome.ofResult_ne_next _ _ _ _)
    | next hmove' hrest =>
      rw [hmove] at hmove'
      cases hmove'
      obtain ⟨rfl, rfl⟩ := ih hrest
      exact ⟨rfl, rfl⟩

/-! ## The measure -/

/-- From a sound state, a transition ends the reading or follows the machine to a sound state. -/
def Follows (job : Job) (move : State → Outcome) : Prop :=
  ∀ s, s.Sound job → (∃ r, move s = .ofResult r) ∨
    ∃ b s' spans relevance, Wins (offers job.grammar job.text s.config) b ∧
      b.transition ≠ .forbidden ∧ s'.config = s.config.after b ∧ s'.Sound job ∧
      move s = .next spans relevance s'

theorem follows_step (job : Job) : Follows job (step job) := by
  intro s hs
  rcases step_cases hs with ⟨r, -, hstep⟩ | ⟨b, s', -, hw, hne, -, hafter, hs', hstep⟩
  · exact .inl ⟨r, hstep⟩
  · exact .inr ⟨b, s', _, _, hw, hne, hafter, hs', hstep⟩

/-- Two for each octet ahead, and one for each open mode. -/
def State.potential (job : Job) (s : State) : Nat :=
  2 * (size job.text - s.position) + s.stack.above.length

theorem potential_lt_of_move {b : Boundary} (hg : job.grammar.defaultMode.endPattern = none)
    (hs : s.Sound job) (hbottom : s.stack.bottom.mode = 0)
    (hw : Wins (offers job.grammar job.text s.config) b) (hne : b.transition ≠ .forbidden)
    (hafter : s'.config = s.config.after b) (hs' : s'.Sound job) :
    s'.potential job < s.potential job ∧ s'.stack.bottom.mode = 0 := by
  have hmove := succ_le_of_move hg (c := s.config) hbottom hw hne
  rw [← hafter] at hmove
  obtain ⟨hbottom', hle⟩ := hmove
  have hplace : s.position ≤ size job.text := hs.place.le_size
  have hplace' : s'.position ≤ size job.text := hs'.place.le_size
  refine ⟨?_, hbottom'⟩
  unfold State.potential
  simp only [State.config] at hle
  omega

/-- Every run comes to an end. -/
theorem exists_reads (hg : job.grammar.defaultMode.endPattern = none) (hf : Follows job move)
    (hs : s.Sound job) (hbottom : s.stack.bottom.mode = 0) :
    ∃ states r, Reads move s states r := by
  induction hn : s.potential job using Nat.strongRecOn generalizing s with
  | _ n ih =>
    rcases hf s hs with ⟨r, hend⟩ | ⟨b, s', spans, relevance, hw, hne, hafter, hs', hnext⟩
    · exact ⟨[s], r, .last hend⟩
    · obtain ⟨hlt, hbottom'⟩ := potential_lt_of_move hg hs hbottom hw hne hafter hs'
      obtain ⟨states, r, hreads⟩ := ih _ (hn ▸ hlt) hs' hbottom' rfl
      exact ⟨s :: states, _, .next hnext hreads⟩

/-- A run takes at most one transition more than its potential. -/
theorem Reads.length_le (h : Reads move s states r)
    (hg : job.grammar.defaultMode.endPattern = none) (hf : Follows job move)
    (hs : s.Sound job) (hbottom : s.stack.bottom.mode = 0) :
    states.length ≤ s.potential job + 1 := by
  induction h with
  | last => simp
  | @next s s' _ _ states _ hmove _ ih =>
    rcases hf s hs with ⟨r, hend⟩ | ⟨b, t, _, _, hw, hne, hafter, ht, hnext⟩
    · exact absurd (hend.symm.trans hmove) (Outcome.ofResult_ne_next _ _ _ _)
    · rw [hmove] at hnext
      cases hnext
      obtain ⟨hlt, hbottom'⟩ := potential_lt_of_move hg hs hbottom hw hne hafter ht
      have := ih ht hbottom'
      rw [List.length_cons]
      omega

/-! ## Runs with a budget -/

/-- A run with a budget is the run without one, unless that takes more transitions. -/
theorem Reads.run_eq (h : Reads (step job) s states r) (limit budget : Nat) :
    run job limit budget s =
      if budget < states.length then .error (.stepLimitExceeded job.grammar.name limit) else r := by
  induction h generalizing budget with
  | @last s r hend =>
    cases budget with
    | zero => rfl
    | succ budget =>
      rw [if_neg (by simp)]
      simp only [run, hend]
      cases r <;> rfl
  | @next s s' spans relevance states r hnext _ ih =>
    cases budget with
    | zero => rfl
    | succ budget =>
      simp only [run, hnext, ih budget, List.length_cons, Nat.succ_lt_succ_iff]
      split
      · rfl
      · rfl

end Lexer

/-! ## Reading a text -/

namespace Grammar

open Lexer Text

variable {name : String} {d : GrammarDefinition} {g : Grammar} {text : String}
  {options : LexOptions} {states : List State} {r : Except LexError LexOutput}

/-- An output with the relevance of the default mode, which is open from the start. -/
def withDefault (g : Grammar) (out : LexOutput) : LexOutput :=
  out.after [] g.defaultMode.relevance

theorem length_le_maxSteps (hg : g.defaultMode.endPattern = none) {move : State → Outcome}
    (hf : Follows (g.job text options) move) (h : Reads move {} states r) :
    states.length ≤ maxSteps (size text.toList) :=
  h.length_le hg hf (sound_start _) rfl

/-- Reading gives the result of the run without a budget, unless that takes more transitions than
are allowed. -/
theorem lex_eq_of_reads (hg : g.defaultMode.endPattern = none)
    (h : Reads (step (g.job text options)) {} states r) :
    g.lex text options =
      if options.stepLimitFor text < states.length then
        .error (.stepLimitExceeded g.name (options.stepLimitFor text))
      else r.map g.withDefault := by
  have hlen := length_le_maxSteps hg (follows_step _) h
  have hrun := h.run_eq (options.stepLimitFor text)
    (Nat.min (options.stepLimitFor text) (maxSteps (size text.toList)))
  have hbudget : Nat.min (options.stepLimitFor text) (maxSteps (size text.toList)) < states.length ↔
      options.stepLimitFor text < states.length := by
    show min (options.stepLimitFor text) (maxSteps (size text.toList)) < states.length ↔ _
    omega
  simp only [hbudget] at hrun
  refine (congrArg (Except.map _) hrun).trans ?_
  split
  · rfl
  · rfl

theorem stepLimitFor_of_none (hnone : options.stepLimit = none) (text : String) :
    options.stepLimitFor text = 2 * size text.toList + 1 := by
  rw [LexOptions.stepLimitFor, hnone]
  rfl

/-- The default budget lets every run come to its end. -/
theorem lex_eq_map_of_reads (hg : g.defaultMode.endPattern = none)
    (hnone : options.stepLimit = none) (h : Reads (step (g.job text options)) {} states r) :
    g.lex text options = r.map g.withDefault := by
  have hlen : states.length ≤ 2 * size text.toList + 1 :=
    length_le_maxSteps hg (follows_step _) h
  rw [lex_eq_of_reads hg h, stepLimitFor_of_none hnone, if_neg (by omega)]

theorem lex_ne_stepLimitExceeded (hg : g.defaultMode.endPattern = none)
    (hnone : options.stepLimit = none) (language : String) (limit : Nat) :
    g.lex text options ≠ .error (.stepLimitExceeded language limit) := by
  intro h
  obtain ⟨c, hpath, -, ⟨hlen, -⟩ | ⟨-, r, hstop, hlex⟩⟩ := lex_spec g text options
  · have hle := length_le_of_path hg hpath
    have hmin : Nat.min (2 * size text.toList + 1) (maxSteps (size text.toList)) =
        2 * size text.toList + 1 := Nat.min_self _
    rw [stepLimitFor_of_none hnone, hmin] at hlen
    omega
  · rw [hlex] at h
    cases hstop <;> cases h

/-- **The default budget is always enough.** Without a limit of its own, however deeply modes may be
nested, a run comes to an end after at most twice as many transitions as the text has octets, and
one. Its result is what reading gives, and never that the budget is used up. The budget of a text of
less than 2^63 octets fits into 64 bits. -/
theorem lex_within_budget (h : compile name d = .ok g) (text : String) {options : LexOptions}
    (hnone : options.stepLimit = none) :
    (∃ states r, Reads (step (g.job text options)) {} states r) ∧
      (∀ states r, Reads (step (g.job text options)) {} states r →
        states.length ≤ 2 * size text.toList + 1 ∧
          g.lex text options = r.map g.withDefault) ∧
      (∀ language limit, g.lex text options ≠ .error (.stepLimitExceeded language limit)) ∧
      (size text.toList < 2 ^ 63 → options.stepLimitFor text < 2 ^ 64) := by
  have hg := (bare_of_compile h).2
  have hlimit := stepLimitFor_of_none hnone text
  refine ⟨exists_reads hg (follows_step _) (sound_start _) rfl, ?_,
    lex_ne_stepLimitExceeded hg hnone, by omega⟩
  intro states r hreads
  exact ⟨length_le_maxSteps hg (follows_step _) hreads, lex_eq_map_of_reads hg hnone hreads⟩

/-- Every small letter opens a mode that is closed at once. -/
def letters : GrammarDefinition where
  name := "letters"
  defaultMode := ({} : ModeDefinition).containing ["letter"]
  modes := [ModeDefinition.bounded "letter" "[a-z]" "^"]

/-- The budget is used to the last transition where every octet opens a mode. -/
theorem lex_within_budget_letters :
    ∃ g states r, compile "letters" letters = .ok g ∧
      Reads (step (g.job "ab" {})) {} states r ∧ states.length = 2 * 2 + 1 ∧
      g.lex "ab" {} = r.map g.withDefault ∧
      g.lex "ab" {} =
        .ok { spans := [⟨"letter", "a", 0⟩, ⟨"letter", "b", 1⟩], relevance := 3 } := by
  have hrun : ((compile "letters" letters).toOption.map fun g =>
      (g.lex "ab" {}, g.lex "ab" { stepLimit := some 4 })) =
        some (.ok { spans := [⟨"letter", "a", 0⟩, ⟨"letter", "b", 1⟩], relevance := 3 },
          .error (.stepLimitExceeded "letters" 4)) := by
    decide +kernel
  obtain ⟨g, hg, hlex⟩ := Option.map_eq_some_iff.1 hrun
  obtain ⟨hlex, hshort⟩ := Prod.mk.inj hlex
  rw [Except.toOption_eq_some_iff] at hg
  have hnone : ({} : LexOptions).stepLimit = none := rfl
  obtain ⟨⟨states, r, hreads⟩, hspec, -⟩ := lex_within_budget hg "ab" hnone
  obtain ⟨hlen, heq⟩ := hspec states r hreads
  have hlong : 4 < states.length := by
    have hlex' : g.lex "ab" { stepLimit := some 4 } = _ :=
      lex_eq_of_reads (bare_of_compile hg).2 hreads
    by_contra hle
    rw [← heq, hlex, hshort] at hlex'
    have hlimit : ({ stepLimit := some 4 } : LexOptions).stepLimitFor "ab" = 4 := rfl
    rw [hlimit, if_neg hle] at hlex'
    cases hlex'
  have hsize : size "ab".toList = 2 := by decide
  exact ⟨g, states, r, hg, hreads, by omega, heq, hlex⟩

end Grammar

end Tint
