import Tint.Proofs.Ending

/-!
# Limits cut a run short and change nothing else

`freeStep` is a transition without a limit on the depth, and a run of free transitions (`Reads
freeStep`) has no limits at all. A run with limits is this run as far as the limits let it go.

**Transition (`step_eq_freeStep`).** A transition with a limit on the depth is the free one, unless
it would open one mode too many (`tooDeepAt?`).

**Run (`Reads.run_guarded`).** The number of transitions is looked at before each of them, the depth
within it. So a transition beyond the budget is never asked how deep it goes, and one within the
budget that goes too deep ends the run before the budget does.

**Theorem (`lex_guarded`).** Every pair of limits gives the result of the run without limits, cut at
the first transition that one of them forbids. Raising the limits keeps what was not cut.
-/

namespace Tint

namespace Lexer

open Text

variable {job : Job} {s : State} {states : List State} {r : Except LexError LexOutput}
  {depth depth' : Nat}

/-! ## One transition -/

/-- A transition, however many modes are open. -/
def freeStep (job : Job) (s : State) : Outcome :=
  step { job with maxDepth := s.stack.depth + 1 } s

/-- Where the match starts that would open a mode although `depth` modes are open. -/
def tooDeepAt? (job : Job) (depth : Nat) (s : State) : Option Nat :=
  match (s.boundary job).1 with
  | some ⟨.enter _, f⟩ => if depth ≤ s.stack.depth then some f.start else none
  | _ => none

/-- A limit on the depth does nothing to a transition but to forbid it. -/
theorem step_eq_freeStep (job : Job) (depth : Nat) (s : State) :
    step { job with maxDepth := depth } s =
      match tooDeepAt? job depth s with
      | some place => .fail (.nestingTooDeep job.grammar.name depth place)
      | none => freeStep job s := by
  have hsame : ∀ n, s.boundary { job with maxDepth := n } = s.boundary job := fun _ => rfl
  simp only [step, freeStep, tooDeepAt?, hsame]
  cases (s.boundary job).1 with
  | none => rfl
  | some b =>
    obtain ⟨t, f⟩ := b
    cases t with
    | forbidden => rfl
    | close => rfl
    | enter child =>
      have hfree : ¬ s.stack.depth + 1 ≤ s.stack.depth := by omega
      by_cases hdepth : depth ≤ s.stack.depth
      · simp only [if_pos hdepth]
      · simp only [if_neg hdepth, if_neg hfree]
        rfl

/-- A free transition follows the machine, since its limit is never met. -/
theorem follows_freeStep (job : Job) : Follows job (freeStep job) := by
  intro s hs
  have hs' : s.Sound { job with maxDepth := s.stack.depth + 1 } := ⟨hs.place, hs.memo⟩
  rcases follows_step { job with maxDepth := s.stack.depth + 1 } s hs' with
    hend | ⟨b, t, spans, relevance, hw, hne, hafter, ht, hnext⟩
  · exact .inl hend
  · exact .inr ⟨b, t, spans, relevance, hw, hne, hafter, ⟨ht.place, ht.memo⟩, hnext⟩

theorem tooDeepAt?_eq_none_of_le (hle : depth ≤ depth') (h : tooDeepAt? job depth s = none) :
    tooDeepAt? job depth' s = none := by
  unfold tooDeepAt? at h ⊢
  split
  · next f heq =>
    simp only [heq] at h
    split at h
    · cases h
    · next hdepth => exact if_neg fun hdepth' => hdepth (Nat.le_trans hle hdepth')
  · rfl

/-! ## Runs -/

/-- A run with limits is the run without limits up to the first transition within the budget that
would open one mode too many, and if there is none, up to the end of the budget. -/
theorem Reads.run_guarded (h : Reads (freeStep job) s states r) (depth limit budget : Nat) :
    run { job with maxDepth := depth } limit budget s =
      match (states.take budget).findSome? (tooDeepAt? job depth) with
      | some place => .error (.nestingTooDeep job.grammar.name depth place)
      | none =>
        if budget < states.length then .error (.stepLimitExceeded job.grammar.name limit)
        else r := by
  induction h generalizing budget with
  | @last s r hend =>
    cases budget with
    | zero => rfl
    | succ budget =>
      have hstep := step_eq_freeStep job depth s
      rw [List.take_succ_cons, List.take_nil, List.findSome?_singleton]
      cases hdeep : tooDeepAt? job depth s with
      | some place =>
        simp only [hdeep] at hstep
        simp only [run, hstep]
      | none =>
        simp only [hdeep, hend] at hstep
        rw [if_neg (by simp)]
        simp only [run, hstep]
        cases r <;> rfl
  | @next s s' spans relevance states r hnext _ ih =>
    cases budget with
    | zero => rfl
    | succ budget =>
      have hstep := step_eq_freeStep job depth s
      rw [List.take_succ_cons, List.findSome?_cons, List.length_cons]
      cases hdeep : tooDeepAt? job depth s with
      | some place =>
        simp only [hdeep] at hstep
        simp only [run, hstep]
      | none =>
        simp only [hdeep, hnext] at hstep
        simp only [run, hstep, ih budget, Nat.succ_lt_succ_iff]
        cases (states.take budget).findSome? (tooDeepAt? job depth) with
        | some place => rfl
        | none =>
          dsimp only
          split
          · rfl
          · rfl

end Lexer

/-! ## Reading a text -/

namespace Grammar

open Lexer Text

variable {name : String} {d : GrammarDefinition} {g : Grammar} {text : String}
  {states : List State} {r : Except LexError LexOutput}

/-- The run without limits. -/
abbrev ReadsFreely (g : Grammar) (text : String) : List State → Except LexError LexOutput → Prop :=
  Reads (freeStep (g.job text {})) {}

theorem lex_eq_of_readsFreely (hg : g.defaultMode.endPattern = none)
    (h : g.ReadsFreely text states r) (options : LexOptions) :
    g.lex text options =
      match (states.take (options.stepLimitFor text)).findSome?
          (tooDeepAt? (g.job text {}) options.maxDepth) with
      | some place => .error (.nestingTooDeep g.name options.maxDepth place)
      | none =>
        if options.stepLimitFor text < states.length then
          .error (.stepLimitExceeded g.name (options.stepLimitFor text))
        else r.map g.withDefault := by
  have hlen := length_le_maxSteps hg (follows_freeStep _) h
  -- A budget beyond the most transitions that a run takes makes no difference.
  have hbudget : ∀ limit,
      states.take (Nat.min limit (maxSteps (size text.toList))) = states.take limit ∧
        (Nat.min limit (maxSteps (size text.toList)) < states.length ↔ limit < states.length) := by
    intro limit
    rcases Nat.le_total limit (maxSteps (size text.toList)) with hle | hle
    · have hmin : Nat.min limit (maxSteps (size text.toList)) = limit := Nat.min_eq_left hle
      rw [hmin]
      exact ⟨rfl, Iff.rfl⟩
    · have hmin : Nat.min limit (maxSteps (size text.toList)) = maxSteps (size text.toList) :=
        Nat.min_eq_right hle
      rw [hmin, List.take_of_length_le hlen, List.take_of_length_le (Nat.le_trans hlen hle)]
      exact ⟨rfl, by omega⟩
  obtain ⟨htake, hlt⟩ := hbudget (options.stepLimitFor text)
  have hrun := h.run_guarded options.maxDepth (options.stepLimitFor text)
    (Nat.min (options.stepLimitFor text) (maxSteps (size text.toList)))
  rw [htake] at hrun
  simp only [hlt] at hrun
  refine (congrArg (Except.map _) hrun).trans ?_
  cases (states.take (options.stepLimitFor text)).findSome?
      (tooDeepAt? (g.job text {}) options.maxDepth) with
  | some place => rfl
  | none =>
    dsimp only
    split
    · rfl
    · rfl

/-- A result that no limit has cut short is that of the run without limits. -/
theorem uncut_of_readsFreely (hg : g.defaultMode.endPattern = none)
    (h : g.ReadsFreely text states r) {options : LexOptions}
    (hdeep : ∀ place, g.lex text options ≠ .error (.nestingTooDeep g.name options.maxDepth place))
    (hlong : g.lex text options ≠
      .error (.stepLimitExceeded g.name (options.stepLimitFor text))) :
    (∀ s ∈ states, tooDeepAt? (g.job text {}) options.maxDepth s = none) ∧
      states.length ≤ options.stepLimitFor text ∧ g.lex text options = r.map g.withDefault := by
  have hlex := lex_eq_of_readsFreely hg h options
  split at hlex
  · exact absurd hlex (hdeep _)
  · next hnone =>
    split at hlex
    · exact absurd hlex hlong
    · next hlen =>
      have hle : states.length ≤ options.stepLimitFor text := by omega
      rw [List.take_of_length_le hle] at hnone
      exact ⟨List.findSome?_eq_none_iff.1 hnone, hle, hlex⟩

/-- **Limits cut a run short and change nothing else.** There is one run without limits. With limits
reading fails at the first transition within the budget that opens a mode although as many modes are
open as may be, and names the place of the match; if there is none and the run takes more
transitions than allowed, that is the error; and otherwise the result is that of the run without
limits. So a result other than these two errors stays the same when the limits are raised. -/
theorem lex_guarded (h : compile name d = .ok g) (text : String) :
    (∃ states r, g.ReadsFreely text states r) ∧
      (∀ states r, g.ReadsFreely text states r → ∀ options : LexOptions,
        g.lex text options =
          match (states.take (options.stepLimitFor text)).findSome?
              (tooDeepAt? (g.job text {}) options.maxDepth) with
          | some place => .error (.nestingTooDeep g.name options.maxDepth place)
          | none =>
            if options.stepLimitFor text < states.length then
              .error (.stepLimitExceeded g.name (options.stepLimitFor text))
            else r.map g.withDefault) ∧
      ∀ options options' : LexOptions,
        options.stepLimitFor text ≤ options'.stepLimitFor text →
        options.maxDepth ≤ options'.maxDepth →
        (∀ place, g.lex text options ≠
          .error (.nestingTooDeep g.name options.maxDepth place)) →
        g.lex text options ≠ .error (.stepLimitExceeded g.name (options.stepLimitFor text)) →
        g.lex text options' = g.lex text options := by
  have hg := (bare_of_compile h).2
  have hex := exists_reads hg (follows_freeStep (g.job text {})) (sound_start _) rfl
  refine ⟨hex, fun states r => lex_eq_of_readsFreely hg, ?_⟩
  intro options options' hlimit hdepth hdeep hlong
  obtain ⟨states, r, hreads⟩ := hex
  obtain ⟨hnone, hlen, hlex⟩ := uncut_of_readsFreely hg hreads hdeep hlong
  have hnone' : (states.take (options'.stepLimitFor text)).findSome?
      (tooDeepAt? (g.job text {}) options'.maxDepth) = none := by
    refine List.findSome?_eq_none_iff.2 fun s hs => ?_
    exact tooDeepAt?_eq_none_of_le hdepth (hnone s (List.mem_of_mem_take hs))
  rw [lex_eq_of_readsFreely hg hreads options', hnone', hlex]
  exact if_neg (by omega)

/-- Two blocks are opened and one is closed, in four transitions. The second opening is the second
transition: a budget of one ends before it, a depth of two does not allow it. -/
theorem lex_guarded_blocks :
    ∃ g states r, compile "blocks" blocks = .ok g ∧
      g.ReadsFreely "\x7b\x7b\x7d" states r ∧ states.length = 4 ∧
      g.lex "\x7b\x7b\x7d" { stepLimit := some 1, maxDepth := 2 } =
        .error (.stepLimitExceeded "blocks" 1) ∧
      g.lex "\x7b\x7b\x7d" { stepLimit := some 2, maxDepth := 2 } =
        .error (.nestingTooDeep "blocks" 2 1) ∧
      g.lex "\x7b\x7b\x7d" { stepLimit := some 4, maxDepth := 3 } = r.map g.withDefault ∧
      g.lex "\x7b\x7b\x7d" {} = r.map g.withDefault := by
  have hrun : ((compile "blocks" blocks).toOption.map fun g =>
      (g.lex "\x7b\x7b\x7d" { stepLimit := some 1, maxDepth := 2 },
        g.lex "\x7b\x7b\x7d" { stepLimit := some 2, maxDepth := 2 },
        g.lex "\x7b\x7b\x7d" { stepLimit := some 3, maxDepth := 3 },
        (g.lex "\x7b\x7b\x7d" { stepLimit := some 4, maxDepth := 3 }).toOption.isSome)) =
      some (.error (.stepLimitExceeded "blocks" 1), .error (.nestingTooDeep "blocks" 2 1),
        .error (.stepLimitExceeded "blocks" 3), true) := by
    decide +kernel
  obtain ⟨g, hg, hruns⟩ := Option.map_eq_some_iff.1 hrun
  simp only [Prod.mk.injEq] at hruns
  obtain ⟨hone, htwo, hthree, hfour⟩ := hruns
  obtain ⟨out, hout⟩ := Option.isSome_iff_exists.1 hfour
  rw [Except.toOption_eq_some_iff] at hg hout
  obtain ⟨⟨states, r, hreads⟩, hspec, hraise⟩ := lex_guarded hg "\x7b\x7b\x7d"
  have hspec := hspec states r hreads
  have hnotDeep : ∀ place, g.lex "\x7b\x7b\x7d" { stepLimit := some 4, maxDepth := 3 } ≠
      .error (.nestingTooDeep g.name 3 place) := fun place h => by
    rw [hout] at h
    cases h
  have hnotLong : g.lex "\x7b\x7b\x7d" { stepLimit := some 4, maxDepth := 3 } ≠
      .error (.stepLimitExceeded g.name 4) := fun h => by
    rw [hout] at h
    cases h
  obtain ⟨-, hlen, hresult⟩ :=
    uncut_of_readsFreely (bare_of_compile hg).2 hreads hnotDeep hnotLong
  have hlen : states.length ≤ 4 := hlen
  have hlong : 3 < states.length := by
    have hlex := hspec { stepLimit := some 3, maxDepth := 3 }
    rw [hthree] at hlex
    split at hlex
    · cases hlex
    · split at hlex
      · next hlt => exact hlt
      · rw [← hresult, hout] at hlex
        cases hlex
  have hdefault := hraise { stepLimit := some 4, maxDepth := 3 } {} (by decide) (by decide)
    hnotDeep hnotLong
  exact ⟨g, states, r, hg, hreads, by omega, hone, htwo, hresult, hdefault.trans hresult⟩

end Grammar

end Tint
