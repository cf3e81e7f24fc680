import Tint.Proofs.Json.Definition
import Tint.Proofs.Openings
import Mathlib.Algebra.Order.BigOperators.Group.List
import Mathlib.Algebra.Ring.Int.Defs

/-!
# What a text weighs

**Sum (`relevance_of_lex_eq_ok`).** The relevance of a text is that of the default mode and that of
every mode each time it is opened on the way. Nothing else adds to it.

**Bound (`relevance_defaultMode_le`).** So where no mode weighs less than nothing, a text that is
read to its end weighs as much as the default mode, at least.

**Number (`length_openings_le`).** The matches that open modes are not empty and lie one behind the
other, however the modes are nested. So there are no more of them than octets.

**Theorem (`relevance_counts_openings`).** With relevances of 32 bits, a text of less than `2 ^ 32`
octets is weighed in 64 bits: whatever has been summed up at any point of a run (`Gives`) lies
between `-2 ^ 63` and `2 ^ 63`. There is no room to spare. With `2 ^ 32 - 1` modes opened and the
default mode, all of them at `-2 ^ 31`, the sum is `-2 ^ 63`.
-/

namespace Tint

namespace Lexer

theorem relevance_along (job : Job) (c : Config) (bs : List Boundary) (out : LexOutput) :
    (along job c bs out).relevance =
      (bs.map (Boundary.relevance job.grammar)).sum + out.relevance := by
  induction bs generalizing c with
  | nil => simp [along]
  | cons b bs ih =>
    rw [List.map_cons, List.sum_cons, add_assoc, ← ih (c.after b)]
    rfl

theorem relevance_nonneg {g : Grammar} (h : ∀ i, 0 ≤ (g.mode i).relevance) (b : Boundary) :
    0 ≤ b.relevance g := by
  obtain ⟨t, f⟩ := b
  cases t with
  | forbidden => exact le_refl 0
  | close => exact le_refl 0
  | enter child => exact h child

/-- What the modes weigh that are opened. -/
def weight (g : Grammar) (os : List Opening) : Int :=
  (os.map fun o => (g.mode o.mode).relevance).sum

/-- The boundaries add what the modes weigh that they open. -/
theorem sum_relevance (g : Grammar) (bs : List Boundary) :
    (bs.map (Boundary.relevance g)).sum = weight g (openings bs) := by
  induction bs with
  | nil => rfl
  | cons b bs ih =>
    rw [List.map_cons, List.sum_cons, ih, openings_cons]
    obtain ⟨t, f⟩ := b
    cases t with
    | forbidden => exact zero_add _
    | close => exact zero_add _
    | enter child => rfl

/-! ## The number of openings -/

/-- Matches that lie one behind the other in a stretch of the text, none of them empty, are no more
than it has octets. -/
theorem length_openings_le {g : Grammar} {text : List Char} {os : List Opening} {start stop : Nat}
    (hsound : ∀ o ∈ os, o.Sound g text start stop)
    (hpairs : os.Pairwise fun o o' => o.token.stop ≤ o'.token.start) (hle : start ≤ stop) :
    start + os.length ≤ stop := by
  induction os generalizing start with
  | nil => exact hle
  | cons o os ih =>
    obtain ⟨ho, hos⟩ := List.forall_mem_cons.1 hsound
    obtain ⟨hbehind, hpairs⟩ := List.pairwise_cons.1 hpairs
    -- the others lie in what is left of the stretch behind this match
    have hrest : ∀ o' ∈ os, o'.Sound g text o.token.stop stop := fun o' ho' =>
      { hos o' ho' with start_le := hbehind o' ho' }
    have hlength := ih hrest hpairs ho.le_stop
    have hstart := ho.start_le
    have hlt := ho.lt
    rw [List.length_cons]
    omega

theorem Path.length_openings_le {g : Grammar} {text : List Char} {bs : List Boundary} {c : Config}
    (h : Path g text {} bs c) : (openings bs).length ≤ Text.size text := by
  obtain ⟨hsound, hpairs⟩ := h.openings_spec
  have hlength := Lexer.length_openings_le hsound hpairs h.position_le
  have hend := (h.isPlace (Text.isPlace_zero text)).le_size
  have hstart : ({} : Config).position = 0 := rfl
  omega

/-! ## The sum on the way -/

/-- What has been summed up so far is the relevance of the default mode and of every mode opened on
the way. -/
theorem gives_spec {job : Job} {s : State} {spans : List Span} {relevance : Int}
    (h : Gives job s spans relevance) :
    s.Sound job ∧ ∃ bs, Path job.grammar job.text {} bs s.config ∧
      relevance = job.grammar.defaultMode.relevance + weight job.grammar (openings bs) := by
  induction h with
  | start => exact ⟨sound_start job, [], .nil _, (add_zero _).symm⟩
  | next _ hstep ih =>
    obtain ⟨hs, bs, hpath, rfl⟩ := ih
    rcases step_cases hs with ⟨r, -, hend⟩ | ⟨b, s', -, hw, hne, -, hafter, hs', hnext⟩
    · rw [hstep] at hend
      cases r <;> cases hend
    · rw [hstep] at hnext
      cases hnext
      refine ⟨hs', bs ++ [b], hpath.concat hw hne hafter, ?_⟩
      rw [← sum_relevance, ← sum_relevance, List.map_append, List.sum_append, List.map_singleton,
        List.sum_singleton, add_assoc]

theorem gives_of_run {job : Job} {s : State} {spans : List Span} {relevance : Int}
    (h : Gives job s spans relevance) {limit budget : Nat} {out : LexOutput}
    (hrun : run job limit budget s = .ok out) :
    ∃ s' spans' last, Gives job s' spans' (relevance + out.relevance) ∧
      step job s' = .done last := by
  induction budget generalizing s spans relevance out with
  | zero => cases hrun
  | succ budget ih =>
    rw [run] at hrun
    rcases step_cases (gives_spec h).1 with ⟨r, hstop, hstep⟩ | ⟨b, s', -, -, -, -, -, -, hstep⟩
    · rw [hstep] at hrun
      cases hstop with
      | forbidden => cases hrun
      | tooDeep => cases hrun
      | done =>
        cases hrun
        exact ⟨s, spans, _, (add_zero relevance).symm ▸ h, hstep⟩
    · rw [hstep] at hrun
      dsimp only at hrun
      cases hlater : run job limit budget s' with
      | error e =>
        rw [hlater] at hrun
        cases hrun
      | ok later =>
        rw [hlater] at hrun
        cases hrun
        have hgives := ih (h.next hstep) hlater
        rwa [add_assoc] at hgives

end Lexer

namespace Grammar

open Lexer

variable {g : Grammar} {text : String} {options : LexOptions} {out : LexOutput}

/-- The relevance of a text is the sum of what the default mode and the boundaries weigh. -/
theorem relevance_of_lex_eq_ok (h : g.lex text options = .ok out) :
    out.relevance = g.defaultMode.relevance +
      ((g.trace text options).map (Boundary.relevance g)).sum := by
  obtain ⟨c, -, -, rfl⟩ := path_of_lex_eq_ok h
  dsimp only
  rw [relevance_along]
  exact congrArg (g.defaultMode.relevance + ·) (add_zero _)

theorem relevance_defaultMode_le (hmodes : ∀ i, 0 ≤ (g.mode i).relevance)
    (h : g.lex text options = .ok out) : g.defaultMode.relevance ≤ out.relevance := by
  have hsum : 0 ≤ ((g.trace text options).map (Boundary.relevance g)).sum := by
    refine List.sum_nonneg fun n hn => ?_
    obtain ⟨b, -, rfl⟩ := List.mem_map.1 hn
    exact relevance_nonneg hmodes b
  rw [relevance_of_lex_eq_ok h]
  omega

/-! ## The range of the sum -/

variable {name : String} {d : GrammarDefinition}

theorem fitsRelevance_mode (hg : compile name d = .ok g) (hd : d.FitsRelevance) (i : Nat) :
    -2 ^ 31 ≤ (g.mode i).relevance ∧ (g.mode i).relevance < 2 ^ 31 := by
  obtain ⟨m, hm, _, _, hinner⟩ := exists_inner_of_compile hg i
  obtain ⟨hmin, hmax⟩ := hd m hm
  rw [Document.minRelevance] at hmin
  rw [Document.maxRelevance] at hmax
  rw [hinner.relevance]
  omega

theorem weight_bounds (hg : compile name d = .ok g) (hd : d.FitsRelevance) (os : List Opening) :
    -2 ^ 31 * os.length ≤ weight g os ∧ weight g os ≤ (2 ^ 31 - 1) * os.length := by
  have hmin := List.card_nsmul_le_sum (os.map fun o => (g.mode o.mode).relevance) (-2 ^ 31)
    (List.forall_mem_map.2 fun o _ => (fitsRelevance_mode hg hd o.mode).1)
  have hmax := List.sum_le_card_nsmul (os.map fun o => (g.mode o.mode).relevance) (2 ^ 31 - 1)
    (List.forall_mem_map.2 fun o _ => Int.le_sub_one_of_lt (fitsRelevance_mode hg hd o.mode).2)
  rw [List.length_map, nsmul_eq_mul, mul_comm] at hmin hmax
  exact ⟨hmin, hmax⟩

/-- Whatever has been summed up on the way fits into 64 bits. -/
theorem fits_of_gives (hg : compile name d = .ok g) (hd : d.FitsRelevance)
    (hsize : Text.size text.toList < 2 ^ 32) {s : State} {spans : List Span} {relevance : Int}
    (h : Gives (g.job text options) s spans relevance) :
    -2 ^ 63 ≤ relevance ∧ relevance < 2 ^ 63 := by
  obtain ⟨-, bs, hpath, rfl⟩ := gives_spec h
  have hlength : (Lexer.openings bs).length ≤ Text.size text.toList := hpath.length_openings_le
  obtain ⟨hmin, hmax⟩ := weight_bounds hg hd (Lexer.openings bs)
  obtain ⟨hdefaultMin, hdefaultMax⟩ : -2 ^ 31 ≤ g.defaultMode.relevance ∧
    g.defaultMode.relevance < 2 ^ 31 := fitsRelevance_mode hg hd 0
  show -2 ^ 63 ≤ g.defaultMode.relevance + weight g (Lexer.openings bs) ∧
    g.defaultMode.relevance + weight g (Lexer.openings bs) < 2 ^ 63
  omega

theorem length_openings_le_size (g : Grammar) (text : String) (options : LexOptions) :
    (g.openings text options).length ≤ Text.size text.toList := by
  obtain ⟨c, hpath, -⟩ := lex_spec g text options
  exact hpath.length_openings_le

theorem gives_of_lex (h : g.lex text options = .ok out) :
    ∃ s spans last, Gives (g.job text options) s spans out.relevance ∧
      step (g.job text options) s = .done last := by
  have hmap : (run (g.job text options) (options.stepLimitFor text)
      (Nat.min (options.stepLimitFor text) (maxSteps (Text.size text.toList))) {}).map
        (fun last => { last with relevance := g.defaultMode.relevance + last.relevance }) =
      .ok out := h
  cases hrun : run (g.job text options) (options.stepLimitFor text)
      (Nat.min (options.stepLimitFor text) (maxSteps (Text.size text.toList))) {} with
  | error e =>
    rw [hrun] at hmap
    cases hmap
  | ok last =>
    rw [hrun] at hmap
    cases hmap
    exact gives_of_run .start hrun

/-- **Relevance.** If reading succeeds, the relevance of the text is that of the default mode and
that of every mode each time it is opened; and this is what has been summed up where reading ends.
The matches that open modes are not empty and do not overlap, so there are no more of them than
octets. In a text that is not too long, with relevances of 32 bits, whatever is summed up on the way
fits into 64 bits, whether reading succeeds or not. -/
theorem relevance_counts_openings (hg : compile name d = .ok g) (hd : d.FitsRelevance)
    (text : String) (options : LexOptions) :
    (∀ out, g.lex text options = .ok out →
        out.relevance = g.defaultMode.relevance +
            ((g.openings text options).map fun o => (g.mode o.mode).relevance).sum ∧
          ∃ s spans last, Gives (g.job text options) s spans out.relevance ∧
            step (g.job text options) s = .done last) ∧
      (∀ o ∈ g.openings text options, o.Sound g text.toList 0 (Text.size text.toList)) ∧
      (g.openings text options).Pairwise (fun o o' => o.token.stop ≤ o'.token.start) ∧
      (g.openings text options).length ≤ Text.size text.toList ∧
      (Text.size text.toList < 2 ^ 32 → ∀ s spans relevance,
        Gives (g.job text options) s spans relevance →
          -2 ^ 63 ≤ relevance ∧ relevance < 2 ^ 63) := by
  obtain ⟨hsound, hpairs⟩ := openings_spec g text options
  refine ⟨fun out h => ⟨?_, ?_⟩, hsound, hpairs, length_openings_le_size g text options,
    fun hsize _ _ _ hgives => fits_of_gives hg hd hsize hgives⟩
  · rw [relevance_of_lex_eq_ok h, sum_relevance]
    rfl
  · exact gives_of_lex h

/-- A block is opened within a block and one behind it. -/
theorem relevance_counts_openings_blocks :
    ∃ g out, compile "blocks" blocks = .ok g ∧ blocks.FitsRelevance ∧
      g.lex "é\x7b\x7b\x7d\x7d\x7b" {} = .ok out ∧
      g.openings "é\x7b\x7b\x7d\x7d\x7b" {} = [⟨1, ⟨2, 3⟩⟩, ⟨1, ⟨3, 4⟩⟩, ⟨1, ⟨6, 7⟩⟩] ∧
      out.relevance = 4 ∧
      ∀ s spans relevance, Gives (g.job "é\x7b\x7b\x7d\x7d\x7b" {}) s spans relevance →
        -2 ^ 63 ≤ relevance ∧ relevance < 2 ^ 63 := by
  have hrun : ((compile "blocks" blocks).toOption.bind fun g =>
      (g.lex "é\x7b\x7b\x7d\x7d\x7b" {}).toOption.map fun out =>
        (g.openings "é\x7b\x7b\x7d\x7d\x7b" {}, out.relevance)) =
      some ([⟨1, ⟨2, 3⟩⟩, ⟨1, ⟨3, 4⟩⟩, ⟨1, ⟨6, 7⟩⟩], 4) := by
    decide +kernel
  obtain ⟨g, hg, hlex⟩ := Option.bind_eq_some_iff.1 hrun
  obtain ⟨out, hout, hvalues⟩ := Option.map_eq_some_iff.1 hlex
  rw [Except.toOption_eq_some_iff] at hg hout
  simp only [Prod.mk.injEq] at hvalues
  obtain ⟨hopenings, hrelevance⟩ := hvalues
  have hfits : blocks.FitsRelevance := by decide
  obtain ⟨-, -, -, -, hrange⟩ :=
    relevance_counts_openings hg hfits "é\x7b\x7b\x7d\x7d\x7b" {}
  exact ⟨g, out, hg, hfits, hout, hopenings, hrelevance, hrange (by decide)⟩

end Grammar

end Tint
