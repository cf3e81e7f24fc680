import Tint.Proofs.Case.Alike

/-!
# Expressions that ignore case

An expression that ignores case, and of which no part stops ignoring it (`Expr.keepsCase`), means a
term that does not tell the cases of an ASCII letter apart (`Term.Caseless`).

**Normal forms.** Putting terms together joins literals, takes unions of sets and brings out common
starts. A literal of a term is caseless when each of its characters is alike to itself only; then
it stays so next to another, and as a member of a union.

**Theorem (`caseless_of_term?`).** Under a flag that ignores case every set in an expression is made
caseless before it is negated, and every letter stands for the set of its cases. The flag holds to
the end of the expression, by induction over its parts from left to right.
-/

namespace Tint.Regex

/-! ## Expressions -/

/-- Whether a change of flags does not stop ignoring case. -/
def FlagChange.keepsCase (change : FlagChange) : Bool := change.get? .ignoreCase != some false

mutual

/-- Whether no part of an expression stops ignoring case. -/
def Expr.keepsCase : Expr → Bool
  | .setFlags change => change.keepsCase
  | .group change body => change.keepsCase && body.keepsCase
  | .repeated _ _ _ body => body.keepsCase
  | .capture _ body => body.keepsCase
  | .concat items => Expr.keepsCaseAll items
  | .alternation items => Expr.keepsCaseAll items
  | _ => true

def Expr.keepsCaseAll : List Expr → Bool
  | [] => true
  | e :: es => e.keepsCase && Expr.keepsCaseAll es

end

theorem Flags.ignoreCase_update {flags : Flags} {change : FlagChange}
    (h : flags.ignoreCase = true) (hchange : change.keepsCase = true) :
    (flags.update change).ignoreCase = true := by
  unfold FlagChange.keepsCase at hchange
  show (change.get? .ignoreCase).getD flags.ignoreCase = true
  cases hget : change.get? .ignoreCase with
  | none => exact h
  | some on =>
    rw [hget] at hchange
    cases on with
    | true => rfl
    | false => cases hchange

/-! ## Terms -/

/-- No part of the term tells the cases of an ASCII letter apart. -/
inductive Term.Caseless : Term → Prop
  | empty : Caseless .empty
  | literal {cs : List Char} : (∀ c ∈ cs, (CharSet.singleton c).Caseless) → Caseless (.literal cs)
  | set {s : CharSet} : s.Caseless → Caseless (.set s)
  | look (a : Look) : Caseless (.look a)
  | repeated {min : Nat} {max : Option Nat} {greedy : Bool} {body : Term} :
      Caseless body → Caseless (.repeated min max greedy body)
  | capture {index : Nat} {body : Term} : Caseless body → Caseless (.capture index body)
  | sequence {parts : List Term} : (∀ t ∈ parts, Caseless t) → Caseless (.sequence parts)
  | alternatives {parts : List Term} : (∀ t ∈ parts, Caseless t) → Caseless (.alternatives parts)

namespace Term

variable {t : Term} {ts : List Term}

theorem caseless_literal_singleton {c : Char} :
    (Term.literal [c]).Caseless ↔ (CharSet.singleton c).Caseless := by
  constructor
  · rintro (_ | h)
    exact h c List.mem_cons_self
  · intro h
    refine .literal fun c' hc' => ?_
    rwa [List.mem_singleton.1 hc']

/-- The only member of a caseless set is no letter. -/
theorem caseless_of_single? {s : CharSet} (hs : s.Caseless) {c : Char} (h : s.single? = some c) :
    (CharSet.singleton c).Caseless := by
  unfold CharSet.single? at h
  split at h
  · next lo hi hbounds =>
    split at h
    · next hhi =>
      cases h
      by_cases hvalid : lo.isValidChar
      · have hcode : (Char.ofNat lo).toNat = lo := by
          rw [Char.ofNat, dif_pos hvalid]
          rfl
        have hsame : CharSet.singleton (Char.ofNat lo) = s := by
          obtain ⟨bounds, hascends⟩ := s
          dsimp only at hbounds
          subst hbounds
          rw [CharSet.singleton, hcode, CharSet.codes, dif_pos (Nat.le_refl lo)]
          simp only [hhi]
        rwa [hsame]
      · rw [Char.ofNat, dif_neg hvalid]
        decide
    · cases h
  · cases h

theorem caseless_ofSet {s : CharSet} (hs : s.Caseless) : (ofSet s).Caseless := by
  unfold ofSet
  split
  · next c hc => exact caseless_literal_singleton.2 (caseless_of_single? hs hc)
  · exact .set hs

/-! ### Sequences -/

theorem caseless_parts (h : t.Caseless) : ∀ u ∈ t.parts, u.Caseless := by
  cases h with
  | empty => exact nofun
  | sequence h => exact h
  | literal h => exact List.forall_mem_singleton.2 (.literal h)
  | set h => exact List.forall_mem_singleton.2 (.set h)
  | look a => exact List.forall_mem_singleton.2 (.look a)
  | repeated h => exact List.forall_mem_singleton.2 (.repeated h)
  | capture h => exact List.forall_mem_singleton.2 (.capture h)
  | alternatives h => exact List.forall_mem_singleton.2 (.alternatives h)

theorem caseless_join (ht : t.Caseless) (hts : ∀ u ∈ ts, u.Caseless) :
    ∀ u ∈ join t ts, u.Caseless := by
  unfold join
  split
  · next a b rest =>
    obtain ⟨hb, hrest⟩ := List.forall_mem_cons.1 hts
    cases ht with
    | literal ha =>
      cases hb with
      | literal hb =>
        exact List.forall_mem_cons.2 ⟨.literal (List.forall_mem_append.2 ⟨ha, hb⟩), hrest⟩
  · exact List.forall_mem_cons.2 ⟨ht, hts⟩

theorem caseless_ofSequence (h : ∀ t ∈ ts, t.Caseless) : (ofSequence ts).Caseless := by
  have hparts : ∀ t ∈ ts.flatMap parts, t.Caseless := by
    intro t ht
    obtain ⟨u, hu, ht⟩ := List.mem_flatMap.1 ht
    exact caseless_parts (h u hu) t ht
  have hjoined : ∀ t ∈ (ts.flatMap parts).foldr join [], t.Caseless := by
    generalize ts.flatMap parts = us at hparts ⊢
    induction us with
    | nil => exact nofun
    | cons u us ih =>
      obtain ⟨hu, hus⟩ := List.forall_mem_cons.1 hparts
      exact caseless_join hu (ih hus)
  unfold ofSequence
  generalize (ts.flatMap parts).foldr join [] = us at hjoined ⊢
  split
  · exact .empty
  · exact List.forall_mem_singleton.1 hjoined
  · exact .sequence hjoined

/-! ### Alternatives -/

theorem exists_of_mem_mapM {α β : Type} {f : α → Option β} {xs : List α} {ys : List β}
    (h : xs.mapM f = some ys) : ∀ y ∈ ys, ∃ x ∈ xs, f x = some y := by
  induction xs generalizing ys with
  | nil =>
    cases h
    exact nofun
  | cons x xs ih =>
    simp only [List.mapM_cons, Option.bind_eq_bind, Option.bind_eq_some_iff, Option.pure_def,
      Option.some.injEq] at h
    obtain ⟨y, hy, ys', hys, rfl⟩ := h
    refine List.forall_mem_cons.2 ⟨⟨x, List.mem_cons_self, hy⟩, fun y' hy' => ?_⟩
    obtain ⟨x', hx', heq⟩ := ih hys y' hy'
    exact ⟨x', List.mem_cons_of_mem _ hx', heq⟩

theorem caseless_unionOf {set? : Term → Option CharSet} {s : CharSet}
    (h : ∀ t ∈ ts, ∀ s, set? t = some s → s.Caseless) (hs : unionOf set? ts = some s) :
    s.Caseless := by
  obtain ⟨ss, hss, rfl⟩ := Option.map_eq_some_iff.1 hs
  refine List.foldlRecOn ss CharSet.union (by decide) fun u hu s hs => hu.union ?_
  obtain ⟨t, ht, hset⟩ := exists_of_mem_mapM hss s hs
  exact h t ht s hset

theorem caseless_options (h : t.Caseless) : ∀ u ∈ t.options, u.Caseless := by
  unfold options
  split
  · cases h with
    | alternatives h => exact h
  · exact List.forall_mem_singleton.2 h

theorem caseless_choose (h : ∀ t ∈ ts, t.Caseless) : (choose ts).Caseless := by
  have hoptions : ∀ t ∈ ts.flatMap options, t.Caseless := by
    intro t ht
    obtain ⟨u, hu, ht⟩ := List.mem_flatMap.1 ht
    exact caseless_options (h u hu) t ht
  unfold choose
  generalize ts.flatMap options = us at hoptions ⊢
  split
  · exact .set (by decide)
  · exact List.forall_mem_singleton.1 hoptions
  split
  · next s hs =>
    refine caseless_ofSet (caseless_unionOf (fun t ht s hset => ?_) hs)
    unfold charSet? at hset
    split at hset
    · cases hset
      exact caseless_literal_singleton.1 (hoptions _ ht)
    · cases hset
  split
  · next s hs =>
    refine caseless_ofSet (caseless_unionOf (fun t ht s hset => ?_) hs)
    unfold asSet? at hset
    split at hset
    · cases hset
      cases hoptions _ ht with
      | set hs => exact hs
    · cases hset
  · exact .alternatives hoptions

theorem caseless_ofAlternatives (h : ∀ t ∈ ts, t.Caseless) : (ofAlternatives ts).Caseless := by
  have hchosen := caseless_choose h
  unfold ofAlternatives
  split
  · next us hus =>
    rw [hus] at hchosen
    split
    · next first others hsequences =>
      dsimp only
      split
      · exact hchosen
      -- common starts are parts of the first sequence, and what is left of each comes behind them
      have hparts : ∀ s ∈ first :: others, ∀ t ∈ s, t.Caseless := by
        intro s hs
        obtain ⟨u, hu, hsequence⟩ := exists_of_mem_mapM hsequences s hs
        cases hchosen with
        | alternatives hus =>
          unfold sequence? at hsequence
          split at hsequence
          · cases hsequence
            cases hus _ hu with
            | sequence h => exact h
          · cases hsequence
      refine caseless_ofSequence (List.forall_mem_append.2 ⟨fun t ht => ?_, ?_⟩)
      · exact hparts first List.mem_cons_self t (List.mem_of_mem_take ht)
      · refine List.forall_mem_singleton.2 (caseless_choose (List.forall_mem_map.2 fun s hs => ?_))
        exact caseless_ofSequence fun t ht => hparts s hs t (List.mem_of_mem_drop ht)
    · exact hchosen
  · exact hchosen

/-! ### Repetitions -/

theorem caseless_ofRepetition (h : t.Caseless) (min : Nat) (max : Option Nat) (greedy : Bool) :
    (ofRepetition min max greedy t).Caseless := by
  unfold ofRepetition
  dsimp only
  split
  · exact .empty
  · exact h
  · exact .repeated h

end Term

/-! ### Meanings -/

theorem caseless_shorthand (unicode : Bool) (kind : Shorthand) : (kind.set unicode).Caseless := by
  cases kind <;> cases unicode <;> decide +kernel

theorem caseless_dot (flags : Flags) : flags.dot.Caseless := by
  unfold Flags.dot
  split
  · decide
  split
  · exact CharSet.Caseless.compl (by decide)
  · exact CharSet.Caseless.compl (by decide)

theorem caseless_char {flags : Flags} {c : Char}
    (hc : ¬(flags.unicode || decide (c.toNat < 128)) = true) :
    (CharSet.singleton c).Caseless := by
  have hcode : 128 ≤ c.toNat := by
    simp only [Bool.or_eq_true, decide_eq_true_eq] at hc
    omega
  intro i hi
  rw [CharSet.singleton, CharSet.memCode_codes_self, CharSet.memCode_codes_self,
    decide_eq_false (by omega), decide_eq_false (by omega)]

-- by recursion over the expression, and over the list of its parts beside it
mutual

/-- Where case is ignored, an expression that keeps it so means a caseless term. -/
theorem caseless_of_term? {flags after : Flags} {t : Term} (e : Expr)
    (hflags : flags.ignoreCase = true) (hkeeps : e.keepsCase = true)
    (h : e.term? flags = some (t, after)) : after.ignoreCase = true ∧ t.Caseless := by
  cases e with
  | empty =>
    cases h
    exact ⟨hflags, .empty⟩
  | setFlags change =>
    cases h
    exact ⟨Flags.ignoreCase_update hflags hkeeps, .empty⟩
  | char c coded =>
    rw [Expr.term?] at h
    split at h
    · cases h
    split at h
    · cases h
      exact ⟨hflags, Term.caseless_ofSet (Flags.caseless_fold hflags _)⟩
    · next hfold =>
      cases h
      rw [hflags, Bool.true_and] at hfold
      exact ⟨hflags, Term.caseless_literal_singleton.2 (caseless_char hfold)⟩
  | dot =>
    rw [Expr.term?] at h
    split at h
    · cases h
      exact ⟨hflags, Term.caseless_ofSet (caseless_dot flags)⟩
    · cases h
  | assertion a =>
    cases h
    exact ⟨hflags, .look _⟩
  | shorthand kind negated =>
    obtain ⟨s, hs, heq⟩ := Option.map_eq_some_iff.1 h
    cases heq
    exact ⟨hflags,
      Term.caseless_ofSet (Flags.caseless_negate? (caseless_shorthand flags.unicode kind) hs)⟩
  | property name negated =>
    obtain ⟨s, hs, heq⟩ := Option.map_eq_some_iff.1 h
    cases heq
    rw [ClassExpr.set?] at hs
    split at hs
    · obtain ⟨u, -, hs⟩ := Option.bind_eq_some_iff.1 hs
      exact ⟨hflags,
        Term.caseless_ofSet (Flags.caseless_negate? (Flags.caseless_fold hflags u) hs)⟩
    · cases hs
  | bracketed negated body =>
    obtain ⟨s, hs, heq⟩ := Option.map_eq_some_iff.1 h
    cases heq
    rw [ClassExpr.set?] at hs
    obtain ⟨u, -, hs⟩ := Option.bind_eq_some_iff.1 hs
    exact ⟨hflags,
      Term.caseless_ofSet (Flags.caseless_negate? (Flags.caseless_fold hflags u) hs)⟩
  | repeated min max greedy body =>
    obtain ⟨⟨u, last⟩, hbody, heq⟩ := Option.map_eq_some_iff.1 h
    cases heq
    rw [Expr.keepsCase] at hkeeps
    obtain ⟨hlast, hu⟩ := caseless_of_term? body hflags hkeeps hbody
    exact ⟨hlast, Term.caseless_ofRepetition hu ..⟩
  | capture index body =>
    obtain ⟨⟨u, last⟩, hbody, heq⟩ := Option.map_eq_some_iff.1 h
    cases heq
    rw [Expr.keepsCase] at hkeeps
    exact ⟨hflags, .capture (caseless_of_term? body hflags hkeeps hbody).2⟩
  | group change body =>
    obtain ⟨⟨u, last⟩, hbody, heq⟩ := Option.map_eq_some_iff.1 h
    cases heq
    rw [Expr.keepsCase, Bool.and_eq_true] at hkeeps
    have hinside := Flags.ignoreCase_update hflags hkeeps.1
    exact ⟨hflags, (caseless_of_term? body hinside hkeeps.2 hbody).2⟩
  | concat items =>
    obtain ⟨⟨us, last⟩, hitems, heq⟩ := Option.map_eq_some_iff.1 h
    cases heq
    rw [Expr.keepsCase] at hkeeps
    obtain ⟨hlast, hus⟩ := caseless_of_terms? items hflags hkeeps hitems
    exact ⟨hlast, Term.caseless_ofSequence hus⟩
  | alternation items =>
    obtain ⟨⟨us, last⟩, hitems, heq⟩ := Option.map_eq_some_iff.1 h
    cases heq
    rw [Expr.keepsCase] at hkeeps
    obtain ⟨hlast, hus⟩ := caseless_of_terms? items hflags hkeeps hitems
    exact ⟨hlast, Term.caseless_ofAlternatives hus⟩

theorem caseless_of_terms? {flags after : Flags} {ts : List Term} (es : List Expr)
    (hflags : flags.ignoreCase = true) (hkeeps : Expr.keepsCaseAll es = true)
    (h : Expr.terms? flags es = some (ts, after)) :
    after.ignoreCase = true ∧ ∀ t ∈ ts, t.Caseless := by
  cases es with
  | nil =>
    cases h
    exact ⟨hflags, nofun⟩
  | cons e es =>
    rw [Expr.keepsCaseAll, Bool.and_eq_true] at hkeeps
    rw [Expr.terms?] at h
    obtain ⟨⟨t, middle⟩, ht, h⟩ := Option.bind_eq_some_iff.1 h
    obtain ⟨⟨us, last⟩, hus, heq⟩ := Option.map_eq_some_iff.1 h
    cases heq
    obtain ⟨hmiddle, hcaseless⟩ := caseless_of_term? e hflags hkeeps.1 ht
    obtain ⟨hlast, hrest⟩ := caseless_of_terms? es hmiddle hkeeps.2 hus
    exact ⟨hlast, List.forall_mem_cons.2 ⟨hcaseless, hrest⟩⟩

end

end Tint.Regex
