import Tint.Proofs.Wrapping.Inputs

/-!
# Escapes and classes in front of a parenthesis

An escape or a class that is read to its end is read alike with a parenthesis behind the input. None
of them can end where the input does, but for the boundary of a word: there the reader looks for a
brace, and a parenthesis is none. Each reader has a lemma, and where readers call each other, the
lemmas do.

Loops take their budget from the length of the input. It may be larger in the second input, and does
not matter as long as it lasts in the first.
-/

namespace Tint.Regex

open Input

variable {i i' j j' : Input} {budget budget' : Nat}

/-! ## Escapes -/

theorem readHexDigits_closes (count value : Nat) (h : Closes i i') :
    Keeps (Beside Closes) (readHexDigits count value i) (readHexDigits count value i') := by
  induction count generalizing value i i' with
  | zero => exact .read _ h
  | succ count ih =>
    simp only [readHexDigits, Option.bind_eq_bind]
    cases hrest : i.rest with
    | nil => exact .none _
    | cons c cs =>
      obtain ⟨ds, hrest'⟩ := h.cons hrest
      rw [hrest']
      exact .bind_same _ fun _ => .bind_same _ fun d => ih _ h.next

theorem readHexBraced_closes (value : Option Nat) (h : Closes i i') (hle : budget ≤ budget') :
    Keeps (Beside Closes) (readHexBraced budget value i) (readHexBraced budget' value i') := by
  induction budget generalizing budget' value i i' with
  | zero => exact .none _
  | succ budget ih =>
    obtain ⟨budget', rfl, hbudget⟩ := exists_budget hle
    rw [readHexBraced, readHexBraced]
    cases hrest : i.rest with
    | nil => exact .none _
    | cons c cs =>
      obtain ⟨ds, hrest'⟩ := h.cons hrest
      rw [hrest']
      by_cases hc : c = '\x7d'
      · subst hc
        cases value with
        | none => exact .none _
        | some v => exact .read v h.next
      · simp only [Option.bind_eq_bind]
        exact .bind_same _ fun d => ih _ h.next hbudget

theorem readCode_nil {digits : Nat} (hdigits : 0 < digits) (hrest : i.rest = []) :
    readCode digits i = none := by
  obtain ⟨n, rfl⟩ : ∃ n, digits = n + 1 := ⟨digits - 1, by omega⟩
  simp only [readCode, hrest, readHexDigits]
  rfl

theorem readCode_closes {digits : Nat} (hdigits : 0 < digits) (h : Closes i i') :
    Keeps (Beside Closes) (readCode digits i) (readCode digits i') := by
  have hcode : ∀ {o o' : Option (Nat × Input)}, Keeps (Beside Closes) o o' →
      Keeps (Beside Closes) (o.bind fun p => (charOfCode? p.1).bind fun x => some (x, p.2))
        (o'.bind fun p => (charOfCode? p.1).bind fun x => some (x, p.2)) := by
    intro o o' ho
    refine ho.bind ?_
    rintro _ _ ⟨n, hj⟩
    exact .bind_same _ fun x => .read x hj
  have hlength := h.length_le
  cases hrest : i.rest with
  | nil =>
    rw [readCode_nil hdigits hrest]
    exact .none _
  | cons c cs =>
    obtain ⟨ds, hrest'⟩ := h.cons hrest
    rw [hrest, hrest'] at hlength
    unfold readCode
    rw [hrest, hrest']
    by_cases hc : c = '\x7b'
    · subst hc
      exact hcode (readHexBraced_closes _ h.next (by omega))
    · simp only [List.cons.injEq, hc, false_and, imp_self, implies_true, Option.pure_def,
        Option.bind_eq_bind]
      exact hcode (readHexDigits_closes _ _ h)

theorem readBraced_closes (done : List Char) (h : Closes i i') (hle : budget ≤ budget') :
    Keeps (Beside Closes) (readBraced budget done i) (readBraced budget' done i') := by
  induction budget generalizing budget' done i i' with
  | zero => exact .none _
  | succ budget ih =>
    obtain ⟨budget', rfl, hbudget⟩ := exists_budget hle
    rw [readBraced, readBraced]
    cases hrest : i.rest with
    | nil => exact .none _
    | cons c cs =>
      obtain ⟨ds, hrest'⟩ := h.cons hrest
      rw [hrest']
      by_cases hc : c = '\x7d'
      · subst hc
        exact .read _ h.bump
      · simp only
        exact ih _ h.next hbudget

theorem readProperty_closes (h : Closes i i') :
    Keeps (Beside (Beside Closes)) (readProperty i) (readProperty i') := by
  have hlength := h.length_le
  unfold readProperty
  cases hrest : i.rest with
  | nil => exact .none _
  | cons c cs =>
    obtain ⟨ds, hrest'⟩ := h.cons hrest
    rw [hrest, hrest'] at hlength
    rw [hrest']
    by_cases hbrace : c = '\x7b'
    · subst hbrace
      refine .bind (readBraced_closes _ h.next (by omega)) ?_
      rintro _ _ ⟨name, hj⟩
      dsimp only
      split
      · exact .some (.mk _ (.mk _ hj))
      · split
        · exact .some (.mk _ (.mk _ hj))
        · split
          · exact .some (.mk _ (.mk _ hj))
          · exact .some (.mk _ (.mk _ hj))
    · by_cases hescape : c = '\\'
      · subst hescape
        exact .none _
      · simp only
        exact .some (.mk _ (.mk _ h.bump))

theorem readAssertionName_closes (done : List Char) (h : Closes i i') (hle : budget ≤ budget') :
    Keeps (Beside Closes) (readAssertionName budget done i)
      (readAssertionName budget' done i') := by
  induction budget generalizing budget' done i i' with
  | zero => exact .none _
  | succ budget ih =>
    obtain ⟨budget', rfl, hbudget⟩ := exists_budget hle
    rw [readAssertionName, readAssertionName]
    cases hrest : i.rest with
    | nil => exact .none _
    | cons c cs =>
      obtain ⟨ds, hrest'⟩ := h.cons hrest
      rw [hrest']
      by_cases hc : c = '\x7d'
      · subst hc
        exact .read _ h.bump
      · simp only
        split
        · exact ih _ h.next hbudget
        · exact .none _

theorem readBoundaryKind_closes (h : Closes i i') :
    Keeps (Beside Closes) (readBoundaryKind i) (readBoundaryKind i') := by
  unfold readBoundaryKind
  cases hrest : i.rest with
  | nil =>
    rcases h.nil hrest with hrest' | hrest' <;>
    · rw [hrest']
      exact .read _ h
  | cons c cs =>
    obtain ⟨ds, hrest'⟩ := h.cons hrest
    rw [hrest']
    by_cases hc : c = '\x7b'
    · subst hc
      have hlength := h.next.length_le
      simp only [Option.bind_eq_bind]
      cases hnext : i.next.rest with
      | nil => exact .none _
      | cons d us =>
        obtain ⟨vs, hnext'⟩ := h.next.cons hnext
        rw [hnext, hnext'] at hlength
        rw [hnext', List.head?_cons, List.head?_cons, Option.bind_some, Option.bind_some]
        split
        · refine .bind (readAssertionName_closes _ h.next (by omega)) ?_
          rintro _ _ ⟨name, hj⟩
          dsimp only
          split
          · exact .read _ hj
          · exact .read _ hj
          · exact .read _ hj
          · exact .read _ hj
          · exact .none _
        · exact .read _ h
    · simp only [List.cons.injEq, hc, false_and, imp_self, implies_true]
      exact .read _ h

theorem readEscape_closes (h : Closes i i') :
    Keeps (Beside Closes) (readEscape i) (readEscape i') := by
  unfold readEscape
  cases htail : i.rest.tail with
  | nil => exact .none _
  | cons c cs =>
    obtain ⟨ds, htail'⟩ : ∃ ds, i'.rest.tail = c :: ds := h.bump.cons htail
    have hafter : Closes { i with rest := cs } { i' with rest := ds } := by
      have hbump := h.bump.bump
      simp only [Input.bump, htail, htail', List.tail_cons] at hbump
      exact hbump
    rw [htail']
    dsimp only
    generalize ({ i with rest := cs } : Input) = j, ({ i' with rest := ds } : Input) = j'
      at hafter ⊢
    have hcoded : ∀ digits, 0 < digits → Keeps (Beside Closes)
        ((readCode digits j.skip).bind fun p =>
          some (Expr.char p.1 (digits == 2 && j.skip.rest.head? != some '\x7b'), p.2))
        ((readCode digits j'.skip).bind fun p =>
          some (Expr.char p.1 (digits == 2 && j'.skip.rest.head? != some '\x7b'), p.2)) := by
      intro digits hdigits
      cases hrest : j.skip.rest with
      | nil =>
        rw [readCode_nil hdigits hrest]
        exact .none _
      | cons d us =>
        obtain ⟨vs, hrest'⟩ := hafter.skip.cons hrest
        rw [hrest', List.head?_cons, List.head?_cons]
        refine .bind (readCode_closes hdigits hafter.skip) ?_
        rintro _ _ ⟨x, hk⟩
        exact .read _ hk
    have hproperty : ∀ negated : Bool, Keeps (Beside Closes)
        ((readProperty j.skip).bind fun p =>
          some (Expr.property p.1 (negated != p.2.1), p.2.2))
        ((readProperty j'.skip).bind fun p =>
          some (Expr.property p.1 (negated != p.2.1), p.2.2)) := by
      intro negated
      refine .bind (readProperty_closes hafter.skip) ?_
      rintro _ _ ⟨name, ⟨unequal, hk⟩⟩
      exact .read _ hk
    have hboundary : Keeps (Beside Closes)
        ((readBoundaryKind j).map fun p => (Expr.assertion p.1, p.2))
        ((readBoundaryKind j').map fun p => (Expr.assertion p.1, p.2)) := by
      rw [Option.map_eq_bind, Option.map_eq_bind]
      refine .bind (readBoundaryKind_closes hafter) ?_
      rintro _ _ ⟨a, hk⟩
      exact .read _ hk
    -- in the order of the reader: codes, properties, what ends with its letter, and boundaries
    split
    iterate 3 exact hcoded _ (by decide)
    iterate 2 exact hproperty _
    iterate 14 exact .read _ hafter
    · exact hboundary
    iterate 3 exact .read _ hafter
    · split
      · exact .read _ hafter
      · exact .none _

/-! ## Classes -/

theorem readAsciiClass?_closes (h : Closes i i') :
    Option.Rel (Beside Closes) (readAsciiClass? i) (readAsciiClass? i') := by
  have hnamed : ∀ (negated : Bool) {j j' : Input}, Closes j j' → Option.Rel (Beside Closes)
      ((({ j with rest := j.rest.drop (j.rest.takeWhile (· != ':')).length } : Input).after?
          ":]").bind fun k => (asciiClass? (String.ofList (j.rest.takeWhile (· != ':')))).bind
            fun set => some (ClassExpr.ascii set negated, k))
      ((({ j' with rest := j'.rest.drop (j'.rest.takeWhile (· != ':')).length } : Input).after?
          ":]").bind fun k => (asciiClass? (String.ofList (j'.rest.takeWhile (· != ':')))).bind
            fun set => some (ClassExpr.ascii set negated, k)) := by
    intro negated j j' hj
    rcases hj.takeWhile (q := (· != ':')) rfl with ⟨hname, hrest⟩ | ⟨hnone, hnone'⟩
    · rw [hname]
      refine Text.rel_bind (hrest.after? (by decide)) fun k k' hk => ?_
      cases asciiClass? (String.ofList (j.rest.takeWhile (· != ':'))) with
      | none => exact .none
      | some set => exact .some (.mk _ hk)
    · rw [hnone, hnone']
      exact .none
  unfold readAsciiClass?
  refine Text.rel_bind (h.after? (by decide)) fun j j' hj => ?_
  dsimp only
  have hcaret := hj.after? (show ')' ∉ "^".toList by decide)
  cases hnegated : j.after? "^" with
  | none =>
    rw [hnegated] at hcaret
    cases hcaret' : j'.after? "^" with
    | none => exact hnamed false hj
    | some k' =>
      rw [hcaret'] at hcaret
      cases hcaret
  | some k =>
    rw [hnegated] at hcaret
    cases hcaret' : j'.after? "^" with
    | none =>
      rw [hcaret'] at hcaret
      cases hcaret
    | some k' =>
      rw [hcaret'] at hcaret
      cases hcaret with
      | some hk => exact hnamed true hk

theorem readClassAtom_closes (h : Closes i i') :
    Keeps (Beside Closes) (readClassAtom i) (readClassAtom i') := by
  unfold readClassAtom
  cases hrest : i.rest with
  | nil => exact .none _
  | cons c cs =>
    obtain ⟨ds, hrest'⟩ := h.cons hrest
    rw [hrest']
    by_cases hc : c = '\\'
    · subst hc
      refine .bind (readEscape_closes h) ?_
      rintro _ _ ⟨e, hj⟩
      dsimp only
      split
      · exact .read _ hj
      · exact .read _ hj
      · exact .read _ hj
      · exact .none _
    · simp only
      exact .read _ h.bump

theorem readClassRange_closes (h : Closes i i') :
    Keeps (Beside Closes) (readClassRange i) (readClassRange i') := by
  unfold readClassRange
  refine .bind (readClassAtom_closes h) ?_
  rintro ⟨_, j⟩ ⟨_, j'⟩ ⟨lo, hj⟩
  replace hj := hj.skip
  dsimp only
  cases hrest : j.skip.rest with
  | nil => exact .none _
  | cons c cs =>
    obtain ⟨ds, hrest'⟩ := hj.cons hrest
    rw [hrest']
    by_cases hc : c = '-'
    · subst hc
      have hbracket := hj.peekSkipping_iff (c := ']') (by decide)
      have hhyphen := hj.peekSkipping_iff (c := '-') (by decide)
      simp only [hbracket, hhyphen]
      split
      · exact .read _ hj
      · refine .bind (readClassAtom_closes hj.next) ?_
        rintro _ _ ⟨hi, hk⟩
        dsimp only
        split
        · split
          · exact .read _ hk
          · exact .none _
        · exact .none _
    · simp only [List.cons.injEq, hc, false_and, imp_self, implies_true]
      exact .read _ hj

theorem readHyphens_eq (budget : Nat) (done : List ClassExpr) (hrest : i.rest.head? ≠ some '-') :
    readHyphens budget done i = (done, i) := by
  cases budget with
  | zero => rfl
  | succ budget =>
    rw [readHyphens]
    split
    · next hhyphen => exact absurd (by rw [hhyphen]; rfl) hrest
    · rfl

theorem readHyphens_closes (done : List ClassExpr) (h : Closes i i')
    (hbudget : i.rest.length ≤ budget) (hle : budget ≤ budget') :
    Beside Closes (readHyphens budget done i) (readHyphens budget' done i') := by
  induction budget generalizing budget' done i i' with
  | zero =>
    have hrest := List.length_eq_zero_iff.1 (Nat.le_zero.1 hbudget)
    have hrest' : i'.rest.head? ≠ some '-' := by
      rcases h.nil hrest with hrest' | hrest' <;> simp [hrest']
    rw [readHyphens_eq _ _ hrest']
    exact .mk _ h
  | succ budget ih =>
    obtain ⟨budget', rfl, hbudget⟩ := exists_budget hle
    rw [readHyphens, readHyphens]
    cases hrest : i.rest with
    | nil =>
      rcases h.nil hrest with hrest' | hrest' <;>
      · rw [hrest']
        exact .mk _ h
    | cons c cs =>
      obtain ⟨ds, hrest'⟩ := h.cons hrest
      rw [hrest']
      by_cases hc : c = '-'
      · subst hc
        have hnext := length_next_le i
        exact ih _ h.next (by omega) (by omega)
      · simp only [List.cons.injEq, hc, false_and, imp_self, implies_true]
        exact .mk _ h

theorem readClassStart_closes (h : Closes i i') :
    Keeps (Beside (Beside Closes)) (readClassStart i) (readClassStart i') := by
  cases hrest : i.next.rest with
  | nil =>
    have hnone : readClassStart i = none := by simp [readClassStart, hrest, readHyphens]
    rw [hnone]
    exact .none _
  | cons c cs =>
    obtain ⟨ds, hrest'⟩ := h.next.cons hrest
    unfold readClassStart
    dsimp only
    rw [hrest, hrest']
    rcases Decidable.em (c = '^') with rfl | hc
    on_goal 1 =>
      have hj := h.next.next
      simp only
    on_goal 2 =>
      have hj := h.next
      simp only [List.cons.injEq, hc, false_and, imp_self, implies_true]
    -- with a caret or without one, hyphens may come next
    all_goals
      have hhyphens := readHyphens_closes [] hj (Nat.le_refl _) hj.length_le
      generalize readHyphens _ [] _ = q at hhyphens ⊢
      generalize readHyphens _ [] _ = q' at hhyphens ⊢
      obtain ⟨items, k⟩ := q
      obtain ⟨_, k'⟩ := q'
      obtain ⟨_, hk⟩ := hhyphens
      dsimp only
      cases hrest : k.rest with
      | nil => exact .none _
      | cons d us =>
        obtain ⟨vs, hrest'⟩ := hk.cons hrest
        rw [hrest']
        cases items with
        | cons item items =>
          simp only
          exact Keeps.some (Beside.mk _ (Beside.mk _ hk))
        | nil =>
          by_cases hd : d = ']'
          · subst hd
            exact Keeps.some (Beside.mk _ (Beside.mk _ hk.next))
          · simp only [List.cons.injEq, hd, false_and, imp_self, implies_true]
            exact Keeps.some (Beside.mk _ (Beside.mk _ hk))

theorem readClassOp?_closes (h : Closes i i') :
    Option.Rel (Beside Closes) (readClassOp? i) (readClassOp? i') := by
  cases h with
  | lost =>
    rcases readClassOp? i with _ | ⟨op, j⟩
    · exact .none
    · exact .some (.mk _ (.lost j))
  | kept =>
    obtain ⟨cs, ignoreBlanks, groups, names⟩ := i
    rcases cs with _ | ⟨c, _ | ⟨d, cs⟩⟩
    · exact .none
    · simp [readClassOp?]
    · have hrest : ∀ op : ClassOp, Option.Rel (Beside Closes)
          (some (op, (⟨cs, ignoreBlanks, groups, names⟩ : Input)))
          (some (op, ⟨cs ++ [')'], ignoreBlanks, groups, names⟩)) := fun op =>
        .some (.mk op (.kept ⟨cs, ignoreBlanks, groups, names⟩))
      by_cases hinter : c = '&' ∧ d = '&'
      · obtain ⟨rfl, rfl⟩ := hinter
        exact hrest .inter
      by_cases hdiff : c = '-' ∧ d = '-'
      · obtain ⟨rfl, rfl⟩ := hdiff
        exact hrest .diff
      by_cases hsymm : c = '~' ∧ d = '~'
      · obtain ⟨rfl, rfl⟩ := hsymm
        exact hrest .symmDiff
      have hnone : ∀ us, readClassOp? ⟨c :: d :: us, ignoreBlanks, groups, names⟩ = none := by
        intro us
        unfold readClassOp?
        dsimp only
        split
        · next heq =>
          cases heq
          exact absurd ⟨rfl, rfl⟩ hinter
        · next heq =>
          cases heq
          exact absurd ⟨rfl, rfl⟩ hdiff
        · next heq =>
          cases heq
          exact absurd ⟨rfl, rfl⟩ hsymm
        · rfl
      dsimp only [List.cons_append]
      rw [hnone, hnone]
      exact .none

theorem readClassItems_closes (left : Option (ClassOp × ClassExpr)) (items : List ClassExpr)
    (h : Closes i i') (hle : budget ≤ budget') :
    Keeps (Beside Closes) (readClassItems budget left items i)
      (readClassItems budget' left items i') := by
  induction budget generalizing budget' left items i i' with
  | zero => exact .none _
  | succ budget ih =>
    obtain ⟨budget', rfl, hbudget⟩ := exists_budget hle
    rw [readClassItems, readClassItems]
    replace h := h.skip
    generalize i.skip = j, i'.skip = j' at h ⊢
    cases hrest : j.rest with
    | nil => exact .none _
    | cons c cs =>
      obtain ⟨ds, hrest'⟩ := h.cons hrest
      rw [hrest']
      by_cases hopen : c = '['
      · subst hopen
        have hnamed := readAsciiClass?_closes h
        simp only
        generalize readAsciiClass? j = o, readAsciiClass? j' = o' at hnamed ⊢
        cases hnamed with
        | some hitem =>
          obtain ⟨item, hj⟩ := hitem
          exact ih _ _ hj hbudget
        | none =>
          refine .bind (readClassStart_closes h) ?_
          rintro _ _ ⟨negated, ⟨start, hj⟩⟩
          refine .bind (ih _ _ hj hbudget) ?_
          rintro _ _ ⟨body, hk⟩
          exact ih _ _ hk hbudget
      by_cases hclose : c = ']'
      · subst hclose
        exact .read _ h.bump
      simp only [List.cons.injEq, hopen, hclose, false_and, imp_self, implies_true]
      have hop := readClassOp?_closes h
      generalize readClassOp? j = o, readClassOp? j' = o' at hop ⊢
      cases hop with
      | some hop =>
        obtain ⟨op, hj⟩ := hop
        exact ih _ _ hj hbudget
      | none =>
        refine .bind (readClassRange_closes h) ?_
        rintro _ _ ⟨item, hj⟩
        exact ih _ _ hj hbudget

theorem readClass_closes (h : Closes i i') :
    Keeps (Beside Closes) (readClass i) (readClass i') := by
  refine .bind (readClassStart_closes h) ?_
  rintro ⟨_, _, j⟩ ⟨_, _, j'⟩ ⟨negated, ⟨items, hj⟩⟩
  have hlength := hj.length_le
  refine .bind (readClassItems_closes _ _ hj (by omega)) ?_
  rintro _ _ ⟨body, hk⟩
  exact .read _ hk

end Tint.Regex
