import Tint.Proofs.Wrapping.Classes

/-!
# Reading an expression in parentheses

`Pattern.anchoredSource` puts the text of a pattern in a group behind the start of the text. What it
puts together are characters, not expressions, so the reader decides what comes out: the parenthesis
might end something else than the group, or be part of something.

**Step (`readAlternatives_succ`, `readSequence_succ`).** Alternatives and sequences are read alike
from an input and from that with the parenthesis behind it, if they are with one less in the budget.
A sequence ends at the end of the input, at a bar, or at a parenthesis; so it ends in both inputs
where the first one does.

**Theorem (`read?_anchoredSource`).** So by induction on the budget the text is read as it is
without the parentheses. Then the last one is left to close the group, unless a comment has taken it
in; in that case the group stays open, and the whole is not an expression. There is no third case:
either the expression comes out in its group, or nothing does, as for a group that is nested too
deeply.
-/

namespace Tint.Regex

open Input

variable {i i' j j' : Input} {cs : List Char} {budget budget' : Nat}

/-! ## Groups -/

theorem readFlags_concat (cs : List Char) (negated : Bool) (change : FlagChange) :
    Keeps (Beside fun rest rest' => rest' = rest ++ [')']) (readFlags cs negated change)
      (readFlags (cs ++ [')']) negated change) := by
  induction cs generalizing negated change with
  | nil => exact .none _
  | cons c cs ih =>
    rw [List.cons_append, readFlags, readFlags]
    split
    · split
      · exact .none _
      · exact .some (.mk _ rfl)
    split
    · split
      · exact .none _
      · exact ih ..
    refine .bind_same _ fun f => ?_
    split
    · exact .none _
    · split
      · exact ih ..
      · exact ih ..

theorem readGroupName_closes (h : Closes i i') :
    Keeps (Beside Closes) (readGroupName i) (readGroupName i') := by
  unfold readGroupName
  dsimp only
  rcases h.takeWhile (q := (· != '>')) rfl with ⟨hname, hrest⟩ | ⟨hnone, -⟩
  · rw [hname]
    generalize i.rest.takeWhile (· != '>') = name at hrest ⊢
    cases name with
    | nil => exact .none _
    | cons c cs =>
      dsimp only
      cases hdrop : i.rest.drop (c :: cs).length with
      | nil => exact .none _
      | cons d us =>
        obtain ⟨vs, hdrop'⟩ : ∃ vs, i'.rest.drop (c :: cs).length = d :: vs := hrest.cons hdrop
        have hbump := hrest.bump
        simp only [Input.bump, hdrop, hdrop', List.tail_cons] at hbump
        rw [hdrop', List.isEmpty_cons, List.isEmpty_cons]
        split
        · exact .none _
        · exact .read _ hbump
  · rw [hnone]
    split
    · exact .none _
    · exact .none _

theorem readGroupStart_closes (h : Closes i i') :
    Keeps (Beside Closes) (readGroupStart i) (readGroupStart i') := by
  unfold readGroupStart
  dsimp only
  replace h := h.next
  generalize i.next = j, i'.next = j' at h ⊢
  have hnamed : ∀ {k k' : Input}, Closes k k' → Keeps (Beside Closes)
      ((readGroupName k).bind fun p => if p.2.names.contains p.1 then none
        else some (GroupStart.capture (p.2.groups + 1),
          { p.2 with groups := p.2.groups + 1, names := p.1 :: p.2.names }))
      ((readGroupName k').bind fun p => if p.2.names.contains p.1 then none
        else some (GroupStart.capture (p.2.groups + 1),
          { p.2 with groups := p.2.groups + 1, names := p.1 :: p.2.names })) := by
    intro k k' hk
    refine .bind (readGroupName_closes hk) ?_
    rintro ⟨name, k⟩ ⟨_, k'⟩ ⟨_, hk⟩
    dsimp only
    cases hk with
    | lost =>
      split
      · exact .none _
      · exact .read _ (.lost _)
    | kept =>
      dsimp only
      split
      · exact .none _
      · exact .read _ (.kept { k with groups := k.groups + 1, names := name :: k.names })
  cases h with
  | lost => exact .same _
  | kept =>
    split
    · next rest hrest =>
      simp only [hrest, List.cons_append]
      exact hnamed (.kept { j with rest })
    · next rest hrest =>
      simp only [hrest, List.cons_append]
      exact hnamed (.kept { j with rest })
    · next cs hlong hshort hrest =>
      simp only [hrest, List.cons_append]
      -- the marks before a name hold no parenthesis, so there are none in the second input either
      split
      · next rest heq =>
        obtain ⟨us, hus⟩ := (prefix_concat_iff (show ')' ∉ ['P', '<'] by decide)).1
          ⟨rest, (List.cons.inj heq).2.symm⟩
        exact absurd (hus ▸ rfl) (hlong us)
      · next rest heq =>
        obtain ⟨us, hus⟩ := (prefix_concat_iff (show ')' ∉ ['<'] by decide)).1
          ⟨rest, (List.cons.inj heq).2.symm⟩
        exact absurd (hus ▸ rfl) (hshort us)
      · next heq =>
        cases heq
        refine .bind (readFlags_concat ..) ?_
        rintro _ _ ⟨change, rfl⟩
        rename_i rest
        dsimp only
        cases rest with
        | nil => exact .none _
        | cons c rest =>
          by_cases hc : c = ')'
          · subst hc
            simp only [List.cons_append]
            split
            · exact .none _
            · exact .read _ (.kept { j with rest })
          · simp only [List.cons_append]
            exact .read _ (.kept { j with rest })
      · next hplain => exact absurd rfl (hplain _)
    · next hplain =>
      have hother : ∀ us, j.rest ++ [')'] ≠ '?' :: us := by
        intro us heq
        obtain ⟨vs, hvs⟩ := (prefix_concat_iff (show ')' ∉ ['?'] by decide)).1 ⟨us, heq.symm⟩
        exact hplain vs hvs.symm
      split
      · exact absurd ‹_› (hother _)
      · exact absurd ‹_› (hother _)
      · exact absurd ‹_› (hother _)
      · exact .read _ (.kept { j with groups := j.groups + 1 })

/-! ## Repetition -/

theorem digits_closes (value : Option Nat) (h : Closes i i') (hle : budget ≤ budget') :
    Keeps (Beside Closes) (readDecimal.digits budget value i)
      (readDecimal.digits budget' value i') := by
  induction budget generalizing budget' value i i' with
  | zero => exact .none _
  | succ budget ih =>
    obtain ⟨budget', rfl, hbudget⟩ := exists_budget hle
    rw [readDecimal.digits, readDecimal.digits]
    have hdone : Keeps (Beside Closes) (value.map (·, i)) (value.map (·, i')) := by
      cases value with
      | none => exact .none _
      | some v => exact .read v h
    cases hrest : i.rest with
    | nil =>
      rcases h.nil hrest with hrest' | hrest' <;>
      · rw [hrest']
        exact hdone
    | cons c cs =>
      obtain ⟨ds, hrest'⟩ := h.cons hrest
      rw [hrest']
      dsimp only
      split
      · exact ih _ h.next hbudget
      · exact hdone

theorem readDecimal_eq (i : Input) :
    readDecimal i =
      (readDecimal.digits ((i.rest.dropWhile Unicode.blank.mem).length + 1) none
        { i with rest := i.rest.dropWhile Unicode.blank.mem }).bind fun p =>
          if p.1 < 1 <<< 32 then
            some (p.1, { p.2 with rest := p.2.rest.dropWhile Unicode.blank.mem }.skip)
          else none := by
  unfold readDecimal
  dsimp only
  split
  · next hdigits => rw [hdigits, Option.bind_some]
  · next hdigits => rw [hdigits, Option.bind_none]

theorem readDecimal_closes (h : Closes i i') :
    Keeps (Beside Closes) (readDecimal i) (readDecimal i') := by
  rw [readDecimal_eq, readDecimal_eq]
  refine .bind (digits_closes _ h.dropBlank (Nat.succ_le_succ h.dropBlank.length_le)) ?_
  rintro _ _ ⟨n, hj⟩
  dsimp only
  split
  · exact .read _ hj.dropBlank.skip
  · exact .none _

theorem readLazy_closes (h : Closes i i') : Beside Closes (readLazy i) (readLazy i') := by
  unfold readLazy
  cases hrest : i.rest with
  | nil =>
    rcases h.nil hrest with hrest' | hrest' <;>
    · rw [hrest']
      exact .mk _ h
  | cons c cs =>
    obtain ⟨ds, hrest'⟩ := h.cons hrest
    rw [hrest']
    by_cases hc : c = '?'
    · subst hc
      exact .mk _ h.bump
    · simp only [List.cons.injEq, hc, false_and, imp_self, implies_true]
      exact .mk _ h

theorem readCount_closes (h : Closes i i') :
    Keeps (Beside (Beside (Beside Closes))) (readCount i) (readCount i') := by
  unfold readCount
  refine .bind (readDecimal_closes h.next) ?_
  rintro ⟨min, j⟩ ⟨_, j'⟩ ⟨_, hj⟩
  simp only [Option.pure_def, Option.bind_eq_bind, Option.bind_some]
  split
  · next hcomma =>
    obtain ⟨us, hcomma'⟩ := hj.cons hcomma
    rw [hcomma']
    replace hj := hj.next
    simp only
    generalize j.next = k, j'.next = k' at hj ⊢
    split
    · next hclose =>
      obtain ⟨us, hclose'⟩ := hj.cons hclose
      simp only [hclose']
      exact .some (.mk _ (.mk _ (readLazy_closes hj.next)))
    · next hother =>
      split
      · next us hclose' =>
        obtain ⟨vs, hclose⟩ := hj.cons_of (by decide) hclose'
        exact absurd hclose (hother vs)
      · refine .bind (readDecimal_closes hj) ?_
        rintro ⟨max, u⟩ ⟨_, u'⟩ ⟨_, hu⟩
        dsimp only
        split
        · split
          · next hclose =>
            obtain ⟨us, hclose'⟩ := hu.cons hclose
            rw [hclose']
            exact .some (.mk _ (.mk _ (readLazy_closes hu.next)))
          · exact .none _
        · exact .none _
  · split
    · next hclose =>
      obtain ⟨us, hclose'⟩ := hj.cons hclose
      simp only [hclose']
      exact .some (.mk _ (.mk _ (readLazy_closes hj.next)))
    · exact .none _

theorem readRepetition_closes (done : List Expr) (h : Closes i i') :
    Keeps (Beside Closes) (readRepetition done i) (readRepetition done i') := by
  have hrepeated : ∀ (e : Expr) (es : List Expr) {o o' : Option (Nat × Option Nat × Bool × Input)},
      Keeps (Beside (Beside (Beside Closes))) o o' → Keeps (Beside Closes)
        (o.bind fun p => some (Expr.repeated p.1 p.2.1 p.2.2.1 e :: es, p.2.2.2))
        (o'.bind fun p => some (Expr.repeated p.1 p.2.1 p.2.2.1 e :: es, p.2.2.2)) := by
    intro e es o o' ho
    refine ho.bind ?_
    rintro _ _ ⟨min, ⟨max, ⟨greedy, hj⟩⟩⟩
    exact .read _ hj
  cases done with
  | nil => exact .none _
  | cons e es =>
    unfold readRepetition
    dsimp only
    split
    · cases hrest : i.rest with
      | nil =>
        rcases h.nil hrest with hrest' | hrest' <;>
        · rw [hrest']
          exact hrepeated e es (readCount_closes h)
      | cons c cs =>
        obtain ⟨ds, hrest'⟩ := h.cons hrest
        rw [hrest']
        have hmark : ∀ (min : Nat) (max : Option Nat), Keeps (Beside (Beside (Beside Closes)))
            (some (min, max, readLazy i.bump)) (some (min, max, readLazy i'.bump)) :=
          fun min max => .some (.mk _ (.mk _ (readLazy_closes h.bump)))
        by_cases hoption : c = '?'
        · subst hoption
          exact hrepeated e es (hmark 0 (some 1))
        by_cases hstar : c = '*'
        · subst hstar
          exact hrepeated e es (hmark 0 none)
        by_cases hplus : c = '+'
        · subst hplus
          exact hrepeated e es (hmark 1 none)
        simp only [List.cons.injEq, hoption, hstar, hplus, false_and, imp_self, implies_true]
        exact hrepeated e es (readCount_closes h)
    · exact .none _

/-! ## Expressions -/

theorem readAtom_closes (h : Closes i i') :
    Keeps (Beside Closes) (readAtom i) (readAtom i') := by
  unfold readAtom
  cases hrest : i.rest with
  | nil => exact .none _
  | cons c cs =>
    obtain ⟨ds, hrest'⟩ := h.cons hrest
    rw [hrest']
    by_cases hescape : c = '\\'
    · subst hescape
      exact readEscape_closes h
    by_cases hdot : c = '.'
    · subst hdot
      exact .read _ h.bump
    by_cases hstart : c = '^'
    · subst hstart
      exact .read _ h.bump
    by_cases hend : c = '$'
    · subst hend
      exact .read _ h.bump
    simp only
    exact .read _ h.bump

/-- Alternatives and sequences read from both inputs, each with its budget. -/
def ReadAlike (budget budget' : Nat) : Prop :=
  ∀ {i i' : Input} (done : List Expr), Closes i i' →
    Keeps (Beside Closes) (readAlternatives budget done i) (readAlternatives budget' done i') ∧
      Keeps (Beside Closes) (readSequence budget done i) (readSequence budget' done i')

/-- What stands in the parentheses of a group. -/
theorem readAlternatives_group (hread : ReadAlike budget budget') (h : Closes i i')
    (hj : Closes j j') :
    Keeps (Beside Closes)
      ((readAlternatives budget [] j).bind fun p =>
        match p.2.rest with
        | ')' :: _ => some (p.1, { p.2.bump with ignoreBlanks := i.ignoreBlanks })
        | _ => none)
      ((readAlternatives budget' [] j').bind fun p =>
        match p.2.rest with
        | ')' :: _ => some (p.1, { p.2.bump with ignoreBlanks := i'.ignoreBlanks })
        | _ => none) := by
  refine .bind (hread [] hj).1 ?_
  rintro ⟨_, k⟩ ⟨_, k'⟩ ⟨e, hk⟩
  dsimp only
  cases hrest : k.rest with
  | nil => exact .none _
  | cons c cs =>
    obtain ⟨ds, hrest'⟩ := hk.cons hrest
    rw [hrest']
    by_cases hc : c = ')'
    · subst hc
      simp only [h.ignoreBlanks_eq]
      exact .read _ (hk.bump.withBlanks _)
    · simp only [List.cons.injEq, hc, false_and, imp_self, implies_true]
      exact .none _

theorem readSequence_succ (hread : ReadAlike budget budget') (done : List Expr)
    (h : Closes i i') :
    Keeps (Beside Closes) (readSequence (budget + 1) done i)
      (readSequence (budget' + 1) done i') := by
  rw [readSequence, readSequence]
  replace h := h.skip
  generalize i.skip = j, i'.skip = j' at h ⊢
  dsimp only
  cases hrest : j.rest with
  | nil =>
    rcases h.nil hrest with hrest' | hrest' <;>
    · rw [hrest']
      exact .read _ h
  | cons c cs =>
    obtain ⟨ds, hrest'⟩ := h.cons hrest
    rw [hrest']
    by_cases hclose : c = ')'
    · subst hclose
      exact .read _ h
    by_cases hbar : c = '|'
    · subst hbar
      exact .read _ h
    by_cases hclass : c = '['
    · subst hclass
      refine .bind (readClass_closes h) ?_
      rintro _ _ ⟨e, hk⟩
      exact (hread _ hk).2
    by_cases hgroup : c = '('
    · subst hgroup
      refine .bind (readGroupStart_closes h) ?_
      rintro ⟨start, k⟩ ⟨_, k'⟩ ⟨_, hk⟩
      have hinner : ∀ change : FlagChange, Closes
          { k with ignoreBlanks := (change.get? .ignoreBlanks).getD k.ignoreBlanks }
          { k' with ignoreBlanks := (change.get? .ignoreBlanks).getD k'.ignoreBlanks } := by
        intro change
        rw [hk.ignoreBlanks_eq]
        exact hk.withBlanks _
      cases start with
      | flags change => exact (hread _ (hinner change)).2
      | plain change =>
        refine .bind (readAlternatives_group hread h (hinner change)) ?_
        rintro _ _ ⟨e, hu⟩
        exact (hread _ hu).2
      | capture index =>
        refine .bind (readAlternatives_group hread h hk) ?_
        rintro _ _ ⟨e, hu⟩
        exact (hread _ hu).2
    simp only
    split
    · refine .bind (readRepetition_closes done h) ?_
      rintro _ _ ⟨es, hk⟩
      exact (hread _ hk).2
    · refine .bind (readAtom_closes h) ?_
      rintro _ _ ⟨e, hk⟩
      exact (hread _ hk).2

theorem readAlternatives_succ (hread : ReadAlike budget budget') (before : List Expr)
    (h : Closes i i') :
    Keeps (Beside Closes) (readAlternatives (budget + 1) before i)
      (readAlternatives (budget' + 1) before i') := by
  rw [readAlternatives, readAlternatives]
  refine .bind (hread [] h).2 ?_
  rintro ⟨_, j⟩ ⟨_, j'⟩ ⟨e, hj⟩
  dsimp only
  cases hrest : j.rest with
  | nil =>
    rcases hj.nil hrest with hrest' | hrest' <;>
    · rw [hrest']
      exact .read _ hj
  | cons c cs =>
    obtain ⟨ds, hrest'⟩ := hj.cons hrest
    rw [hrest']
    by_cases hc : c = '|'
    · subst hc
      exact (hread _ hj.bump).1
    · simp only [List.cons.injEq, hc, false_and, imp_self, implies_true]
      exact .read _ hj

theorem readAlike (hle : budget ≤ budget') : ReadAlike budget budget' := by
  induction budget generalizing budget' with
  | zero =>
    intro i i' done h
    rw [readAlternatives, readSequence]
    exact ⟨.none _, .none _⟩
  | succ budget ih =>
    obtain ⟨budget', rfl, hbudget⟩ := exists_budget hle
    have hread : ReadAlike budget budget' := ih hbudget
    intro i i' done h
    exact ⟨readAlternatives_succ hread done h, readSequence_succ hread done h⟩

/-! ## The text of a pattern in a group -/

/-- What is read of a text in a group behind the start of the text: the assertion, and the group. -/
theorem readSequence_anchored (budget : Nat) (cs : List Char) :
    readSequence (budget + 2) [] { rest := '\\' :: 'A' :: '(' :: '?' :: ':' :: cs } =
      (readAlternatives budget [] { rest := cs }).bind fun p =>
        match p.2.rest with
        | ')' :: _ => readSequence budget [.group {} p.1, .assertion .textStart]
            { p.2.bump with ignoreBlanks := false }
        | _ => none := by
  have hatom : readSequence (budget + 2) [] { rest := '\\' :: 'A' :: '(' :: '?' :: ':' :: cs } =
      readSequence (budget + 1) [.assertion .textStart] { rest := '(' :: '?' :: ':' :: cs } := by
    rfl
  have hgroup : readSequence (budget + 1) [.assertion .textStart]
        { rest := '(' :: '?' :: ':' :: cs } =
      ((readAlternatives budget [] { rest := cs }).bind fun p =>
        match p.2.rest with
        | ')' :: _ => some (p.1, { p.2.bump with ignoreBlanks := false })
        | _ => none).bind fun p =>
          readSequence budget [.group {} p.1, .assertion .textStart] p.2 := by
    rfl
  rw [hatom, hgroup, Option.bind_assoc]
  refine Option.bind_congr fun p _ => ?_
  split
  · rfl
  · rfl

/-- A text that is read to its end is read as before in a group behind the start of the text, or it
is not read, since a comment has taken the parenthesis in. -/
theorem readAlternatives_anchored {e : Expr}
    (h : readAlternatives budget [] { rest := cs } = some (e, i)) (hrest : i.rest = [])
    (hle : budget ≤ budget') :
    readAlternatives (budget' + 4) []
        { rest := '\\' :: 'A' :: '(' :: '?' :: ':' :: (cs ++ [')']) } = none ∨
      ∃ j : Input, j.rest = [] ∧
        readAlternatives (budget' + 4) []
            { rest := '\\' :: 'A' :: '(' :: '?' :: ':' :: (cs ++ [')']) } =
          some (.concat [.assertion .textStart, .group {} e], j) := by
  have hread := (readAlike (Nat.le_succ_of_le hle) [] (.kept { rest := cs })).1
  rw [h] at hread
  rw [readAlternatives, readSequence_anchored]
  generalize readAlternatives (budget' + 1) [] { rest := cs ++ [')'] } = o at hread ⊢
  cases hread with
  | some hread =>
    obtain ⟨_, hi⟩ := hread
    cases hi with
    | lost =>
      left
      rw [Option.bind_some, hrest]
      rfl
    | kept =>
      right
      rw [Option.bind_some, hrest]
      exact ⟨_, rfl, rfl⟩

theorem toList_anchoredSource (source : String) :
    (Pattern.anchoredSource source).toList =
      '\\' :: 'A' :: '(' :: '?' :: ':' :: (source.toList ++ [')']) := by
  rw [Pattern.anchoredSource, String.toList_append, String.toList_append]
  rfl

/-- **A text in parentheses is read as before, or not at all.** What comes out is the expression of
the text in a group, behind the start of the text. -/
theorem read?_anchoredSource {source : String} {e : Expr} (h : Expr.read? source = some e) :
    Expr.read? (Pattern.anchoredSource source) = none ∨
      Expr.read? (Pattern.anchoredSource source) =
        some (.concat [.assertion .textStart, .group {} e]) := by
  unfold Expr.read? at h ⊢
  obtain ⟨⟨_, i⟩, hread, h⟩ := Option.bind_eq_some_iff.1 h
  dsimp only at h
  split at h
  · next hend =>
    cases h
    rw [Bool.and_eq_true, List.isEmpty_iff] at hend
    have hlength : 2 * (Pattern.anchoredSource source).toList.length + 2 =
        2 * source.toList.length + 10 + 4 := by
      rw [toList_anchoredSource]
      simp
      omega
    dsimp only
    rw [hlength, toList_anchoredSource]
    have hle : 2 * source.toList.length + 2 ≤ 2 * source.toList.length + 10 := by omega
    rcases readAlternatives_anchored hread hend.1 hle with hnone | ⟨j, hj, hsome⟩
    · left
      rw [hnone]
      rfl
    · rw [hsome, Option.bind_eq_bind, Option.bind_some]
      dsimp only
      split
      · exact .inr rfl
      · exact .inl rfl
  · cases h

end Tint.Regex
