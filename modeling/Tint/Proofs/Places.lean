import Mathlib.Tactic.Common
import Tint.Text

/-!
# Places and stretches of a text

A place cuts a text in two, and its number is the size of the first part. Everything that
`Tint.Text` computes by counting octets is such a cut: `dropTo?` gives the second part, `takeTo?`
the first, and `slice?` what lies between two cuts. The three lemmas `dropTo?_eq_some_iff`,
`takeTo?_eq_some_iff` and `slice?_eq_some_iff` say so; after them no proof counts octets again.

A cut is determined by its number (`append_inj_of_size`), since no character has size zero.
-/

namespace Tint.Text

variable {cs pre post : List Char} {a b c n : Nat}

/-! ## Sizes -/

@[simp] theorem size_nil : size [] = 0 := rfl

@[simp] theorem size_cons (x : Char) (cs : List Char) : size (x :: cs) = x.utf8Size + size cs := rfl

@[simp] theorem size_eq_zero : size cs = 0 ↔ cs = [] := by
  cases cs with
  | nil => simp
  | cons x cs =>
    have := x.utf8Size_pos
    simp only [size_cons, reduceCtorEq, iff_false]
    omega

theorem size_pos (h : cs ≠ []) : 0 < size cs :=
  Nat.pos_of_ne_zero fun h₀ => h (size_eq_zero.1 h₀)

theorem append_inj_of_size {pre' post' : List Char} (h : pre ++ post = pre' ++ post')
    (hs : size pre = size pre') : pre = pre' ∧ post = post' := by
  induction pre generalizing pre' with
  | nil =>
    have : pre' = [] := size_eq_zero.1 hs.symm
    subst this
    exact ⟨rfl, h⟩
  | cons x pre ih =>
    cases pre' with
    | nil => exact absurd (size_eq_zero.1 hs) (by simp)
    | cons y pre' =>
      obtain ⟨rfl, htail⟩ := List.cons.inj h
      obtain ⟨rfl, rfl⟩ := ih htail (Nat.add_left_cancel hs)
      exact ⟨rfl, rfl⟩

theorem exists_append_of_size_le {pre' post' : List Char} (h : pre ++ post = pre' ++ post')
    (hs : size pre ≤ size pre') : ∃ mid, pre' = pre ++ mid ∧ post = mid ++ post' := by
  rcases List.append_eq_append_iff.1 h with ⟨mid, h₁, h₂⟩ | ⟨mid, h₁, h₂⟩
  · exact ⟨mid, h₁, h₂⟩
  · have : mid = [] := by
      rw [h₁, size_append] at hs
      exact size_eq_zero.1 (by omega)
    subst this
    exact ⟨[], by simpa using h₁.symm, by simpa using h₂.symm⟩

/-- Of two members that a list is cut at, one stands in front of the other, or they are the same. -/
theorem eq_or_mem_of_cut {α : Type} {before after before' after' : List α} {x y : α}
    (h : before ++ x :: after = before' ++ y :: after') : x = y ∨ x ∈ before' ∨ y ∈ before := by
  rcases List.append_eq_append_iff.1 h with ⟨mid, rfl, hmid⟩ | ⟨mid, rfl, hmid⟩
  · cases mid with
    | nil => exact .inl (List.cons.inj hmid).1
    | cons z mid =>
      obtain ⟨rfl, -⟩ := List.cons.inj hmid
      exact .inr (.inl (by simp))
  · cases mid with
    | nil => exact .inl (List.cons.inj hmid).1.symm
    | cons z mid =>
      obtain ⟨rfl, -⟩ := List.cons.inj hmid
      exact .inr (.inr (by simp))

/-! ## What cuts give -/

@[simp] theorem dropTo?_append (pre post : List Char) :
    dropTo? (pre ++ post) (size pre) = some post := by
  induction pre with
  | nil => cases post <;> rfl
  | cons x pre ih =>
    have hx := x.utf8Size_pos
    obtain ⟨m, hm⟩ : ∃ m, size (x :: pre) = m + 1 := ⟨size (x :: pre) - 1, by simp; omega⟩
    have hle : x.utf8Size ≤ m + 1 := by rw [← hm]; simp
    rw [List.cons_append, hm, dropTo?, if_pos hle, ← ih]
    congr 1
    rw [← hm, size_cons]
    omega

@[simp] theorem takeTo?_append (pre post : List Char) :
    takeTo? (pre ++ post) (size pre) = some pre := by
  induction pre with
  | nil => cases post <;> rfl
  | cons x pre ih =>
    have hx := x.utf8Size_pos
    obtain ⟨m, hm⟩ : ∃ m, size (x :: pre) = m + 1 := ⟨size (x :: pre) - 1, by simp; omega⟩
    have hle : x.utf8Size ≤ m + 1 := by rw [← hm]; simp
    have hrest : m + 1 - x.utf8Size = size pre := by rw [← hm, size_cons]; omega
    rw [List.cons_append, hm, takeTo?, if_pos hle, hrest, ih]
    rfl

@[simp] theorem splitAt_append_size (pre post : List Char) :
    splitAt (pre ++ post) (size pre) = (pre, post) := by
  induction pre with
  | nil =>
    cases post with
    | nil => rfl
    | cons x post =>
      have hx := x.utf8Size_pos
      rw [List.nil_append, size_nil, splitAt, if_neg (by omega)]
  | cons x pre ih =>
    have hrest : size (x :: pre) - x.utf8Size = size pre := by rw [size_cons]; omega
    rw [List.cons_append, splitAt, if_pos (by simp), hrest, ih]

theorem dropTo?_eq_some_iff :
    dropTo? cs n = some post ↔ ∃ pre, cs = pre ++ post ∧ size pre = n := by
  constructor
  · intro h
    induction cs generalizing n with
    | nil =>
      cases n with
      | zero => exact ⟨[], by simpa [dropTo?] using h, rfl⟩
      | succ n => simp [dropTo?] at h
    | cons x cs ih =>
      cases n with
      | zero => exact ⟨[], by simpa [dropTo?] using h, rfl⟩
      | succ n =>
        simp only [dropTo?] at h
        split at h
        · next hx =>
          obtain ⟨pre, rfl, hs⟩ := ih h
          exact ⟨x :: pre, rfl, by rw [size_cons, hs]; omega⟩
        · cases h
  · rintro ⟨pre, rfl, rfl⟩
    exact dropTo?_append pre post

theorem eq_size_of_dropTo? (h : dropTo? cs n = some []) : n = size cs := by
  obtain ⟨pre, rfl, rfl⟩ := dropTo?_eq_some_iff.1 h
  rw [List.append_nil]

theorem lt_size_of_dropTo? {x : Char} (h : dropTo? cs n = some (x :: post)) : n < size cs := by
  obtain ⟨pre, rfl, rfl⟩ := dropTo?_eq_some_iff.1 h
  have := x.utf8Size_pos
  rw [size_append, size_cons]
  omega

theorem takeTo?_eq_some_iff :
    takeTo? cs n = some pre ↔ ∃ post, cs = pre ++ post ∧ size pre = n := by
  constructor
  · intro h
    induction cs generalizing n pre with
    | nil =>
      cases n with
      | zero => simp [takeTo?] at h; subst h; exact ⟨[], rfl, rfl⟩
      | succ n => simp [takeTo?] at h
    | cons x cs ih =>
      cases n with
      | zero => simp [takeTo?] at h; subst h; exact ⟨x :: cs, rfl, rfl⟩
      | succ n =>
        simp only [takeTo?] at h
        split at h
        · next hx =>
          obtain ⟨u, hu, rfl⟩ := Option.map_eq_some_iff.1 h
          obtain ⟨post, rfl, hs⟩ := ih hu
          exact ⟨post, rfl, by rw [size_cons, hs]; omega⟩
        · cases h
  · rintro ⟨post, rfl, rfl⟩
    exact takeTo?_append pre post

theorem slice?_eq_some_iff {w : List Char} :
    slice? cs a b = some w ↔ ∃ pre post, cs = pre ++ w ++ post ∧ size pre = a ∧ a + size w = b := by
  unfold slice?
  split
  · next hab =>
    simp only [Option.bind_eq_some_iff, dropTo?_eq_some_iff, takeTo?_eq_some_iff]
    constructor
    · rintro ⟨_, ⟨pre, rfl, hp⟩, post, rfl, hw⟩
      exact ⟨pre, post, by simp, hp, by omega⟩
    · rintro ⟨pre, post, rfl, hp, hw⟩
      exact ⟨w ++ post, ⟨pre, by simp, hp⟩, post, rfl, by omega⟩
  · next hab =>
    constructor
    · exact fun h => by cases h
    · rintro ⟨pre, post, -, -, hw⟩
      exact absurd (hw ▸ Nat.le_add_right ..) hab

theorem between_of_slice? {w : List Char} (h : slice? cs a b = some w) : between cs a b = w := by
  rw [between, h]
  rfl

/-! ## Places -/

/-- A place of a text: its start, its end, or a place between two of its characters. -/
def IsPlace (cs : List Char) (n : Nat) : Prop := ∃ pre post, cs = pre ++ post ∧ size pre = n

theorem isPlace_iff_dropTo? : IsPlace cs n ↔ ∃ post, dropTo? cs n = some post := by
  simp only [dropTo?_eq_some_iff]
  exact ⟨fun ⟨pre, post, h⟩ => ⟨post, pre, h⟩, fun ⟨post, pre, h⟩ => ⟨pre, post, h⟩⟩

instance : Decidable (IsPlace cs n) :=
  decidable_of_iff ((dropTo? cs n).isSome = true)
    (Option.isSome_iff_exists.trans isPlace_iff_dropTo?.symm)

theorem isPlace_of_dropTo? (h : dropTo? cs n = some post) : IsPlace cs n :=
  isPlace_iff_dropTo?.2 ⟨post, h⟩

theorem isPlace_zero (cs : List Char) : IsPlace cs 0 := ⟨[], cs, rfl, rfl⟩

theorem isPlace_size (cs : List Char) : IsPlace cs (size cs) := ⟨cs, [], by simp, rfl⟩

theorem IsPlace.le_size (h : IsPlace cs n) : n ≤ size cs := by
  obtain ⟨pre, post, rfl, rfl⟩ := h
  simp

/-! ## Stretches between places -/

theorem exists_slice? (ha : IsPlace cs a) (hb : IsPlace cs b) (h : a ≤ b) :
    ∃ w, slice? cs a b = some w := by
  obtain ⟨pre, post, hcs, rfl⟩ := ha
  obtain ⟨pre', post', hcs', rfl⟩ := hb
  obtain ⟨mid, rfl, rfl⟩ := exists_append_of_size_le (hcs.symm.trans hcs') h
  exact ⟨mid, slice?_eq_some_iff.2 ⟨pre, post', by simpa using hcs, rfl, by simp⟩⟩

theorem isPlace_left_of_slice? {w : List Char} (h : slice? cs a b = some w) : IsPlace cs a := by
  obtain ⟨pre, post, rfl, hp, -⟩ := slice?_eq_some_iff.1 h
  exact ⟨pre, w ++ post, by simp, hp⟩

theorem isPlace_right_of_slice? {w : List Char} (h : slice? cs a b = some w) : IsPlace cs b := by
  obtain ⟨pre, post, rfl, rfl, rfl⟩ := slice?_eq_some_iff.1 h
  exact ⟨pre ++ w, post, by simp, by simp⟩

theorem size_of_slice? {w : List Char} (h : slice? cs a b = some w) : a + size w = b := by
  obtain ⟨-, -, -, -, h⟩ := slice?_eq_some_iff.1 h
  exact h

theorem slice?_append {u w : List Char} (hu : slice? cs a b = some u)
    (hw : slice? cs b c = some w) : slice? cs a c = some (u ++ w) := by
  obtain ⟨pre, post, hcs, rfl, rfl⟩ := slice?_eq_some_iff.1 hu
  obtain ⟨pre', post', hcs', hp', rfl⟩ := slice?_eq_some_iff.1 hw
  have hcut : (pre ++ u) ++ post = pre' ++ (w ++ post') := by
    rw [← hcs, hcs', List.append_assoc]
  obtain ⟨rfl, rfl⟩ := append_inj_of_size hcut (by simp [hp'])
  exact slice?_eq_some_iff.2 ⟨pre, post', by simpa using hcs, rfl, by simp [Nat.add_assoc]⟩

theorem slice?_zero_size (cs : List Char) : slice? cs 0 (size cs) = some cs :=
  slice?_eq_some_iff.2 ⟨[], [], by simp, rfl, by simp⟩

/-- A stretch of a stretch. -/
theorem slice?_of_slice?_append {u w : List Char} (h : slice? cs a c = some (u ++ w)) :
    slice? cs a (a + size u) = some u ∧ slice? cs (a + size u) c = some w := by
  obtain ⟨pre, post, hcs, rfl, rfl⟩ := slice?_eq_some_iff.1 h
  constructor
  · exact slice?_eq_some_iff.2 ⟨pre, w ++ post, by simpa using hcs, rfl, rfl⟩
  · exact slice?_eq_some_iff.2
      ⟨pre ++ u, post, by simpa using hcs, by simp, by simp [Nat.add_assoc]⟩

end Tint.Text
