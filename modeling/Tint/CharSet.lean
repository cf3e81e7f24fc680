/-!
# Sets of characters

**The representation.** A set is kept as its list of *bounds*: the code points, in ascending
order, at which membership flips. `[48, 58]` is the set of ASCII digits. So membership is a walk
that stops at the first bound above the character, every set has one representation up to
equality of bounds, and all Boolean operations are one merge of two bound lists.

**Main facts.** `mem_combine`: a Boolean operation on sets is that operation on membership.
`mem_union`, `mem_inter`, `mem_diff`, `mem_symmDiff` and `mem_compl` are its instances.
-/

namespace Tint

/-! ## Bound lists -/

namespace Bounds

/-- Whether `c` lies inside, when the walk starts inside or outside as `inside` says. -/
def memFrom (inside : Bool) : List Nat → Nat → Bool
  | [], _ => inside
  | b :: bs, c => if c < b then inside else memFrom (!inside) bs c

/-- Strictly ascending, and above `low`. -/
def ascendsFrom (low : Nat) : List Nat → Bool
  | [] => true
  | b :: bs => decide (low ≤ b) && ascendsFrom (b + 1) bs

/-- Put the bound `x` in front if membership flips there. -/
def flip (was is : Bool) (x : Nat) (rest : List Nat) : List Nat :=
  if was = is then rest else x :: rest

/-- Merge one bound `x` of the left list with the right list; `k` merges what follows `x`. -/
def mergeHead (f : Bool → Bool → Bool) (x : Nat) (k : List Nat → Bool → Bool → List Nat) :
    List Nat → Bool → Bool → List Nat
  | [], a, b => flip (f a b) (f (!a) b) x (k [] (!a) b)
  | y :: ys, a, b =>
    if x < y then flip (f a b) (f (!a) b) x (k (y :: ys) (!a) b)
    else if y < x then flip (f a b) (f a (!b)) y (mergeHead f x k ys a (!b))
    else flip (f a b) (f (!a) (!b)) x (k ys (!a) (!b))

/-- What is left of the right list when the left list has ended. -/
def mergeTail (f : Bool → Bool → Bool) : List Nat → Bool → Bool → List Nat
  | [], _, _ => []
  | y :: ys, a, b => flip (f a b) (f a (!b)) y (mergeTail f ys a (!b))

/-- The bounds of `f` applied pointwise; `a` and `b` say whether the walk is inside. -/
def merge (f : Bool → Bool → Bool) : List Nat → List Nat → Bool → Bool → List Nat
  | [] => mergeTail f
  | x :: xs => mergeHead f x (merge f xs)

/-- The bounds of codes that are in order. -/
def ofCodes : List Nat → List Nat
  | [] => []
  | c :: cs =>
    match ofCodes cs with
    | b :: bs => if b = c then b :: bs else if b = c + 1 then c :: bs else c :: (c + 1) :: b :: bs
    | [] => [c, c + 1]

theorem memFrom_of_ascends {low c : Nat} {bs : List Nat} (i : Bool)
    (h : ascendsFrom low bs = true) (hc : c < low) : memFrom i bs c = i := by
  cases bs with
  | nil => rfl
  | cons b bs =>
    simp only [ascendsFrom, Bool.and_eq_true, decide_eq_true_eq] at h
    simp [memFrom, show c < b by omega]

theorem ascendsFrom_mono {low low' : Nat} {bs : List Nat} (h : ascendsFrom low bs = true)
    (hl : low' ≤ low) : ascendsFrom low' bs = true := by
  cases bs with
  | nil => rfl
  | cons b bs =>
    simp only [ascendsFrom, Bool.and_eq_true, decide_eq_true_eq] at h ⊢
    exact ⟨by omega, h.2⟩

theorem ascendsFrom_flip {was is : Bool} {low x : Nat} {rest : List Nat} (hx : low ≤ x)
    (h : ascendsFrom (x + 1) rest = true) : ascendsFrom low (flip was is x rest) = true := by
  unfold flip
  split
  · exact ascendsFrom_mono h (by omega)
  · simp [ascendsFrom, hx, h]

theorem ascendsFrom_mergeTail (f : Bool → Bool → Bool) (low : Nat) (ys : List Nat) (a b : Bool)
    (hy : ascendsFrom low ys = true) : ascendsFrom low (mergeTail f ys a b) = true := by
  induction ys generalizing low b with
  | nil => rfl
  | cons y ys ih =>
    simp only [ascendsFrom, Bool.and_eq_true, decide_eq_true_eq] at hy
    exact ascendsFrom_flip hy.1 (ih _ _ hy.2)

theorem ascendsFrom_merge (f : Bool → Bool → Bool) (low : Nat) (xs ys : List Nat) (a b : Bool)
    (hx : ascendsFrom low xs = true) (hy : ascendsFrom low ys = true) :
    ascendsFrom low (merge f xs ys a b) = true := by
  induction xs generalizing low ys a b with
  | nil => exact ascendsFrom_mergeTail f low ys a b hy
  | cons x xs ih =>
    simp only [ascendsFrom, Bool.and_eq_true, decide_eq_true_eq] at hx
    simp only [merge]
    induction ys generalizing low a b with
    | nil => exact ascendsFrom_flip hx.1 (ih _ _ _ _ hx.2 rfl)
    | cons y ys ihy =>
      have hy' := hy
      simp only [ascendsFrom, Bool.and_eq_true, decide_eq_true_eq] at hy'
      simp only [mergeHead]
      split
      · next h =>
        refine ascendsFrom_flip hx.1 (ih _ _ _ _ hx.2 ?_)
        simp [ascendsFrom, hy'.2]; omega
      · split
        · next h1 h2 => exact ascendsFrom_flip hy'.1 (ihy _ _ _ hy'.2 ⟨by omega, hx.2⟩)
        · next h1 h2 =>
          have : x = y := by omega
          subst this
          exact ascendsFrom_flip hx.1 (ih _ _ _ _ hx.2 hy'.2)

theorem memFrom_flip {was is : Bool} {x c : Nat} {rest : List Nat}
    (h : ascendsFrom (x + 1) rest = true) :
    memFrom was (flip was is x rest) c = if c < x then was else memFrom is rest c := by
  unfold flip
  split
  · next e =>
    subst e
    split
    · next hc => exact memFrom_of_ascends _ h (by omega)
    · rfl
  · next e =>
    have : is = !was := by cases was <;> cases is <;> simp_all
    simp [memFrom, this]

theorem memFrom_mergeTail (f : Bool → Bool → Bool) (low c : Nat) (ys : List Nat) (a b : Bool)
    (hy : ascendsFrom low ys = true) :
    memFrom (f a b) (mergeTail f ys a b) c = f a (memFrom b ys c) := by
  induction ys generalizing low b with
  | nil => rfl
  | cons y ys ih =>
    simp only [ascendsFrom, Bool.and_eq_true, decide_eq_true_eq] at hy
    simp only [mergeTail]
    rw [memFrom_flip (ascendsFrom_mergeTail f _ _ _ _ hy.2), ih _ _ hy.2]
    simp only [memFrom]
    split <;> rfl

theorem memFrom_merge (f : Bool → Bool → Bool) (low c : Nat) (xs ys : List Nat) (a b : Bool)
    (hx : ascendsFrom low xs = true) (hy : ascendsFrom low ys = true) :
    memFrom (f a b) (merge f xs ys a b) c = f (memFrom a xs c) (memFrom b ys c) := by
  induction xs generalizing low ys a b with
  | nil => exact memFrom_mergeTail f low c ys a b hy
  | cons x xs ih =>
    have hx' := hx
    simp only [ascendsFrom, Bool.and_eq_true, decide_eq_true_eq] at hx'
    simp only [merge]
    induction ys generalizing low a b with
    | nil =>
      simp only [mergeHead]
      rw [memFrom_flip (ascendsFrom_merge f _ _ _ _ _ hx'.2 rfl), ih _ _ _ _ hx'.2 rfl]
      simp only [memFrom]
      split <;> rfl
    | cons y ys ihy =>
      have hy' := hy
      simp only [ascendsFrom, Bool.and_eq_true, decide_eq_true_eq] at hy'
      simp only [mergeHead]
      split
      · next h =>
        have hyx : ascendsFrom (x + 1) (y :: ys) = true := by
          simp [ascendsFrom, hy'.2]; omega
        rw [memFrom_flip (ascendsFrom_merge f _ _ _ _ _ hx'.2 hyx), ih _ _ _ _ hx'.2 hyx]
        simp only [memFrom]
        by_cases hc : c < x
        · simp [hc, show c < y by omega]
        · simp [hc]
      · split
        · next h1 h2 =>
          have hxy : ascendsFrom (y + 1) (x :: xs) = true := by
            simp [ascendsFrom, hx'.2]; omega
          have hm : ascendsFrom (y + 1) (mergeHead f x (merge f xs) ys a (!b)) = true :=
            ascendsFrom_merge f (y + 1) (x :: xs) ys a (!b) hxy hy'.2
          rw [memFrom_flip hm, ihy (y + 1) _ _ hxy hy'.2 ⟨by omega, hx'.2⟩]
          simp only [memFrom]
          by_cases hc : c < y
          · simp [hc, show c < x by omega]
          · simp [hc]
        · next h1 h2 =>
          have : x = y := by omega
          subst this
          rw [memFrom_flip (ascendsFrom_merge f _ _ _ _ _ hx'.2 hy'.2), ih _ _ _ _ hx'.2 hy'.2]
          simp only [memFrom]
          split <;> rfl

end Bounds

/-! ## Sets -/

/-- A set of characters, as the ascending code points at which membership flips. -/
structure CharSet where
  bounds : List Nat
  ascends : Bounds.ascendsFrom 0 bounds = true := by decide +kernel
deriving DecidableEq

namespace CharSet

/-- Membership of a code point. -/
def memCode (s : CharSet) (c : Nat) : Bool := Bounds.memFrom false s.bounds c

/-- Membership of a character. -/
def mem (s : CharSet) (c : Char) : Bool := s.memCode c.toNat

/-- The empty set. -/
def empty : CharSet := ⟨[], rfl⟩

/-- Every character: all code points but the surrogates. -/
def all : CharSet := ⟨[0, 0xD800, 0xE000, 0x110000], by decide⟩

/-- The set with these bounds, and the empty set if they do not ascend. -/
def ofBounds (bounds : List Nat) : CharSet :=
  if h : Bounds.ascendsFrom 0 bounds = true then ⟨bounds, h⟩ else empty

/-- The set of these code points. -/
def ofCodes (codes : List Nat) : CharSet :=
  ofBounds (Bounds.ofCodes (codes.mergeSort fun a b => decide (a ≤ b)))

/-- A Boolean operation, which must keep what is outside both sets outside. -/
def combine (f : Bool → Bool → Bool) (s t : CharSet) : CharSet :=
  ⟨Bounds.merge f s.bounds t.bounds false false,
    Bounds.ascendsFrom_merge f 0 _ _ _ _ s.ascends t.ascends⟩

def union (s t : CharSet) : CharSet := combine (· || ·) s t

def inter (s t : CharSet) : CharSet := combine (· && ·) s t

def diff (s t : CharSet) : CharSet := combine (fun a b => a && !b) s t

def symmDiff (s t : CharSet) : CharSet := combine (· ^^ ·) s t

/-- All characters that are not in the set. -/
def compl (s : CharSet) : CharSet := all.diff s

/-- The code points from `lo` to `hi`, both included; empty when `hi < lo`. -/
def codes (lo hi : Nat) : CharSet :=
  if h : lo ≤ hi then ⟨[lo, hi + 1], by simp [Bounds.ascendsFrom]; omega⟩ else empty

/-- The characters from `lo` to `hi`, both included. -/
def range (lo hi : Char) : CharSet := (codes lo.toNat hi.toNat).inter all

/-- The set of one character. -/
def singleton (c : Char) : CharSet := codes c.toNat c.toNat

def isEmpty (s : CharSet) : Bool := s.bounds.isEmpty

/-- The only member of a set of one character. -/
def single? (s : CharSet) : Option Char :=
  match s.bounds with
  | [lo, hi] => if hi = lo + 1 then some (Char.ofNat lo) else none
  | _ => none

theorem memCode_combine (f : Bool → Bool → Bool) (hf : f false false = false) (s t : CharSet)
    (c : Nat) : (combine f s t).memCode c = f (s.memCode c) (t.memCode c) := by
  have := Bounds.memFrom_merge f 0 c s.bounds t.bounds false false s.ascends t.ascends
  rwa [hf] at this

theorem mem_combine (f : Bool → Bool → Bool) (hf : f false false = false) (s t : CharSet)
    (c : Char) : (combine f s t).mem c = f (s.mem c) (t.mem c) :=
  memCode_combine f hf s t c.toNat

@[simp] theorem mem_union (s t : CharSet) (c : Char) :
    (s.union t).mem c = (s.mem c || t.mem c) := mem_combine _ rfl s t c

@[simp] theorem mem_inter (s t : CharSet) (c : Char) :
    (s.inter t).mem c = (s.mem c && t.mem c) := mem_combine _ rfl s t c

@[simp] theorem mem_diff (s t : CharSet) (c : Char) :
    (s.diff t).mem c = (s.mem c && !t.mem c) := mem_combine _ rfl s t c

@[simp] theorem mem_symmDiff (s t : CharSet) (c : Char) :
    (s.symmDiff t).mem c = (s.mem c ^^ t.mem c) := mem_combine _ rfl s t c

@[simp] theorem mem_empty (c : Char) : empty.mem c = false := rfl

theorem mem_codes (lo hi : Nat) (c : Char) :
    (codes lo hi).mem c = (decide (lo ≤ c.toNat) && decide (c.toNat ≤ hi)) := by
  unfold codes
  by_cases h : lo ≤ hi
  · rw [dif_pos h]
    show Bounds.memFrom false [lo, hi + 1] c.toNat = _
    by_cases h1 : c.toNat < lo
    · rw [Bounds.memFrom, if_pos h1, decide_eq_false (by omega : ¬ lo ≤ c.toNat), Bool.false_and]
    · rw [Bounds.memFrom, if_neg h1, decide_eq_true (by omega : lo ≤ c.toNat), Bool.true_and]
      by_cases h2 : c.toNat < hi + 1
      · rw [Bounds.memFrom, if_pos h2, decide_eq_true (by omega : c.toNat ≤ hi)]
        rfl
      · rw [Bounds.memFrom, if_neg h2, decide_eq_false (by omega : ¬ c.toNat ≤ hi)]
        rfl
  · rw [dif_neg h]
    show false = _
    by_cases h1 : lo ≤ c.toNat
    · rw [decide_eq_false (by omega : ¬ c.toNat ≤ hi), Bool.and_false]
    · rw [decide_eq_false h1, Bool.false_and]

@[simp] theorem mem_all (c : Char) : all.mem c = true := by
  have h : c.toNat < 0xD800 ∨ (0xDFFF < c.toNat ∧ c.toNat < 0x110000) := c.valid
  show Bounds.memFrom false [0, 0xD800, 0xE000, 0x110000] c.toNat = true
  simp only [Bounds.memFrom]
  rcases h with h | ⟨h1, h2⟩
  · rw [if_neg (by omega), if_pos h]
    rfl
  · rw [if_neg (by omega), if_neg (by omega), if_neg (by omega), if_pos h2]
    rfl

@[simp] theorem mem_compl (s : CharSet) (c : Char) : s.compl.mem c = !s.mem c := by
  simp [compl]

@[simp] theorem mem_range (lo hi c : Char) :
    (range lo hi).mem c = (decide (lo.toNat ≤ c.toNat) && decide (c.toNat ≤ hi.toNat)) := by
  simp [range, mem_codes]

@[simp] theorem mem_singleton (x c : Char) : (singleton x).mem c = decide (x = c) := by
  rw [singleton, mem_codes, Bool.eq_iff_iff]
  simp only [Bool.and_eq_true, decide_eq_true_eq]
  constructor
  · rintro ⟨h1, h2⟩
    exact Char.toNat_inj.mp (by omega)
  · rintro rfl
    omega

end CharSet

end Tint
