/-!
# Places in a text

A text is searched as a list of characters. Its places are counted in octets of its UTF-8 form,
and only the places between two characters, at the start and at the end can be searched from.
-/

namespace Tint.Text

/-- The size of a text in octets. -/
def size : List Char → Nat
  | [] => 0
  | c :: cs => c.utf8Size + size cs

/-- The text from a place on; nothing inside a character or past the end. -/
def dropTo? : List Char → Nat → Option (List Char)
  | cs, 0 => some cs
  | [], _ + 1 => none
  | c :: cs, n + 1 => if c.utf8Size ≤ n + 1 then dropTo? cs (n + 1 - c.utf8Size) else none

/-- The text up to a place; nothing inside a character or past the end. -/
def takeTo? : List Char → Nat → Option (List Char)
  | _, 0 => some []
  | [], _ + 1 => none
  | c :: cs, n + 1 =>
    if c.utf8Size ≤ n + 1 then (takeTo? cs (n + 1 - c.utf8Size)).map (c :: ·) else none

/-- The text between two places; nothing if one of them lies inside a character or past the end,
or if they are in the wrong order. -/
def slice? (cs : List Char) (start stop : Nat) : Option (List Char) :=
  if start ≤ stop then (dropTo? cs start).bind fun rest => takeTo? rest (stop - start) else none

/-- The characters that fit into so many octets, and the others. -/
def splitAt : List Char → Nat → List Char × List Char
  | [], _ => ([], [])
  | c :: cs, n =>
    if c.utf8Size ≤ n then
      let (taken, dropped) := splitAt cs (n - c.utf8Size)
      (c :: taken, dropped)
    else ([], c :: cs)

/-- The text between two places; empty where there is none. -/
def between (cs : List Char) (start stop : Nat) : List Char := (slice? cs start stop).getD []

@[simp] theorem splitAt_append (cs : List Char) (n : Nat) :
    (splitAt cs n).1 ++ (splitAt cs n).2 = cs := by
  induction cs generalizing n with
  | nil => rfl
  | cons c cs ih =>
    simp only [splitAt]
    split
    · simp [ih]
    · rfl

@[simp] theorem size_append (a b : List Char) : size (a ++ b) = size a + size b := by
  induction a with
  | nil => simp [size]
  | cons c a ih => simp [size, ih]; omega

end Tint.Text
