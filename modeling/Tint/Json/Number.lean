/-!
# Numbers as written

A number keeps its digits as they were written. Whether it can be read as a binary floating-point
number of 64 bits is asked in two ways. `Number.isFinite` is exact: the nearest such number is not
infinite. `Number.isReadable` is the rule by which numbers are read: of the digits only those are
kept that fit into 64 bits, and what is kept is rounded, multiplied by the rounded power of ten,
and rounded again. At the very end of the range the two differ.
-/

namespace Tint.Json

/-- A number as written: its sign, its digits before and after the point, and its exponent. -/
structure Number where
  negative : Bool := false
  whole : List Char
  /-- The digits after the point, if there is one. -/
  fraction : Option (List Char) := none
  /-- The power of ten after the letter, if there is one. -/
  exponent : Option Int := none
deriving DecidableEq, Repr

/-- The value of a decimal digit. -/
def digitValue (c : Char) : Nat := c.toNat - '0'.toNat

/-- The value of decimal digits. -/
def decimalValue (digits : List Char) : Nat := digits.foldl (fun n c => n * 10 + digitValue c) 0

namespace Number

/-- The integer as a number. -/
def ofInt (i : Int) : Number := { negative := decide (i < 0), whole := Nat.toDigits 10 i.natAbs }

/-- Whether a number is written without a point and without an exponent. -/
def isIntegral (n : Number) : Bool := n.fraction.isNone && n.exponent.isNone

/-- The integer that a number is, if it is written as one. A negative zero is none. -/
def int? (n : Number) : Option Int :=
  if n.isIntegral then
    let value := decimalValue n.whole
    if n.negative then if value = 0 then none else some (-(value : Int)) else some value
  else none

/-! ## The range of floating-point numbers -/

/-- The least natural number that is too large for a binary floating-point number of 64 bits. -/
def tooLarge : Nat := 1 <<< 1024 - 1 <<< 970

/-- Whether the nearest binary floating-point number of 64 bits is finite. -/
def isFinite (n : Number) : Bool :=
  let fraction := n.fraction.getD []
  let digits := decimalValue (n.whole ++ fraction)
  let scale := n.exponent.getD 0 - (fraction.length : Int)
  if digits = 0 then true
  else
    let order := (Nat.toDigits 10 digits).length + scale
    if order < 300 then true
    else if 320 < order then false
    else if 0 ≤ scale then digits * Nat.pow 10 scale.toNat < tooLarge
    else digits < tooLarge * Nat.pow 10 (-scale).toNat

/-- The number of 53 binary digits that is nearest to a natural number, of two the even one. -/
def roundBinary (n : Nat) : Nat :=
  if n < 1 <<< 53 then n
  else
    let unit := 1 <<< (n.log2 - 52)
    let quotient := n / unit
    let rest := n % unit
    if rest * 2 < unit || (rest * 2 = unit && quotient % 2 = 0) then quotient * unit
    else (quotient + 1) * unit

/-- Append digits to a number as long as it fits into 64 bits; gives the digits left over too. -/
def fill (n : Nat) : List Char → Nat × List Char
  | [] => (n, [])
  | c :: cs =>
    let m := n * 10 + digitValue c
    if m < 1 <<< 64 then fill m cs else (n, c :: cs)

/-- The digits that are kept, and the power of ten that they are multiplied by. Of the digits left
over those before the point count by their number, those after it not at all. -/
def kept (n : Number) : Nat × Int :=
  let fraction := n.fraction.getD []
  let (significand, dropped) := fill 0 n.whole
  let (significand, lost) := fill significand fraction
  (significand,
    dropped.length - ((fraction.length - lost.length : Nat) : Int) + n.exponent.getD 0)

/-- Whether a number can be read as a floating-point number. -/
def isReadable (n : Number) : Bool :=
  let (significand, scale) := n.kept
  if significand = 0 || scale < 0 then true
  else if 308 < scale then false
  else decide (roundBinary significand * roundBinary (Nat.pow 10 scale.toNat) < tooLarge)

end Number

end Tint.Json
