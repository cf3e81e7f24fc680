import Tint.Text

/-!
# Spans

A span is a stretch of a text with the class of its content. Spans cover a text when each starts
where the one before it stops, none is empty, and together they reach from the start of the text
to its end.

A range gives a stretch by two 32-bit places; larger places are cut down to the largest. A span
that would stop beyond the places of 64 bits has no stop and no range.
-/

namespace Tint

/-! ## Ranges -/

/-- A stretch of a text by its places, which fit into 32 bits. -/
structure TextRange where
  start : Nat
  stop : Nat
deriving DecidableEq, Repr

namespace TextRange

/-- The largest place of a range. -/
def maxPlace : Nat := 1 <<< 32 - 1

/-- A place as a range holds it. -/
def place (offset : Nat) : Nat := Nat.min offset maxPlace

/-- The range between two places; nothing if they are in the wrong order. -/
def between? (start stop : Nat) : Option TextRange :=
  if place start ≤ place stop then some ⟨place start, place stop⟩ else none

/-- The written form of a range. -/
def text (r : TextRange) : String := toString r.start ++ ".." ++ toString r.stop

theorem place_mono {start stop : Nat} (h : start ≤ stop) : place start ≤ place stop := by
  simp only [place, Nat.min_def]
  split <;> split <;> omega

theorem between?_of_le {start stop : Nat} (h : start ≤ stop) :
    between? start stop = some ⟨place start, place stop⟩ := by
  simp [between?, place_mono h]

end TextRange

/-! ## Spans -/

/-- The class of text without a class. -/
def plainClass : String := ""

/-- A stretch of a text: its class, its content and the place where it starts. -/
structure Span where
  className : String
  text : String
  offset : Nat
deriving DecidableEq, Repr

namespace Span

/-- The length of a span in octets. -/
def size (s : Span) : Nat := Text.size s.text.toList

/-- The place where a span stops. -/
def stop (s : Span) : Nat := s.offset + s.size

/-- The place where a span stops, if it fits into 64 bits. -/
def stop? (s : Span) : Option Nat := if s.stop < 1 <<< 64 then some s.stop else none

def isEmpty (s : Span) : Bool := s.text.isEmpty

/-- Whether a span has no class. -/
def isPlain (s : Span) : Bool := s.className == plainClass

/-- The stretch of a span, as a range. -/
def range? (s : Span) : Option TextRange := s.stop?.bind (TextRange.between? s.offset)

theorem range?_of_stop_lt {s : Span} (h : s.stop < 1 <<< 64) :
    s.range? = some ⟨TextRange.place s.offset, TextRange.place s.stop⟩ := by
  simp only [range?, stop?, if_pos h, Option.bind_some]
  exact TextRange.between?_of_le (Nat.le_add_right s.offset s.size)

end Span

/-- Whether spans cover what is left of a text from `position` on. -/
def coversFrom (text : List Char) (position : Nat) : List Span → Bool
  | [] => position == Text.size text
  | s :: rest =>
    s.offset == position && !s.isEmpty &&
      (Text.slice? text s.offset s.stop == some s.text.toList) &&
      coversFrom text s.stop rest

/-- Whether spans cover a text. -/
def covers (text : String) (spans : List Span) : Bool := coversFrom text.toList 0 spans

end Tint
