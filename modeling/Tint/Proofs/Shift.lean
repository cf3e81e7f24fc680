import Tint.Proofs.Memo
import Mathlib.Algebra.Group.Nat.Defs

/-!
# Text behind other text

Put a text behind another one. Then what is found in it is found where it was, with all places moved
by the size of the text in front. This holds of stretches (`slice?_append_add`), of searches, which
see nothing before the place that they are made from (`searchIn_append_add`), and of the spans of a
mode's own text, whose places play no part in how it is cut (`classify_shift`).

A diagnostic holds its places in 32 bits, so it moves with them as long as they fit
(`unterminated?_shift`).
-/

namespace Tint

open Text

variable {k : Nat}

/-! ## Moved places -/

def Found.shift (k : Nat) (f : Found) : Found := ⟨k + f.start, k + f.stop⟩

def Span.shift (k : Nat) (s : Span) : Span := { s with offset := k + s.offset }

def TextRange.shift (k : Nat) (r : TextRange) : TextRange := ⟨k + r.start, k + r.stop⟩

def Diagnostic.shift (k : Nat) (d : Diagnostic) : Diagnostic := { d with range := d.range.shift k }

/-- The error with its place moved, if it has one. -/
def LexError.shift (k : Nat) : LexError → LexError
  | .illegalSequence offset text grammar mode => .illegalSequence (k + offset) text grammar mode
  | .nestingTooDeep grammar depth offset => .nestingTooDeep grammar depth (k + offset)
  | e => e

/-! ## Stretches -/

namespace Text

variable {pre rest : List Char} {a b n : Nat}

theorem dropTo?_append_add (pre rest : List Char) (n : Nat) :
    dropTo? (pre ++ rest) (size pre + n) = dropTo? rest n := by
  ext post
  rw [dropTo?_eq_some_iff, dropTo?_eq_some_iff]
  constructor
  · rintro ⟨front, hcut, hsize⟩
    obtain ⟨mid, rfl, rfl⟩ := exists_append_of_size_le hcut (by omega)
    rw [size_append] at hsize
    exact ⟨mid, rfl, by omega⟩
  · rintro ⟨front, rfl, rfl⟩
    exact ⟨pre ++ front, by simp, size_append pre front⟩

theorem slice?_append_add (pre rest : List Char) (a b : Nat) :
    slice? (pre ++ rest) (size pre + a) (size pre + b) = slice? rest a b := by
  have hlen : size pre + b - (size pre + a) = b - a := by omega
  simp only [slice?, dropTo?_append_add, Nat.add_le_add_iff_left, hlen]

theorem between_append_add (pre rest : List Char) (a b : Nat) :
    between (pre ++ rest) (size pre + a) (size pre + b) = between rest a b := by
  rw [between, slice?_append_add, between]

end Text

/-! ## Searches -/

namespace Pattern

theorem wanted?_add (nonEmpty : Bool) (k position : Nat) (length : Option Nat) :
    wanted? nonEmpty (k + position) length =
      (wanted? nonEmpty position length).map (Found.shift k) := by
  cases length with
  | none => rfl
  | some n =>
    simp only [wanted?, Option.bind_some]
    split
    · rfl
    · simp [Found.shift, Nat.add_assoc]

theorem firstMatch_add (p : Pattern) (nonEmpty : Bool) (before : Option Char) (rest : List Char)
    (k position : Nat) :
    p.firstMatch nonEmpty before rest (k + position) =
      (p.firstMatch nonEmpty before rest position).map (Found.shift k) := by
  induction rest generalizing before position with
  | nil => exact wanted?_add ..
  | cons c cs ih =>
    rw [firstMatch_eq, firstMatch_eq, wanted?_add, Option.map_or]
    congr 1
    rw [laterMatch, laterMatch, Nat.add_assoc, ih]

theorem firstIn_append_add (p : Pattern) (nonEmpty : Bool) (pre text : List Char)
    (position : Nat) :
    ((dropTo? (pre ++ text) (size pre + position)).bind fun rest =>
        p.firstIn nonEmpty rest (size pre + position)) =
      ((dropTo? text position).bind fun rest => p.firstIn nonEmpty rest position).map
        (Found.shift (size pre)) := by
  rw [dropTo?_append_add]
  cases dropTo? text position with
  | none => rfl
  | some rest =>
    simp only [Option.bind_some, firstIn_eq_firstMatch]
    exact p.firstMatch_add nonEmpty none rest (size pre) position

theorem searchIn_append_add (p : Pattern) (slot : Slot) (pre text : List Char) (position : Nat) :
    p.searchIn slot (pre ++ text) (size pre + position) =
      (p.searchIn slot text position).map (Found.shift (size pre)) := by
  cases slot with
  | closer => exact p.firstIn_append_add false pre text position
  | opener | illegal => exact p.firstIn_append_add true pre text position

end Pattern

/-! ## Own text -/

namespace Mode

theorem stretch_shift (className : String) (own : List Char) (k offset : Nat) :
    stretch className own (k + offset) = (stretch className own offset).map (Span.shift k) := by
  unfold stretch
  split
  · rfl
  · rfl

/-- `start` is where the text that waits for a span starts; what is cut does not depend on it. -/
theorem classifyFrom_shift (m : Mode) (budget : Nat) (plain text : List Char) (k start : Nat) :
    m.classifyFrom budget plain text (k + start + size plain) =
      (m.classifyFrom budget plain text (start + size plain)).map (Span.shift k) := by
  induction budget generalizing plain text start with
  | zero =>
    rw [classifyFrom, classifyFrom, Nat.add_sub_cancel, Nat.add_sub_cancel]
    exact stretch_shift ..
  | succ budget ih =>
    rw [classifyFrom, classifyFrom, Nat.add_sub_cancel, Nat.add_sub_cancel]
    cases Cut.ofText? m.lexems text with
    | none => exact stretch_shift ..
    | some cut =>
      dsimp only
      split
      · have hrest := ih [] cut.after (start + size plain + size cut.before + size cut.word)
        simp only [size_nil, Nat.add_zero, ← Nat.add_assoc] at hrest
        rw [List.map_append, List.map_cons, stretch_shift, hrest]
        simp only [Span.shift, Nat.add_assoc]
      · have hrest := ih (plain ++ cut.before ++ cut.word) cut.after start
        simp only [size_append, ← Nat.add_assoc] at hrest
        exact hrest

/-- The own text of a mode is cut alike wherever it stands. -/
theorem classify_shift (m : Mode) (own : List Char) (k offset : Nat) :
    m.classify own (k + offset) = (m.classify own offset).map (Span.shift k) := by
  unfold classify
  split
  · exact stretch_shift ..
  · exact m.classifyFrom_shift (own.length + 1) [] own k offset

end Mode

/-! ## Diagnostics -/

theorem TextRange.between?_shift {start stop : Nat} (hstart : k + start < 2 ^ 32)
    (hstop : k + stop < 2 ^ 32) :
    between? (k + start) (k + stop) = (between? start stop).map (shift k) := by
  have hplace : ∀ n, k + n < 2 ^ 32 → place (k + n) = k + n ∧ place n = n := by
    intro n hn
    have hmax : maxPlace = 2 ^ 32 - 1 := rfl
    constructor
    · exact Nat.min_eq_left (by omega)
    · exact Nat.min_eq_left (by omega)
  simp only [between?, (hplace _ hstart).1, (hplace _ hstart).2, (hplace _ hstop).1,
    (hplace _ hstop).2, Nat.add_le_add_iff_left]
  split
  · rfl
  · rfl

theorem Diagnostic.unterminated?_shift (mode : String) {entry stop : Nat}
    (hentry : k + entry < 2 ^ 32) (hstop : k + stop < 2 ^ 32) :
    unterminated? mode (k + entry) (k + stop) = (unterminated? mode entry stop).map (shift k) := by
  rw [unterminated?, TextRange.between?_shift hentry hstop, unterminated?, Option.map_map,
    Option.map_map]
  rfl

end Tint
