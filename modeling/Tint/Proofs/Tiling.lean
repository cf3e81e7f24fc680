import Mathlib.Data.List.Chain
import Tint.Proofs.Places
import Tint.Span

/-!
# Spans laid end to end

Spans come out of reading in pieces. A piece (`Lays`) is a list of spans that are not empty, each of
which starts where the one before it stops, and whose contents make up a stretch of the text. Pieces
that meet make one (`Lays.append`), so a statement about all spans of a reading is a statement about
one piece at a time.

**Tiling (`Lays.tiles`).** The piece that makes up the whole text tiles it.
-/

namespace Tint

open Text

variable {own text : List Char} {spans : List Span} {s : Span} {place a b : Nat}

/-! ## Pieces -/

/-- Spans that lie end to end from a place on and whose contents make up a text. -/
inductive Lays : (own : List Char) → (place : Nat) → List Span → Prop
  | nil (place : Nat) : Lays [] place []
  | cons {s : Span} {own : List Char} {spans : List Span} :
      s.text.toList ≠ [] → Lays own s.stop spans → Lays (s.text.toList ++ own) s.offset (s :: spans)

theorem Span.stop_eq (s : Span) : s.stop = s.offset + Text.size s.text.toList := rfl

theorem Lays.append {own' : List Char} {spans' : List Span} (h : Lays own place spans)
    (h' : Lays own' (place + size own) spans') : Lays (own ++ own') place (spans ++ spans') := by
  induction h with
  | nil => exact h'
  | cons hne _ ih =>
    rw [List.append_assoc]
    refine .cons hne (ih ?_)
    rw [Span.stop_eq, Nat.add_assoc, ← size_append]
    exact h'

/-- A word becomes the span before the others. -/
theorem Lays.cons_ofList {word : List Char} (className : String) (hne : word ≠ [])
    (h : Lays own (place + size word) spans) :
    Lays (word ++ own) place (⟨className, String.ofList word, place⟩ :: spans) := by
  have hword : (String.ofList word).toList = word := String.toList_ofList
  generalize hs : (⟨className, String.ofList word, place⟩ : Span) = s
  have htext : s.text.toList = word := by rw [← hs, hword]
  have hoffset : s.offset = place := by rw [← hs]
  subst htext hoffset
  exact .cons hne h

theorem Lays.eq_nil_iff (h : Lays own place spans) : spans = [] ↔ own = [] := by
  cases h with
  | nil => simp
  | cons hne _ => simp [hne]

theorem Lays.flatMap_text (h : Lays own place spans) : spans.flatMap (·.text.toList) = own := by
  induction h with
  | nil => rfl
  | cons _ _ ih => rw [List.flatMap_cons, ih]

theorem Lays.offset_of_head? (h : Lays own place spans) (hs : spans.head? = some s) :
    s.offset = place := by
  cases h with
  | nil => cases hs
  | cons => cases hs; rfl

theorem Lays.stop_of_getLast? (h : Lays own place spans) (hs : spans.getLast? = some s) :
    s.stop = place + size own := by
  induction h with
  | nil => cases hs
  | @cons t own spans hne hrest ih =>
    rw [size_append, ← Nat.add_assoc, ← Span.stop_eq]
    cases spans with
    | nil =>
      obtain rfl := hrest.eq_nil_iff.1 rfl
      cases hs
      rfl
    | cons => exact ih (by rwa [List.getLast?_cons_cons] at hs)

theorem Lays.isChain (h : Lays own place spans) :
    spans.IsChain fun s t => t.offset = s.stop := by
  induction h with
  | nil => exact .nil
  | cons _ hrest ih => exact List.isChain_cons.2 ⟨fun t ht => hrest.offset_of_head? ht, ih⟩

theorem Lays.ne_nil_of_mem (h : Lays own place spans) (hs : s ∈ spans) : s.text.toList ≠ [] := by
  induction h with
  | nil => cases hs
  | cons hne _ ih =>
    rcases List.mem_cons.1 hs with rfl | hs
    · exact hne
    · exact ih hs

theorem Lays.bounds (h : Lays own place spans) (hs : s ∈ spans) :
    place ≤ s.offset ∧ s.offset < s.stop ∧ s.stop ≤ place + size own := by
  induction h with
  | nil => cases hs
  | @cons t own spans hne _ ih =>
    have hpos := size_pos hne
    have hstop := t.stop_eq
    rw [size_append]
    rcases List.mem_cons.1 hs with rfl | hs
    · omega
    · have := ih hs
      omega

/-- The content of a span is the stretch of the text where the span stands. -/
theorem Lays.slice?_of_mem (h : Lays own place spans) (hown : slice? text place b = some own)
    (hs : s ∈ spans) : slice? text s.offset s.stop = some s.text.toList := by
  induction h with
  | nil => cases hs
  | cons _ _ ih =>
    obtain ⟨hfirst, hrest⟩ := slice?_of_slice?_append hown
    rcases List.mem_cons.1 hs with rfl | hs
    · exact hfirst
    · exact ih hrest hs

/-- A piece that reaches to the end of the text covers what is left of it. -/
theorem Lays.coversFrom (h : Lays own place spans)
    (hown : slice? text place (size text) = some own) : coversFrom text place spans = true := by
  induction h with
  | nil place =>
    have hsize := size_of_slice? hown
    simpa [Tint.coversFrom] using hsize
  | @cons s own spans hne _ ih =>
    obtain ⟨hfirst, hrest⟩ := slice?_of_slice?_append hown
    have hslice : slice? text s.offset s.stop = some s.text.toList := hfirst
    have hempty : s.isEmpty = false := by
      cases h : s.isEmpty with
      | false => rfl
      | true => exact absurd (by simpa [Span.isEmpty] using h) hne
    simp [Tint.coversFrom, hempty, hslice, ih hrest]

/-! ## Tilings -/

/-- Spans tile a text. -/
structure Tiles (text : String) (spans : List Span) : Prop where
  first : ∀ s, spans.head? = some s → s.offset = 0
  next : spans.IsChain fun s t => t.offset = s.stop
  last : ∀ s, spans.getLast? = some s → s.stop = size text.toList
  ne_empty : ∀ s ∈ spans, s.text ≠ ""
  isPlace : ∀ s ∈ spans, IsPlace text.toList s.offset ∧ IsPlace text.toList s.stop
  slice : ∀ s ∈ spans, slice? text.toList s.offset s.stop = some s.text.toList
  join : String.join (spans.map (·.text)) = text
  eq_nil_iff : spans = [] ↔ text = ""

theorem Lays.tiles {text : String} (h : Lays text.toList 0 spans) : Tiles text spans where
  first _ hs := h.offset_of_head? hs
  next := h.isChain
  last s hs := by rw [h.stop_of_getLast? hs, Nat.zero_add]
  ne_empty s hs := by simpa using h.ne_nil_of_mem hs
  isPlace s hs :=
    have hslice := h.slice?_of_mem (slice?_zero_size _) hs
    ⟨isPlace_left_of_slice? hslice, isPlace_right_of_slice? hslice⟩
  slice _ hs := h.slice?_of_mem (slice?_zero_size _) hs
  join := by
    rw [← String.toList_inj, String.toList_join, List.flatMap_map]
    exact h.flatMap_text
  eq_nil_iff := h.eq_nil_iff.trans String.toList_eq_nil_iff

end Tint
