import Mathlib.Algebra.Ring.Nat
import Tint.Proofs.Tiling

/-!
# When spans cover a text

Covering is decided by walking along the spans and comparing the content of each with the stretch of
the text where it stands. A span that is out of place, empty or of another content ends the walk.

**Exactness (`covers_iff_lays`, `lays_iff`).** The walk comes to the end of the text exactly if the
spans are one piece that makes up the text. Said without the walk: none is empty, their contents
joined are the text, and each starts as far from the start of the text as those before it are long.
So the walk decides whether the spans tile the text (`covers_iff_tiles`).

**Places of 64 bits (`coversFrom?_eq`).** A span may claim to start anywhere, so the place where it
stops may not fit into 64 bits. The walk asks for that place only where the span starts at the place
that the walk has come to, which is one of the text. There it always fits.
-/

namespace Tint

open Text

variable {text own : List Char} {spans : List Span} {place : Nat}

/-! ## Pieces without the walk -/

/-- Spans are one piece exactly if none of them is empty and each starts as far behind the first
place as those before it are long; the piece makes up what their contents joined are. -/
theorem lays_iff :
    Lays own place spans ↔
      (∀ s ∈ spans, s.text.toList ≠ []) ∧ spans.flatMap (·.text.toList) = own ∧
        ∀ i (h : i < spans.length),
          spans[i].offset = place + ((spans.take i).map Span.size).sum := by
  constructor
  · intro h
    refine ⟨fun s => h.ne_nil_of_mem, h.flatMap_text, ?_⟩
    induction h with
    | nil => nofun
    | @cons s own spans _ _ ih =>
      rintro (_ | i) hi
      · rfl
      · simpa [Span.stop, Nat.add_assoc] using ih i (Nat.lt_of_succ_lt_succ hi)
  · rintro ⟨hne, rfl, hoffset⟩
    induction spans generalizing place with
    | nil => exact .nil place
    | cons s spans ih =>
      obtain ⟨hs, hrest⟩ := List.forall_mem_cons.1 hne
      have hfirst : s.offset = place := hoffset 0 (Nat.zero_lt_succ _)
      subst hfirst
      refine .cons hs (ih hrest fun i hi => ?_)
      simpa [Span.stop, Nat.add_assoc] using hoffset (i + 1) (Nat.succ_lt_succ hi)

/-! ## The walk -/

/-- The walk from a place on comes to the end exactly if the spans are one piece that makes up the
rest of the text. -/
theorem coversFrom_iff :
    coversFrom text place spans = true ↔
      ∃ own, slice? text place (size text) = some own ∧ Lays own place spans := by
  constructor
  · intro h
    induction spans generalizing place with
    | nil =>
      have hend : place = size text := by simpa [coversFrom] using h
      subst hend
      exact ⟨[], slice?_eq_some_iff.2 ⟨text, [], by simp, rfl, rfl⟩, .nil _⟩
    | cons s rest ih =>
      simp only [coversFrom, Bool.and_eq_true, beq_iff_eq, Bool.not_eq_true'] at h
      obtain ⟨⟨⟨rfl, hempty⟩, hslice⟩, hrest⟩ := h
      obtain ⟨own, hown, hlays⟩ := ih hrest
      have hne : s.text.toList ≠ [] := by
        intro hnil
        simp [Span.isEmpty, String.toList_eq_nil_iff.1 hnil] at hempty
      exact ⟨_, slice?_append hslice hown, .cons hne hlays⟩
  · rintro ⟨own, hown, h⟩
    exact h.coversFrom hown

theorem covers_iff_lays {text : String} :
    covers text spans = true ↔ Lays text.toList 0 spans := by
  rw [covers, coversFrom_iff]
  simp only [slice?_zero_size, Option.some.injEq, exists_eq_left']

theorem lays_of_isChain (hne : ∀ s ∈ spans, s.text.toList ≠ [])
    (hfirst : ∀ s, spans.head? = some s → s.offset = place)
    (hnext : spans.IsChain fun s t => t.offset = s.stop) :
    Lays (spans.flatMap (·.text.toList)) place spans := by
  induction spans generalizing place with
  | nil => exact .nil place
  | cons s rest ih =>
    obtain ⟨hs, hrest⟩ := List.forall_mem_cons.1 hne
    obtain ⟨hmeets, hchain⟩ := List.isChain_cons.1 hnext
    obtain rfl : s.offset = place := hfirst s rfl
    exact .cons hs (ih hrest hmeets hchain)

/-- The walk decides whether spans tile a text. -/
theorem covers_iff_tiles {text : String} : covers text spans = true ↔ Tiles text spans := by
  rw [covers_iff_lays]
  constructor
  · exact fun h => h.tiles
  · intro h
    have hjoin : spans.flatMap (·.text.toList) = text.toList := by
      rw [← h.join, String.toList_join, List.flatMap_map]
    rw [← hjoin]
    exact lays_of_isChain (fun s hs => by simpa using h.ne_empty s hs) h.first h.next

instance {text : String} : Decidable (Tiles text spans) := decidable_of_iff _ covers_iff_tiles

/-! ## Places of 64 bits -/

namespace Strict

/-- Whether spans cover what is left of a text from `position` on. There is no answer where the stop
of a span is asked for and does not fit into 64 bits. A stretch with a place past the end or inside
a character may be asked for: it has no content, and so not that of a span. -/
def coversFrom? (text : List Char) (position : Nat) : List Span → Option Bool
  | [] => some (position == size text)
  | s :: rest =>
    if s.offset ≠ position || s.isEmpty then some false
    else
      s.stop?.bind fun stop =>
        if slice? text s.offset stop = some s.text.toList then coversFrom? text stop rest
        else some false

/-- Whether spans cover a text. -/
def covers? (text : String) (spans : List Span) : Option Bool := coversFrom? text.toList 0 spans

/-- From a place that is not past the end there always is an answer. The walk goes on only behind a
stretch of the text, so the next place is not past the end either. -/
theorem coversFrom?_eq (htext : size text < 2 ^ 63) (hspans : ∀ s ∈ spans, s.size < 2 ^ 63)
    (hle : place ≤ size text) :
    coversFrom? text place spans = some (coversFrom text place spans) := by
  induction spans generalizing place with
  | nil => rfl
  | cons s rest ih =>
    obtain ⟨hs, hrest⟩ := List.forall_mem_cons.1 hspans
    rw [coversFrom?, coversFrom]
    by_cases hoffset : s.offset = place
    · subst hoffset
      cases hempty : s.isEmpty with
      | true => simp
      | false =>
        have hfits : s.stop < 1 <<< 64 := by
          have hplaces : 1 <<< 64 = 2 ^ 64 := by decide
          rw [Span.stop]
          omega
        have hstop : s.stop? = some s.stop := if_pos hfits
        by_cases hslice : slice? text s.offset s.stop = some s.text.toList
        · have hnext := (isPlace_right_of_slice? hslice).le_size
          simp [hstop, hslice, ih hrest hnext]
        · simp [hstop, hslice]
    · simp [hoffset]

end Strict

/-! ## Exactness -/

/-- **Covering is exact.** Spans cover a text exactly if none of them is empty, their contents
joined are the text, and each starts as far from the start of the text as those before it are long.
Where the sizes of the text and of the contents of the spans are below 2^63, deciding so with places
of 64 bits has an answer, wherever the spans claim to start, and it is this one. -/
theorem covers_exact (text : String) (spans : List Span) :
    (covers text spans = true ↔
      (∀ s ∈ spans, s.text ≠ "") ∧ String.join (spans.map (·.text)) = text ∧
        ∀ i (h : i < spans.length), spans[i].offset = ((spans.take i).map Span.size).sum) ∧
      (size text.toList < 2 ^ 63 → (∀ s ∈ spans, s.size < 2 ^ 63) →
        Strict.covers? text spans = some (covers text spans)) := by
  constructor
  · rw [covers_iff_lays, lays_iff, ← String.toList_inj, String.toList_join, List.flatMap_map]
    simp only [ne_eq, String.toList_eq_nil_iff, Nat.zero_add]
  · exact fun htext hspans => Strict.coversFrom?_eq htext hspans (Nat.zero_le _)

/-- Spans that follow each other cover the text. A span that claims to start at the last place of 64
bits has no stop, and is refused before its stop is asked for. -/
theorem covers_exact_accents :
    (size "aé".toList < 2 ^ 63 ∧
      (∀ s ∈ ([⟨"", "a", 0⟩, ⟨"word", "é", 1⟩] : List Span), s.size < 2 ^ 63) ∧
      covers "aé" [⟨"", "a", 0⟩, ⟨"word", "é", 1⟩] = true ∧
      String.join ["a", "é"] = "aé" ∧
      Strict.covers? "aé" [⟨"", "a", 0⟩, ⟨"word", "é", 1⟩] = some true) ∧
    (⟨"word", "é", 2 ^ 64 - 1⟩ : Span).stop? = none ∧
      Strict.covers? "aé" [⟨"", "a", 0⟩, ⟨"word", "é", 2 ^ 64 - 1⟩] = some false := by
  have htext : size "aé".toList < 2 ^ 63 := by decide
  have hsize : ∀ s ∈ ([⟨"", "a", 0⟩, ⟨"word", "é", 1⟩] : List Span), s.size < 2 ^ 63 := by decide
  have hfar : ∀ s ∈ ([⟨"", "a", 0⟩, ⟨"word", "é", 2 ^ 64 - 1⟩] : List Span), s.size < 2 ^ 63 := by
    decide
  have hcovers : covers "aé" [⟨"", "a", 0⟩, ⟨"word", "é", 1⟩] = true := by decide
  have hrefused : covers "aé" [⟨"", "a", 0⟩, ⟨"word", "é", 2 ^ 64 - 1⟩] = false := by decide
  obtain ⟨hiff, hanswer⟩ := covers_exact "aé" [⟨"", "a", 0⟩, ⟨"word", "é", 1⟩]
  refine ⟨⟨htext, hsize, hcovers, (hiff.1 hcovers).2.1, ?_⟩, by decide, ?_⟩
  · exact (hanswer htext hsize).trans (congrArg some hcovers)
  · exact ((covers_exact "aé" _).2 htext hfar).trans (congrArg some hrefused)

end Tint
