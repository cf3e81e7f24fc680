import Tint.Proofs.Compile

/-!
# Patterns that are small enough

What is built for a set of characters shares the states that lead on alike, and how many those are
depends on what the slots of a table happen to hold. But sharing only saves states. So what is built
takes at most what the whole tree of the set takes (`size_addTree_le`), or all of its sequences
(`size_addSequences_le`), without any sharing.

**Weights (`size_grow_le`).** The weight of a sketch is what it takes at most, wherever it is built,
with every copy of a part counted in full. It is found without any table. So a pattern whose two
weights are far enough below the limit is not too large (`Term.fits_of_isLight`).

**Words (`exists_compile?_wordSource`).** Word characters are light. So there is a pattern that cuts
words out of a text, under any flags, and a mode with keywords never lacks one.
-/

namespace Tint

namespace Regex

open Footprint

variable {f : Footprint} {s : Footprint × SlotTable}

theorem size_add (f : Footprint) (states extra : Nat) :
    (f.add states extra).size = f.size + (32 * states + extra) := by
  simp only [Footprint.size, Footprint.add]
  omega

theorem size_connect_le (f : Footprint) : f.connect.size ≤ f.size + 4 := by
  unfold connect
  split
  · simp only [Footprint.size]
    omega
  · exact Nat.le_add_right ..

theorem isOver_eq_false (h : f.size ≤ sizeLimit) : f.isOver = false :=
  decide_eq_false (Nat.not_lt.2 h)

/-! ## Sets that are read ahead -/

mutual

/-- What the states of a tree take if none are shared. -/
def OctetTree.weight : OctetTree → Nat
  | .done => 0
  | .branch ranges => OctetTree.weightAll ranges + (32 + 8 * ranges.length)

/-- What the states behind several ranges take if none are shared. -/
def OctetTree.weightAll : List (OctetRange × OctetTree) → Nat
  | [] => 0
  | (_, t) :: rest => t.weight + OctetTree.weightAll rest

end

/-- At worst the state is a new one. -/
theorem size_placeState_le (key : List Nat) (s : Footprint × SlotTable) :
    (placeState key s).2.1.size ≤ s.1.size + (32 + 8 * (key.length / 3)) := by
  unfold placeState
  split
  · exact Nat.le_add_right ..
  · exact Nat.le_of_eq (size_add ..)

theorem length_placeAll (target : Nat) (ranges : List (OctetRange × OctetTree))
    (s : Footprint × SlotTable) :
    (OctetTree.placeAll target ranges s).1.length = 3 * ranges.length := by
  induction ranges generalizing s with
  | nil => rfl
  | cons r ranges ih =>
    rw [OctetTree.placeAll]
    simp only [List.length_cons, ih]
    omega

-- by recursion over the tree, and over the list of its ranges beside it
mutual

theorem size_place_le (target : Nat) (t : OctetTree) (s : Footprint × SlotTable) :
    (t.place target s).2.1.size ≤ s.1.size + t.weight := by
  cases t with
  | done => exact Nat.le_refl _
  | branch ranges =>
    have hranges := size_placeAll_le target ranges s
    have hstate := size_placeState_le (OctetTree.placeAll target ranges s).1
      (OctetTree.placeAll target ranges s).2
    rw [length_placeAll, Nat.mul_div_cancel_left _ (by decide)] at hstate
    rw [OctetTree.weight, OctetTree.place]
    show (placeState (OctetTree.placeAll target ranges s).1 _).2.1.size ≤ _
    omega

theorem size_placeAll_le (target : Nat) (ranges : List (OctetRange × OctetTree))
    (s : Footprint × SlotTable) :
    (OctetTree.placeAll target ranges s).2.1.size ≤ s.1.size + OctetTree.weightAll ranges := by
  cases ranges with
  | nil => exact Nat.le_refl _
  | cons r rest =>
    have hhead := size_place_le target r.2 s
    have hrest := size_placeAll_le target rest (r.2.place target s).2
    rw [OctetTree.weightAll, OctetTree.placeAll]
    show (OctetTree.placeAll target rest (r.2.place target s).2).2.1.size ≤ _
    omega

end

theorem size_addTree_le (t : OctetTree) (f : Footprint) :
    (f.addTree t).size ≤ f.size + (32 + t.weight) := by
  have h := size_place_le f.states t (f.add 1 0, { slots := 10000 })
  rw [size_add] at h
  unfold addTree
  omega

/-! ## Sets that are read back -/

theorem size_placeBack_le (sequence : List OctetRange) (next : Nat) (s : Footprint × SlotTable) :
    (placeBack sequence next s).1.size ≤ s.1.size + 32 * sequence.length := by
  induction sequence generalizing next s with
  | nil => exact Nat.le_refl _
  | cons r rest ih =>
    simp only [placeBack, List.length_cons]
    split
    · next k _ =>
      have hrest := ih k s
      omega
    · have hrest := ih s.1.states (s.1.add 1 0, s.2.put [next, r.first, r.last] s.1.states)
      rw [size_add] at hrest
      omega

theorem size_foldl_placeBack_le (sequences : List (List OctetRange)) (stop : Nat)
    (s : Footprint × SlotTable) :
    (sequences.foldl (fun s sequence => placeBack sequence stop s) s).1.size ≤
      s.1.size + 32 * sequences.flatten.length := by
  induction sequences generalizing s with
  | nil => exact Nat.le_refl _
  | cons sequence rest ih =>
    have hhead := size_placeBack_le sequence stop s
    have hrest := ih (placeBack sequence stop s)
    rw [List.foldl_cons, List.flatten_cons, List.length_append]
    omega

theorem size_addSequences_le (sequences : List (List OctetRange)) (f : Footprint) :
    (f.addSequences sequences).size ≤
      f.size + (64 + 4 * sequences.length + 32 * sequences.flatten.length) := by
  have h := size_foldl_placeBack_le sequences (f.states + 1)
    (f.add 2 (4 * sequences.length), { slots := 1000 })
  rw [size_add] at h
  show (sequences.foldl (fun s sequence => placeBack sequence (f.states + 1) s) _).1.size ≤ _
  omega

/-! ## Repetitions -/

variable {grow : Footprint → Footprint} {w : Nat}

theorem size_repeatCopies_le (h : ∀ f, (grow f).size ≤ f.size + w) (n : Nat)
    (f : Footprint) : (repeatCopies grow n f).size ≤ f.size + n * (w + 4) := by
  induction n generalizing f with
  | zero => exact Nat.le_add_right ..
  | succ n ih =>
    rw [repeatCopies, Nat.succ_mul]
    split
    · exact Nat.le_add_right ..
    · have hconnect := size_connect_le f
      have hgrow := h f.connect
      have hrest := ih (grow f.connect)
      omega

theorem size_copies_le (h : ∀ f, (grow f).size ≤ f.size + w) (n : Nat) (f : Footprint) :
    (copies grow n f).size ≤ f.size + (32 + n * (w + 4)) := by
  cases n with
  | zero =>
    rw [copies, size_add]
    omega
  | succ n =>
    have hgrow := h f
    have hrest := size_repeatCopies_le h n (grow f)
    rw [copies, Nat.succ_mul]
    omega

theorem size_optionals_le (h : ∀ f, (grow f).size ≤ f.size + w) (n : Nat) (f : Footprint) :
    (optionals grow n f).size ≤ f.size + n * (w + 44) := by
  induction n generalizing f with
  | zero => exact Nat.le_add_right ..
  | succ n ih =>
    rw [optionals, Nat.succ_mul]
    split
    · exact Nat.le_add_right ..
    · have hgrow := h (f.add 1 8)
      have hconnect := size_connect_le (grow (f.add 1 8))
      have hrest := ih (grow (f.add 1 8)).connect
      rw [size_add] at hgrow
      omega

/-! ## Sketches -/

namespace Sketch

mutual

/-- What a sketch takes at most, wherever it is built. -/
def weight : Sketch → Nat
  | .plain states extra => 32 * states + extra
  | .tree t => 32 + t.weight
  | .sequences all => 64 + 4 * all.length + 32 * all.flatten.length
  | .capture body => weight body + 68
  | .sequence parts => weightAll parts + 32
  | .alternatives parts => weightAll parts + 72
  | .repeated min max _ body =>
    (weight body + 116) + min * (weight body + 4) + (max.getD min - min) * (weight body + 44)

/-- What sketches take at most, with what connects them. -/
def weightAll : List Sketch → Nat
  | [] => 0
  | s :: ss => weight s + 8 + weightAll ss

end

theorem size_grow_repeated_le {body : Sketch} (h : ∀ f, (body.grow f).size ≤ f.size + body.weight)
    (min : Nat) (max : Option Nat) (nullable : Bool) (f : Footprint) :
    ((Sketch.repeated min max nullable body).grow f).size ≤
      f.size + (Sketch.repeated min max nullable body).weight := by
  have hchoice : ∀ f : Footprint, f.withChoice.size = f.size := fun _ => rfl
  have hcopies := size_copies_le h min f
  rw [weight, grow.eq_def]
  dsimp only
  split
  · have hbody := h (f.add 1 8)
    have hconnect := size_connect_le (body.grow (f.add 1 8))
    rw [size_add] at hbody ⊢
    omega
  · split
    · have hbody := h f
      have hconnect := size_connect_le (body.grow f)
      rw [size_add]
      omega
    · have hbody := h (f.add 1 4)
      have hconnect := size_connect_le (body.grow (f.add 1 4))
      rw [size_add] at hbody
      rw [hchoice]
      omega
  · have hconnect := size_connect_le (f.copies body.grow min)
    rw [hchoice, size_add]
    omega
  · next most _ =>
    split
    · omega
    · have hconnect := size_connect_le (f.copies body.grow min)
      have hoptionals := size_optionals_le h (most - min)
        ((f.copies body.grow min).connect.add 1 0)
      rw [size_add] at hoptionals
      rw [Option.getD_some]
      omega

-- by recursion over the sketch, and over the list of its parts beside it
mutual

theorem size_grow_le (s : Sketch) (f : Footprint) : (s.grow f).size ≤ f.size + s.weight := by
  cases s with
  | plain states extra => exact Nat.le_of_eq (size_add ..)
  | tree t =>
    rw [weight, grow]
    split
    · exact Nat.le_add_right ..
    · exact size_addTree_le t f
  | sequences all =>
    rw [weight, grow]
    split
    · exact Nat.le_add_right ..
    · exact size_addSequences_le all f
  | capture body =>
    have hbody := size_grow_le body (f.add 1 0)
    have hconnect := size_connect_le (body.grow (f.add 1 0))
    rw [weight, grow, size_add]
    rw [size_add] at hbody
    omega
  | sequence parts =>
    cases parts with
    | nil => exact Nat.le_of_eq (size_add ..)
    | cons part parts =>
      have hpart := size_grow_le part f
      have hparts := size_growSequence_le parts (part.grow f)
      rw [weight, grow, weightAll]
      omega
  | alternatives parts =>
    match parts with
    | [] => exact Nat.le_add_right ..
    | [only] =>
      have hparts := size_growEach_le [only] f
      rw [weight, grow]
      · omega
      · nofun
    | first :: second :: parts =>
      have hfirst := size_grow_le first f
      have hconnect := size_connect_le (first.grow f)
      have hsecond := size_grow_le second (first.grow f).connect
      have hconnect' := size_connect_le (second.grow (first.grow f).connect)
      have hparts := size_growEach_le parts
        ((second.grow (first.grow f).connect).connect.add 2 8)
      rw [weight, grow, weightAll, weightAll]
      rw [size_add] at hparts
      omega
  | repeated min max nullable body =>
    exact size_grow_repeated_le (fun f => size_grow_le body f) min max nullable f

theorem size_growSequence_le (parts : List Sketch) (f : Footprint) :
    (growSequence parts f).size ≤ f.size + weightAll parts := by
  cases parts with
  | nil => exact Nat.le_refl _
  | cons part parts =>
    have hconnect := size_connect_le f
    have hpart := size_grow_le part f.connect
    have hparts := size_growSequence_le parts (part.grow f.connect)
    rw [growSequence, weightAll]
    omega

theorem size_growEach_le (parts : List Sketch) (f : Footprint) :
    (growEach parts f).size ≤ f.size + weightAll parts := by
  cases parts with
  | nil => exact Nat.le_refl _
  | cons part parts =>
    have hpart := size_grow_le part f
    have hconnect := size_connect_le (part.grow f)
    have hparts := size_growEach_le parts ((part.grow f).connect.add 0 4)
    rw [growEach, weightAll]
    rw [size_add] at hparts
    omega

end

end Sketch

/-! ## Terms -/

namespace Term

/-- Whether the term is light enough in both directions, with what is built around it. -/
def isLight (t : Term) : Bool :=
  decide ((Sketch.ofTerm false t).weight + 212 ≤ sizeLimit) &&
    decide ((Sketch.ofTerm true t).weight + 148 ≤ sizeLimit)

theorem size_leadIn_le (t : Term) (back : Bool) : (t.leadIn back).size ≤ 112 := by
  unfold leadIn
  generalize t.isAnchored (if back then .textEnd else .textStart) back = anchored
  cases anchored <;> decide

theorem fits_of_isLight {t : Term} (h : t.isLight = true) : t.fits = true := by
  obtain ⟨hahead, hback⟩ := (Bool.and_eq_true ..).mp h
  have hahead := of_decide_eq_true hahead
  have hback := of_decide_eq_true hback
  have hfootprintAhead : t.footprintAhead.size ≤ sizeLimit := by
    have hlead := size_leadIn_le t false
    have hterm := Sketch.size_grow_le (Sketch.ofTerm false t) ((t.leadIn false).add 1 0)
    have hconnect := size_connect_le
      ((Sketch.ofTerm false t).grow ((t.leadIn false).add 1 0))
    rw [footprintAhead, size_add]
    rw [size_add] at hterm
    omega
  have hfootprintBack : t.footprintBack.size ≤ sizeLimit := by
    have hlead := size_leadIn_le t true
    have hterm := Sketch.size_grow_le (Sketch.ofTerm true t) (t.leadIn true)
    have hconnect := size_connect_le ((Sketch.ofTerm true t).grow (t.leadIn true))
    rw [footprintBack, size_add]
    omega
  rw [fits, isOver_eq_false hfootprintAhead, isOver_eq_false hfootprintBack]
  rfl

end Term

/-! ## Words -/

/-- The term of words: word characters behind a boundary. -/
def Term.words : Term :=
  .sequence [.look (.wordBoundary true), .repeated 1 none true (.set Unicode.word)]

theorem meaning?_wordSource (options : PatternOptions) :
    ((Expr.read? Grammar.wordSource).bind fun e => e.meaning? (Pattern.flags options)) =
      some .words := by
  obtain ⟨ignoreCase, multiLine⟩ := options
  cases ignoreCase <;> cases multiLine <;> rfl

theorem isLight_words : Term.words.isLight = true := by decide +kernel

end Regex

namespace Pattern

variable {source : String} {options : PatternOptions}

/-- Whether the text is a regular expression, and one that is light. -/
def isLight (source : String) (options : PatternOptions) : Bool :=
  ((Regex.Expr.read? source).bind fun e => e.meaning? (flags options)).any Regex.Term.isLight

theorem exists_compile?_of_isLight (h : isLight source options = true) :
    ∃ p, Pattern.compile? source options = some p := by
  obtain ⟨t, ht, hlight⟩ := (Option.any_eq_true ..).1 h
  obtain ⟨e, he, ht⟩ := Option.bind_eq_some_iff.1 ht
  exact ⟨_, compile?_eq_some_iff.2 ⟨e, t, he, ht, Regex.Term.fits_of_isLight hlight, rfl⟩⟩

theorem exists_compile?_wordSource (options : PatternOptions) :
    ∃ p, Pattern.compile? Grammar.wordSource options = some p := by
  apply exists_compile?_of_isLight
  rw [isLight, Regex.meaning?_wordSource, Option.any_some]
  exact Regex.isLight_words

end Pattern

end Tint
