import Mathlib.Data.List.Induction
import Tint.Proofs.Compile
import Tint.Proofs.Memo

/-!
# The machine that remembers nothing

The reader of `Tint.Lexer.Run` folds over its patterns and answers each search from a memo. Here is
what it amounts to. A *configuration* is how far reading has come without the memo. From it every
pattern of the open mode is searched afresh (`offers`), and the match that starts first *wins*, the
first in the order of priority if several start alike (`Wins`). The winner says where the machine
goes (`Config.after`), and `Path` strings its moves together.

**One way only (`Path.append_of_stuck`).** There is at most one winner, so a path that cannot go on
passes through every configuration that can be reached.

**Length (`length_le_of_path`).** A path from the start is at most twice as long as the text. Each
opening match takes at least one octet and each closing match takes a mode off the stack, so the
length and the number of open modes never exceed twice the position.
-/

namespace Tint.Lexer

open Text

variable {g : Grammar} {text : List Char} {b : Boundary} {bs : List Boundary}

/-! ## The winner -/

/-- The match that starts first; of several that start alike, the first in the list. -/
def Wins (bs : List Boundary) (b : Boundary) : Prop :=
  ∃ before after, bs = before ++ b :: after ∧
    (∀ x ∈ before, b.found.start < x.found.start) ∧ ∀ x ∈ after, b.found.start ≤ x.found.start

/-- The winner, found by going through the list once. -/
def winner (bs : List Boundary) : Option Boundary :=
  bs.foldl (fun best b => earlier best b.transition (some b.found)) none

theorem Wins.mem (h : Wins bs b) : b ∈ bs := by
  obtain ⟨before, after, rfl, -, -⟩ := h
  simp

theorem Wins.start_le (h : Wins bs b) : ∀ x ∈ bs, b.found.start ≤ x.found.start := by
  obtain ⟨before, after, rfl, hbefore, hafter⟩ := h
  intro x hx
  rcases List.mem_append.1 hx with hx | hx
  · exact Nat.le_of_lt (hbefore x hx)
  · rcases List.mem_cons.1 hx with rfl | hx
    · exact Nat.le_refl _
    · exact hafter x hx

/-- The winner stays the winner where all matches change alike and keep their order. -/
theorem Wins.map (h : Wins bs b) {φ : Boundary → Boundary}
    (hφ : ∀ x y, x.found.start ≤ y.found.start ↔ (φ x).found.start ≤ (φ y).found.start) :
    Wins (bs.map φ) (φ b) := by
  obtain ⟨before, after, rfl, hbefore, hafter⟩ := h
  refine ⟨before.map φ, after.map φ, by simp, ?_, ?_⟩
  · intro x hx
    obtain ⟨y, hy, rfl⟩ := List.mem_map.1 hx
    have hlt := hbefore y hy
    have hle := hφ y b
    omega
  · intro x hx
    obtain ⟨y, hy, rfl⟩ := List.mem_map.1 hx
    exact (hφ b y).1 (hafter y hy)

theorem wins_concat {x : Boundary} :
    Wins (bs ++ [x]) b ↔
      (Wins bs b ∧ b.found.start ≤ x.found.start) ∨
        (b = x ∧ ∀ y ∈ bs, x.found.start < y.found.start) := by
  constructor
  · rintro ⟨before, after, heq, hbefore, hafter⟩
    rcases List.eq_nil_or_concat after with rfl | ⟨after, y, rfl⟩
    · obtain ⟨rfl, h⟩ := List.append_inj' heq rfl
      cases h
      exact .inr ⟨rfl, hbefore⟩
    · rw [List.concat_eq_append, ← List.cons_append, ← List.append_assoc] at heq
      obtain ⟨rfl, h⟩ := List.append_inj' heq rfl
      cases h
      rw [List.concat_eq_append] at hafter
      refine .inl ⟨⟨before, after, rfl, hbefore, fun z hz => hafter z ?_⟩, hafter x ?_⟩
      · exact List.mem_append_left _ hz
      · simp
  · rintro (⟨⟨before, after, rfl, hbefore, hafter⟩, hle⟩ | ⟨rfl, hlt⟩)
    · refine ⟨before, after ++ [x], by simp, hbefore, fun z hz => ?_⟩
      rcases List.mem_append.1 hz with hz | hz
      · exact hafter z hz
      · rw [List.mem_singleton.1 hz]
        exact hle
    · exact ⟨bs, [], rfl, hlt, by simp⟩

theorem winner_concat (bs : List Boundary) (x : Boundary) :
    winner (bs ++ [x]) = earlier (winner bs) x.transition (some x.found) := by
  simp [winner]

/-- Going through the list finds the winner, and finds none only in an empty list. -/
theorem winner_spec (bs : List Boundary) :
    (winner bs = none ↔ bs = []) ∧ ∀ b, winner bs = some b ↔ Wins bs b := by
  induction bs using List.reverseRecOn with
  | nil => exact ⟨by simp [winner], fun b => ⟨nofun, fun h => by simpa using h.mem⟩⟩
  | append_singleton bs x ih =>
    obtain ⟨hnone, hsome⟩ := ih
    simp only [winner_concat, wins_concat]
    cases hw : winner bs with
    | none =>
      obtain rfl := hnone.1 hw
      refine ⟨by simp [earlier], fun b => ?_⟩
      have hno : ¬ Wins [] b := fun h => by simpa using h.mem
      simp only [earlier, hno, false_and, List.not_mem_nil, false_imp_iff, implies_true, and_true,
        false_or, Option.some.injEq]
      exact eq_comm
    | some y =>
      have hy := (hsome y).1 hw
      refine ⟨by simp only [earlier]; split <;> simp, fun b => ?_⟩
      simp only [earlier, ← hsome, hw, Option.some.injEq]
      split
      · next hlt =>
        rw [Option.some.injEq]
        constructor
        · rintro rfl
          exact .inr ⟨rfl, fun z hz => Nat.lt_of_lt_of_le hlt (hy.start_le z hz)⟩
        · rintro (⟨rfl, hle⟩ | ⟨rfl, -⟩)
          · omega
          · rfl
      · next hge =>
        rw [Option.some.injEq]
        constructor
        · rintro rfl
          exact .inl ⟨rfl, by omega⟩
        · rintro (⟨rfl, -⟩ | ⟨rfl, hlt⟩)
          · rfl
          · exact absurd (hlt y hy.mem) hge

theorem winner_eq_some_iff : winner bs = some b ↔ Wins bs b := (winner_spec bs).2 b

theorem winner_eq_none_iff : winner bs = none ↔ bs = [] := (winner_spec bs).1

/-! ## Configurations -/

/-- How far reading has come, what is remembered left aside. -/
structure Config where
  position : Nat := 0
  stack : ModeStack := .start
deriving DecidableEq, Repr

/-- The configuration of a state. -/
def State.config (s : State) : Config := ⟨s.position, s.stack⟩

variable {c c' : Config}

/-- What the patterns of the open mode find from a place on, each searched afresh, in the order of
priority: what is forbidden, what closes the mode, and what opens the modes that it contains. -/
def offers (g : Grammar) (text : List Char) (c : Config) : List Boundary :=
  let m := g.mode c.stack.top.mode
  let forbidden := m.illegal.bind fun p => p.findNonEmpty text c.position
  let close := m.endPattern.bind fun p => p.find text c.position
  let enter child := (g.mode child).beginPattern.bind fun p => p.findNonEmpty text c.position
  (forbidden.map (⟨.forbidden, ·⟩)).toList ++ (close.map (⟨.close, ·⟩)).toList ++
    m.contains.filterMap fun child => (enter child).map (⟨.enter child, ·⟩)

/-- Where a boundary leads. A closing match takes the open mode off the stack, and the own text of
the mode below goes on behind it; an opening match belongs to the mode that it opens. Forbidden
text leads nowhere. -/
def Config.after (c : Config) (b : Boundary) : Config :=
  match b.transition with
  | .forbidden => c
  | .close => ⟨b.found.stop, c.stack.pop.2.setTextStart b.found.stop⟩
  | .enter child => ⟨b.found.stop, c.stack.push child b.found.start⟩

/-- The machine goes from one configuration to another over the boundaries that win on the way. -/
inductive Path (g : Grammar) (text : List Char) : Config → List Boundary → Config → Prop
  | nil (c : Config) : Path g text c [] c
  | cons {c c' : Config} {b : Boundary} {bs : List Boundary} :
      Wins (offers g text c) b → b.transition ≠ .forbidden →
      Path g text (c.after b) bs c' → Path g text c (b :: bs) c'

/-- No mode is opened where `maxDepth` modes are open already. -/
def Shallow (maxDepth : Nat) : Config → List Boundary → Prop
  | _, [] => True
  | c, b :: bs =>
    (∀ child, b.transition = .enter child → c.stack.depth < maxDepth) ∧
      Shallow maxDepth (c.after b) bs

/-! ## Offers -/

theorem filterMap_toList {α β : Type} (f : α → Option β) (o : Option α) :
    o.toList.filterMap f = (o.bind f).toList := by
  cases o with
  | none => rfl
  | some a => cases h : f a <;> simp [h]

/-- What the patterns to look out for find, each searched afresh. -/
theorem offers_eq_filterMap (g : Grammar) (text : List Char) (c : Config) :
    offers g text c = (watches g c.stack.top.mode).filterMap fun w =>
      (w.pattern.searchIn w.key.slot text c.position).map (⟨w.transition, ·⟩) := by
  simp only [offers, watches, List.filterMap_append, filterMap_toList, Option.bind_map,
    Option.map_bind, List.filterMap_filterMap]
  rfl

theorem pattern?_key_of_mem_watches {i : Nat} {w : Watch} (h : w ∈ watches g i) :
    g.pattern? w.key = some w.pattern ∧ (w.key.slot = .closer → w.transition = .close) := by
  simp only [watches, List.mem_append, Option.mem_toList, Option.map_eq_some_iff,
    List.mem_filterMap] at h
  rcases h with (⟨p, hp, rfl⟩ | ⟨p, hp, rfl⟩) | ⟨child, -, p, hp, rfl⟩
  · exact ⟨hp, nofun⟩
  · exact ⟨hp, fun _ => rfl⟩
  · exact ⟨hp, nofun⟩

/-- A match on offer lies ahead, at places of the text, and only one that closes a mode may be
empty. -/
theorem offers_spec (h : b ∈ offers g text c) :
    c.position ≤ b.found.start ∧ (∃ w, slice? text b.found.start b.found.stop = some w) ∧
      (b.transition ≠ .close → b.found.start < b.found.stop) := by
  rw [offers_eq_filterMap, List.mem_filterMap] at h
  obtain ⟨w, hw, hb⟩ := h
  obtain ⟨f, hf, rfl⟩ := Option.map_eq_some_iff.1 hb
  obtain ⟨hle, hslice, hlt⟩ := Pattern.searchIn_spec hf
  exact ⟨hle, hslice, fun hne => hlt fun hs => hne ((pattern?_key_of_mem_watches hw).2 hs)⟩

theorem forbidden_of_offer {f : Found} (h : (⟨.forbidden, f⟩ : Boundary) ∈ offers g text c) :
    ∃ p, (g.mode c.stack.top.mode).illegal = some p ∧
      p.findNonEmpty text c.position = some f := by
  simp only [offers, List.mem_append, Option.mem_toList, Option.map_eq_some_iff,
    List.mem_filterMap] at h
  rcases h with (⟨f, hfound, hf⟩ | ⟨f, -, hf⟩) | ⟨child, -, f, -, hf⟩
  · cases hf
    exact Option.bind_eq_some_iff.1 hfound
  · cases hf
  · cases hf

theorem enter_of_offer {child : Nat} {f : Found}
    (h : (⟨.enter child, f⟩ : Boundary) ∈ offers g text c) :
    child ∈ (g.mode c.stack.top.mode).contains ∧
      ∃ p, (g.mode child).beginPattern = some p ∧ p.findNonEmpty text c.position = some f := by
  simp only [offers, List.mem_append, Option.mem_toList, Option.map_eq_some_iff,
    List.mem_filterMap] at h
  rcases h with (⟨f, -, hf⟩ | ⟨f, -, hf⟩) | ⟨child', hchild, f, hfound, hf⟩
  · cases hf
  · cases hf
  · cases hf
    exact ⟨hchild, Option.bind_eq_some_iff.1 hfound⟩

/-! ## Paths -/

theorem Wins.unique {b' : Boundary} (h : Wins bs b) (h' : Wins bs b') : b = b' :=
  Option.some.inj ((winner_eq_some_iff.2 h).symm.trans (winner_eq_some_iff.2 h'))

/-- The machine cannot go on: there is nothing on offer, or the winner is forbidden. -/
def Stuck (g : Grammar) (text : List Char) (c : Config) : Prop :=
  ∀ b, Wins (offers g text c) b → b.transition = .forbidden

theorem Path.eq_nil_of_stuck (h : Path g text c bs c') (hc : Stuck g text c) : bs = [] := by
  cases h with
  | nil => rfl
  | cons hw hne _ => exact absurd (hc _ hw) hne

/-- A path that cannot go on passes through every configuration that can be reached. -/
theorem Path.append_of_stuck {bs' : List Boundary} {c₁ c₂ : Config} (h : Path g text c bs c₁)
    (hc : Stuck g text c₁) (h' : Path g text c bs' c₂) :
    ∃ rest, bs = bs' ++ rest ∧ Path g text c₂ rest c₁ := by
  induction h' generalizing bs with
  | nil => exact ⟨bs, rfl, h⟩
  | cons hw' hne' _ ih =>
    cases h with
    | nil => exact absurd (hc _ hw') hne'
    | cons hw _ htail =>
      obtain rfl := hw.unique hw'
      obtain ⟨rest, rfl, hrest⟩ := ih htail
      exact ⟨rest, rfl, hrest⟩

theorem Path.concat {c₁ c₂ : Config} (h : Path g text c bs c₁) (hw : Wins (offers g text c₁) b)
    (hne : b.transition ≠ .forbidden) (hafter : c₂ = c₁.after b) :
    Path g text c (bs ++ [b]) c₂ := by
  induction h with
  | nil => exact .cons hw hne (hafter ▸ .nil _)
  | cons hw' hne' _ ih => exact .cons hw' hne' (ih hw hafter)

theorem shallow_append {maxDepth : Nat} {bs' : List Boundary} (h : Path g text c bs c') :
    Shallow maxDepth c (bs ++ bs') ↔ Shallow maxDepth c bs ∧ Shallow maxDepth c' bs' := by
  induction h with
  | nil => simp [Shallow]
  | cons _ _ _ ih => simp only [List.cons_append, Shallow, ih, and_assoc]

/-! ## Places -/

theorem isPlace_after (hp : IsPlace text c.position) (h : Wins (offers g text c) b) :
    IsPlace text (c.after b).position := by
  obtain ⟨-, ⟨w, hw⟩, -⟩ := offers_spec h.mem
  unfold Config.after
  split
  · exact hp
  · exact isPlace_right_of_slice? hw
  · exact isPlace_right_of_slice? hw

theorem Path.isPlace (h : Path g text c bs c') (hp : IsPlace text c.position) :
    IsPlace text c'.position := by
  induction h with
  | nil => exact hp
  | cons hw _ _ ih => exact ih (isPlace_after hp hw)

/-! ## Length -/

theorem ne_close_of_bare (hg : g.defaultMode.endPattern = none) (hb : c.stack.bottom.mode = 0)
    (habove : c.stack.above = []) (h : b ∈ offers g text c) : b.transition ≠ .close := by
  have hmode : g.mode c.stack.top.mode = g.defaultMode := by
    rw [ModeStack.top, habove, List.headD_nil, hb]
    rfl
  simp only [offers, hmode, hg, Option.bind_none, Option.map_none, Option.toList_none,
    List.append_nil, List.mem_append, Option.mem_toList, Option.map_eq_some_iff,
    List.mem_filterMap] at h
  rcases h with ⟨f, -, rfl⟩ | ⟨child, -, f, -, rfl⟩
  · exact Transition.noConfusion
  · exact Transition.noConfusion

/-- One move and the modes open after it take at most twice the octets that it passes. -/
theorem succ_le_of_move (hg : g.defaultMode.endPattern = none) (hb : c.stack.bottom.mode = 0)
    (hw : Wins (offers g text c) b) (hne : b.transition ≠ .forbidden) :
    (c.after b).stack.bottom.mode = 0 ∧
      1 + 2 * c.position + (c.after b).stack.above.length ≤
        2 * (c.after b).position + c.stack.above.length := by
  obtain ⟨hle, ⟨w, hslice⟩, hlt⟩ := offers_spec hw.mem
  have hstop := size_of_slice? hslice
  obtain ⟨t, f⟩ := b
  cases t with
  | forbidden => exact absurd rfl hne
  | enter child =>
    have := hlt nofun
    refine ⟨hb, ?_⟩
    simp only [Config.after, ModeStack.push, List.length_cons]
    dsimp only at *
    omega
  | close =>
    cases habove : c.stack.above with
    | nil => exact absurd rfl (ne_close_of_bare hg hb habove hw.mem)
    | cons top rest =>
      simp only [Config.after, ModeStack.pop, habove, ModeStack.mode_bottom_setTextStart,
        ModeStack.length_above_setTextStart, List.length_cons]
      dsimp only at *
      exact ⟨hb, by omega⟩

theorem Path.length_le (h : Path g text c bs c') (hg : g.defaultMode.endPattern = none)
    (hb : c.stack.bottom.mode = 0) :
    bs.length + 2 * c.position + c'.stack.above.length ≤
      2 * c'.position + c.stack.above.length := by
  induction h with
  | nil => simp
  | cons hw hne _ ih =>
    obtain ⟨hb', hmove⟩ := succ_le_of_move hg hb hw hne
    have := ih hb'
    rw [List.length_cons]
    omega

/-- A path from the start is at most twice as long as the text. -/
theorem length_le_of_path (hg : g.defaultMode.endPattern = none) (h : Path g text {} bs c) :
    bs.length ≤ 2 * size text := by
  have hlen := h.length_le hg rfl
  have hle := (h.isPlace (isPlace_zero text)).le_size
  have h₀ : (({} : Config).stack.above).length = 0 := rfl
  have hp : ({} : Config).position = 0 := rfl
  omega

end Tint.Lexer
