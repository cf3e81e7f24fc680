import Tint.Lexer.Run
import Tint.Proofs.Compile
import Tint.Proofs.Search

/-!
# Remembering searches changes no answer

The invariant is `Memo.Sound`: each entry holds the answer that its pattern gives from its place.
One search keeps it (`Sound.find`), because its own answer is right (`answer_eq_searchIn`), and that
is the only thing to prove. An entry made from an earlier place is used only while its match lies
ahead; then it is also the answer from the new place, up to a match that starts at the new place
itself, where the text now begins. The pattern is tried there first.
-/

namespace Tint

open Text

variable {g : Grammar} {text rest : List Char} {position : Nat}

/-! ## Searches without a memo -/

/-- The pattern of a mode in a slot. -/
def Mode.pattern? (m : Mode) : Slot → Option Pattern
  | .opener => m.beginPattern
  | .closer => m.endPattern
  | .illegal => m.illegal

/-- The pattern that a key stands for in a grammar. -/
def Grammar.pattern? (g : Grammar) (key : Slot.Key) : Option Pattern :=
  (g.mode key.mode).pattern? key.slot

/-- Search a text from a place on for what a slot allows. -/
def Pattern.searchIn (p : Pattern) (slot : Slot) (text : List Char) (position : Nat) :
    Option Found :=
  match slot with
  | .closer => p.find text position
  | .opener | .illegal => p.findNonEmpty text position

theorem Pattern.searchIn_eq_searchFrom (p : Pattern) (slot : Slot)
    (hr : dropTo? text position = some rest) :
    p.searchIn slot text position = p.searchFrom slot rest position := by
  cases slot <;> simp [searchIn, find, findNonEmpty, searchFrom, Slot.allowsEmpty, hr]

/-- A search looks at its own place, with nothing before it, and then at the later ones. -/
theorem Pattern.searchFrom_eq (p : Pattern) (slot : Slot) (rest : List Char) (position : Nat) :
    p.searchFrom slot rest position =
      (p.startingAt slot rest position).or (p.laterMatch (!slot.allowsEmpty) rest position) := by
  rw [searchFrom, firstIn_eq_firstMatch, firstMatch_eq]
  rfl

/-- What is found from a place on lies at or after it, at places of the text. -/
theorem Pattern.searchIn_spec {p : Pattern} {slot : Slot} {f : Found}
    (h : p.searchIn slot text position = some f) :
    position ≤ f.start ∧ (∃ w, slice? text f.start f.stop = some w) ∧
      (slot ≠ .closer → f.start < f.stop) := by
  cases slot with
  | closer =>
    obtain ⟨rest, hr, h⟩ := Option.bind_eq_some_iff.1 h
    obtain ⟨hle, hw, -⟩ := firstIn_spec hr h
    exact ⟨hle, hw, fun hne => absurd rfl hne⟩
  | opener | illegal =>
    obtain ⟨rest, hr, h⟩ := Option.bind_eq_some_iff.1 h
    obtain ⟨hle, hw, hlt⟩ := firstIn_spec hr h
    exact ⟨hle, hw, fun _ => hlt rfl⟩

namespace Memo

/-! ## The invariant -/

theorem lookup_putEntry (key other : Slot.Key) (s : Searched) (l : List (Slot.Key × Searched)) :
    (putEntry key s l).lookup other = if other = key then some s else l.lookup other := by
  induction l with
  | nil => simp [putEntry, OrderedMap.lookup_cons]
  | cons e l ih =>
    obtain ⟨k, t⟩ := e
    by_cases h : key = k
    · subst h
      rw [putEntry, if_pos rfl, OrderedMap.lookup_cons, OrderedMap.lookup_cons]
      split <;> rfl
    · rw [putEntry, if_neg h, OrderedMap.lookup_cons, OrderedMap.lookup_cons, ih]
      by_cases hk : other = k
      · rw [if_pos hk, if_neg (hk ▸ Ne.symm h), if_pos hk]
      · rw [if_neg hk, if_neg hk]

theorem get?_put (m : Memo) (key other : Slot.Key) (s : Searched) :
    (m.put key s).get? other = if other = key then some s else m.get? other :=
  lookup_putEntry key other s m.entries

/-- Every entry holds what its pattern finds from its place. -/
def Sound (g : Grammar) (text : List Char) (m : Memo) : Prop :=
  ∀ key s, m.get? key = some s → ∃ p, g.pattern? key = some p ∧ IsPlace text s.position ∧
    s.found = p.searchIn key.slot text s.position

theorem sound_empty (g : Grammar) (text : List Char) : empty.Sound g text :=
  fun _ _ h => by cases h

/-! ## One search -/

/-- An answer remembered from an earlier place, and not passed since, is found behind the place
unless it starts there. -/
theorem laterMatch_eq_of_remembered {p : Pattern} {slot : Slot} {s : Searched}
    (hr : dropTo? text position = some rest) (hplace : IsPlace text s.position)
    (hfound : s.found = p.searchIn slot text s.position) (hlt : s.position < position)
    (hahead : ∀ f, s.found = some f → position < f.start) :
    p.laterMatch (!slot.allowsEmpty) rest position = s.found := by
  obtain ⟨rest₀, hr₀⟩ := isPlace_iff_dropTo?.1 hplace
  obtain ⟨pre, hpre, rfl⟩ := dropTo?_eq_some_iff.1 hr
  obtain ⟨pre₀, hpre₀, hsize⟩ := dropTo?_eq_some_iff.1 hr₀
  obtain ⟨u, rfl, rfl⟩ := exists_append_of_size_le (hpre₀.symm.trans hpre) (by omega)
  rw [p.searchIn_eq_searchFrom slot hr₀, Pattern.searchFrom,
    Pattern.firstIn_eq_firstMatch] at hfound
  obtain ⟨before, hb⟩ := Pattern.exists_firstMatch_of_le hfound.symm fun f hf => by
    have := hahead f hf
    rw [size_append] at this
    omega
  rw [← hsize, ← size_append] at hb
  exact Pattern.laterMatch_eq_of_firstMatch hb fun f hf => by
    have := hahead f hf
    omega

/-- The answer to a search, be it remembered or not, is that of the search itself. -/
theorem answer_eq_searchIn {p : Pattern} {slot : Slot} {last : Option Searched}
    (hr : dropTo? text position = some rest)
    (hlast : ∀ s, last = some s →
      IsPlace text s.position ∧ s.found = p.searchIn slot text s.position) :
    answer last slot p rest position = p.searchIn slot text position := by
  have hsearch := p.searchIn_eq_searchFrom slot hr
  cases last with
  | none => exact hsearch.symm
  | some s =>
    obtain ⟨hplace, hfound⟩ := hlast s rfl
    simp only [answer, answerBy]
    split
    · next heq => rw [hfound, heq]
    split
    · exact hsearch.symm
    next hne hge =>
    have hlt : s.position < position := by omega
    rw [hsearch]
    split
    · next hnone =>
      have hlater := laterMatch_eq_of_remembered hr hplace hfound hlt (by simp [hnone])
      rw [p.searchFrom_eq, hlater, hnone, Option.or_none]
    · next f hsome =>
      split
      · rfl
      next hpassed =>
      split
      · next b hb => rw [p.searchFrom_eq, hb, Option.some_or]
      · next hb =>
        split
        · rfl
        next hstart =>
        -- The remembered match starts behind the place, so trying there has shown all there is.
        have hlater := laterMatch_eq_of_remembered hr hplace hfound hlt fun f' hf' => by
          rw [hsome, Option.some.injEq] at hf'
          subst hf'
          omega
        rw [p.searchFrom_eq, hb, Option.none_or, hlater, hsome]

/-- A search beside a sound memo gives the answer of the search itself, and a sound memo. -/
theorem Sound.find {m : Memo} {key : Slot.Key} {p : Pattern} (hm : m.Sound g text)
    (hp : g.pattern? key = some p) (hr : dropTo? text position = some rest) :
    (m.find key p rest position).1 = p.searchIn key.slot text position ∧
      (m.find key p rest position).2.Sound g text := by
  have hanswer : answer (m.get? key) key.slot p rest position =
      p.searchIn key.slot text position := by
    refine answer_eq_searchIn hr fun s hs => ?_
    obtain ⟨p', hp', hplace, hfound⟩ := hm key s hs
    rw [hp, Option.some.injEq] at hp'
    subst hp'
    exact ⟨hplace, hfound⟩
  refine ⟨hanswer, fun other s hs => ?_⟩
  rw [Memo.find, get?_put] at hs
  split at hs
  · next heq =>
    rw [Option.some.injEq] at hs
    subst heq hs
    exact ⟨p, hp, isPlace_of_dropTo? hr, hanswer⟩
  · exact hm other s hs

end Memo

end Tint
