import Mathlib.Data.List.Forall2
import Tint.Proofs.Places
import Tint.Regex.Meaning

/-!
# Texts that differ in case only

Two characters are alike when they are the same ASCII letter in one case or the other, or the same
character (`alikeChar_cases`). Texts are alike when their characters are, one by one. Case changes
no size, so places mean the same in texts that are alike (`dropTo?_alike`).

**Sets.** A set is *caseless* when it holds both cases of an ASCII letter or neither, so it does not
tell alike characters apart (`CharSet.Caseless.mem_eq`). All operations on sets keep this, and
`caseFold` brings it about (`caseless_caseFold`): a capital is no folding of any character and folds
to its small letter only, and a small letter folds to nothing else. So a capital and its small
letter are both in the folded set exactly when one of the characters that fold to the small letter
was in the set.

**Lower case (`lowercase_alike`).** Alike texts have the same lower-case form. The form of a sigma
depends on the letters around it, but not on their case.
-/

namespace Tint

/-! ## Characters -/

theorem toNat_toLower (c : Char) :
    c.toLower.toNat = if 65 ≤ c.toNat ∧ c.toNat ≤ 90 then c.toNat + 32 else c.toNat := by
  have hcapital : (c.val ≥ 'A'.val ∧ c.val ≤ 'Z'.val) ↔ 65 ≤ c.toNat ∧ c.toNat ≤ 90 := Iff.rfl
  unfold Char.toLower
  by_cases h : c.val ≥ 'A'.val ∧ c.val ≤ 'Z'.val
  · have hbound := hcapital.1 h
    rw [dif_pos h, if_pos hbound]
    show (c.val + 32).toNat = _
    rw [UInt32.toNat_add]
    show (c.toNat + 32) % 2 ^ 32 = c.toNat + 32
    exact Nat.mod_eq_of_lt (by omega)
  · rw [dif_neg h, if_neg (mt hcapital.2 h)]

/-- The characters are the same, up to the case of an ASCII letter. -/
def AlikeChar (c d : Char) : Prop := c.toLower = d.toLower

instance : DecidableRel AlikeChar := fun c d => inferInstanceAs (Decidable (c.toLower = d.toLower))

/-- Characters that are alike and not the same are the two cases of a letter. -/
theorem alikeChar_cases {c d : Char} (h : AlikeChar c d) :
    c = d ∨ ∃ i < 26, (c.toNat = 65 + i ∧ d.toNat = 97 + i) ∨
      (c.toNat = 97 + i ∧ d.toNat = 65 + i) := by
  have hcodes := congrArg Char.toNat h
  rw [toNat_toLower, toNat_toLower] at hcodes
  by_cases hsame : c.toNat = d.toNat
  · exact .inl (Char.toNat_inj.1 hsame)
  · refine .inr ⟨min c.toNat d.toNat - 65, ?_, ?_⟩ <;>
      split at hcodes <;> split at hcodes <;> omega

theorem AlikeChar.utf8Size_eq {c d : Char} (h : AlikeChar c d) : c.utf8Size = d.utf8Size := by
  have hascii : ∀ c : Char, c.toNat ≤ 127 → c.utf8Size = 1 := fun c hc => if_pos hc
  rcases alikeChar_cases h with rfl | ⟨i, hi, ⟨hc, hd⟩ | ⟨hc, hd⟩⟩
  · rfl
  · rw [hascii c (by omega), hascii d (by omega)]
  · rw [hascii c (by omega), hascii d (by omega)]

/-! ## Texts -/

namespace Text

/-- The texts are the same, up to the case of ASCII letters. -/
def Alike (cs ds : List Char) : Prop := List.Forall₂ AlikeChar cs ds

variable {cs ds us vs : List Char}

/-- Texts are alike when they are the same with all ASCII letters in lower case. -/
theorem alike_iff_map_toLower : Alike cs ds ↔ cs.map Char.toLower = ds.map Char.toLower := by
  rw [← List.forall₂_eq_eq_eq, List.forall₂_map_left_iff, List.forall₂_map_right_iff]
  exact Iff.rfl

instance : DecidableRel Alike := fun _ _ => decidable_of_iff _ alike_iff_map_toLower.symm

namespace Alike

theorem append (h : Alike cs ds) (h' : Alike us vs) : Alike (cs ++ us) (ds ++ vs) :=
  List.rel_append h h'

theorem isEmpty_eq (h : Alike cs ds) : ds.isEmpty = cs.isEmpty := by
  cases h <;> rfl

theorem size_eq (h : Alike cs ds) : size ds = size cs := by
  induction h with
  | nil => rfl
  | cons hc _ ih => rw [size_cons, size_cons, ih, hc.utf8Size_eq]

end Alike

theorem rel_bind {α β : Type} {R : α → α → Prop} {S : β → β → Prop} {o o' : Option α}
    {f f' : α → Option β} (h : Option.Rel R o o')
    (hf : ∀ a a', R a a' → Option.Rel S (f a) (f' a')) : Option.Rel S (o.bind f) (o'.bind f') := by
  cases h with
  | none => exact .none
  | some h => exact hf _ _ h

theorem rel_map {α : Type} {R : α → α → Prop} {o o' : Option α} {f f' : α → α}
    (h : Option.Rel R o o') (hf : ∀ a a', R a a' → R (f a) (f' a')) :
    Option.Rel R (o.map f) (o'.map f') := by
  cases h with
  | none => exact .none
  | some h => exact .some (hf _ _ h)

theorem dropTo?_alike (h : Alike cs ds) (n : Nat) :
    Option.Rel Alike (dropTo? cs n) (dropTo? ds n) := by
  induction h generalizing n with
  | nil => cases n <;> constructor; exact .nil
  | cons hc h ih =>
    cases n with
    | zero => exact .some (.cons hc h)
    | succ n =>
      rw [dropTo?, dropTo?, ← hc.utf8Size_eq]
      split
      · exact ih _
      · exact .none

theorem takeTo?_alike (h : Alike cs ds) (n : Nat) :
    Option.Rel Alike (takeTo? cs n) (takeTo? ds n) := by
  induction h generalizing n with
  | nil => cases n <;> constructor; exact .nil
  | cons hc h ih =>
    cases n with
    | zero => exact .some .nil
    | succ n =>
      rw [takeTo?, takeTo?, ← hc.utf8Size_eq]
      split
      · exact rel_map (ih _) fun _ _ htaken => .cons hc htaken
      · exact .none

theorem slice?_alike (h : Alike cs ds) (start stop : Nat) :
    Option.Rel Alike (slice? cs start stop) (slice? ds start stop) := by
  unfold slice?
  split
  · exact rel_bind (dropTo?_alike h start) fun _ _ hrest => takeTo?_alike hrest (stop - start)
  · exact .none

theorem between_alike (h : Alike cs ds) (start stop : Nat) :
    Alike (between cs start stop) (between ds start stop) := by
  have hslice := slice?_alike h start stop
  unfold between
  generalize slice? cs start stop = w, slice? ds start stop = w' at hslice ⊢
  cases hslice with
  | none => exact .nil
  | some hslice => exact hslice

theorem splitAt_alike (h : Alike cs ds) (n : Nat) :
    Alike (splitAt cs n).1 (splitAt ds n).1 ∧ Alike (splitAt cs n).2 (splitAt ds n).2 := by
  induction h generalizing n with
  | nil => exact ⟨.nil, .nil⟩
  | @cons c d _ _ hc h ih =>
    rw [splitAt, splitAt, ← hc.utf8Size_eq]
    split
    · obtain ⟨htaken, hdropped⟩ := ih (n - c.utf8Size)
      exact ⟨.cons hc htaken, hdropped⟩
    · exact ⟨.nil, .cons hc h⟩

end Text

/-! ## Sets of characters -/

namespace CharSet

/-- The set holds both cases of an ASCII letter or neither. -/
def Caseless (s : CharSet) : Prop := ∀ i < 26, s.memCode (97 + i) = s.memCode (65 + i)

instance (s : CharSet) : Decidable s.Caseless :=
  inferInstanceAs (Decidable (∀ i < 26, s.memCode (97 + i) = s.memCode (65 + i)))

variable {s t : CharSet} {pairs : List (Nat × Nat)} {c : Nat}

theorem Caseless.mem_eq (hs : s.Caseless) {c d : Char} (h : AlikeChar c d) : s.mem c = s.mem d := by
  unfold mem
  rcases alikeChar_cases h with rfl | ⟨i, hi, ⟨hc, hd⟩ | ⟨hc, hd⟩⟩
  · rfl
  · rw [hc, hd, hs i hi]
  · rw [hc, hd, hs i hi]

/-! ### Operations -/

theorem Caseless.combine (hs : s.Caseless) (ht : t.Caseless) {f : Bool → Bool → Bool}
    (hf : f false false = false) : (CharSet.combine f s t).Caseless := by
  intro i hi
  rw [memCode_combine f hf, memCode_combine f hf, hs i hi, ht i hi]

theorem Caseless.union (hs : s.Caseless) (ht : t.Caseless) : (s.union t).Caseless :=
  hs.combine ht rfl

theorem Caseless.compl (hs : s.Caseless) : s.compl.Caseless :=
  Caseless.combine (s := all) (by decide) hs rfl

/-! ### Folding -/

theorem memCode_codes_self (n c : Nat) : (codes n n).memCode c = decide (n = c) := by
  rw [codes, dif_pos (Nat.le_refl n)]
  show Bounds.memFrom false [n, n + 1] c = _
  rcases Nat.lt_trichotomy c n with h | rfl | h
  · rw [Bounds.memFrom, if_pos h, decide_eq_false (by omega)]
  · rw [Bounds.memFrom, if_neg (by omega), Bounds.memFrom, if_pos (by omega), decide_eq_true rfl]
    rfl
  · rw [Bounds.memFrom, if_neg (by omega), Bounds.memFrom, if_neg (by omega),
      decide_eq_false (by omega)]
    rfl

/-- Members are kept, and the second character of each pair whose first is a member is added. -/
theorem memCode_addAlong :
    (s.addAlong pairs).memCode c = true ↔
      s.memCode c = true ∨ ∃ n, (n, c) ∈ pairs ∧ s.memCode n = true := by
  have hstep : ∀ (t : CharSet) (p : Nat × Nat),
      (if s.memCode p.1 && !t.memCode p.2 then t.union (codes p.2 p.2) else t).memCode c = true ↔
        t.memCode c = true ∨ p.2 = c ∧ s.memCode p.1 = true := by
    intro t p
    split
    · next h =>
      have hmem : s.memCode p.1 = true := by
        rw [Bool.and_eq_true] at h
        exact h.1
      rw [CharSet.union, memCode_combine _ rfl, memCode_codes_self, Bool.or_eq_true,
        decide_eq_true_eq, hmem]
      simp
    · next h =>
      refine ⟨.inl, fun hc => hc.elim id ?_⟩
      rintro ⟨rfl, hmem⟩
      simpa [hmem] using h
  have hgen : ∀ t : CharSet,
      (pairs.foldl (fun t p =>
        if s.memCode p.1 && !t.memCode p.2 then t.union (codes p.2 p.2) else t) t).memCode c =
          true ↔ t.memCode c = true ∨ ∃ n, (n, c) ∈ pairs ∧ s.memCode n = true := by
    induction pairs with
    | nil => simp
    | cons p pairs ih =>
      intro t
      rw [List.foldl_cons, ih, hstep, or_assoc]
      refine or_congr_right ?_
      constructor
      · rintro (⟨rfl, hmem⟩ | ⟨n, hn, hmem⟩)
        · exact ⟨p.1, List.mem_cons_self, hmem⟩
        · exact ⟨n, List.mem_cons_of_mem _ hn, hmem⟩
      · rintro ⟨n, hn, hmem⟩
        rcases List.mem_cons.1 hn with rfl | hn
        · exact .inl ⟨rfl, hmem⟩
        · exact .inr ⟨n, hn, hmem⟩
  exact hgen s

/-- A capital folds to its small letter only, and nothing folds to it. -/
theorem capital_of_mem_foldingPairs : ∀ p ∈ Unicode.foldingPairs,
    (65 ≤ p.1 ∧ p.1 ≤ 90 → p.2 = p.1 + 32) ∧ ¬(97 ≤ p.1 ∧ p.1 ≤ 122) ∧
      ¬(65 ≤ p.2 ∧ p.2 ≤ 90) := by
  decide +kernel

theorem mem_foldingPairs_capital : ∀ i < 26, (65 + i, 97 + i) ∈ Unicode.foldingPairs := by
  decide +kernel

theorem memCode_caseFold :
    s.caseFold.memCode c = true ↔ (s.addAlong Unicode.foldingPairs).memCode c = true ∨
      ∃ n, (c, n) ∈ Unicode.foldingPairs ∧ (s.addAlong Unicode.foldingPairs).memCode n = true := by
  rw [caseFold, memCode_addAlong]
  refine or_congr_right (exists_congr fun n => and_congr_left fun _ => ?_)
  rw [List.mem_map]
  constructor
  · rintro ⟨p, hp, heq⟩
    cases heq
    exact hp
  · exact fun h => ⟨(c, n), h, rfl⟩

/-- A set with all characters that are equal up to case is caseless. -/
theorem caseless_caseFold (s : CharSet) : s.caseFold.Caseless := by
  intro i hi
  have hpair := mem_foldingPairs_capital i hi
  -- both cases are in the folded set when the small letter is the folding of a member
  have hsmall : s.caseFold.memCode (97 + i) = true ↔
      (s.addAlong Unicode.foldingPairs).memCode (97 + i) = true := by
    rw [memCode_caseFold]
    refine ⟨fun h => h.elim id ?_, .inl⟩
    rintro ⟨n, hn, -⟩
    have hletter := (capital_of_mem_foldingPairs _ hn).2.1
    dsimp only at hletter
    omega
  have hcapital : s.caseFold.memCode (65 + i) = true ↔
      (s.addAlong Unicode.foldingPairs).memCode (97 + i) = true := by
    rw [memCode_caseFold]
    constructor
    · rintro (h | ⟨n, hn, h⟩)
      · rw [memCode_addAlong] at h ⊢
        rcases h with h | ⟨n, hn, -⟩
        · exact .inr ⟨65 + i, hpair, h⟩
        · have hletter := (capital_of_mem_foldingPairs _ hn).2.2
          dsimp only at hletter
          omega
      · have hletter := (capital_of_mem_foldingPairs _ hn).1
        dsimp only at hletter
        rwa [hletter (by omega), show 65 + i + 32 = 97 + i by omega] at h
    · exact fun h => .inr ⟨97 + i, hpair, h⟩
  rw [Bool.eq_iff_iff, hsmall, hcapital]

end CharSet

namespace Regex.Flags

/-- Among the first 128 characters too, both cases of a letter are added. -/
theorem caseless_foldAscii (s : CharSet) : (foldAscii s).Caseless := by
  have hmem : ∀ n, 65 ≤ n → n ≤ 122 → (foldAscii s).memCode n = s.caseFold.memCode n := by
    intro n hlow hhigh
    have hascii : ascii.memCode n = true := by
      show Bounds.memFrom false [0, 128] n = true
      rw [Bounds.memFrom, if_neg (by omega), Bounds.memFrom, if_pos (by omega)]
      rfl
    rw [foldAscii, CharSet.union, CharSet.memCode_combine _ rfl, CharSet.inter,
      CharSet.memCode_combine _ rfl, hascii, Bool.and_true, Bool.eq_iff_iff, Bool.or_eq_true]
    refine ⟨fun h => h.elim (fun h => ?_) id, .inr⟩
    exact CharSet.memCode_caseFold.2 (.inl (CharSet.memCode_addAlong.2 (.inl h)))
  intro i hi
  rw [hmem _ (by omega) (by omega), hmem _ (by omega) (by omega)]
  exact CharSet.caseless_caseFold s i hi

theorem caseless_fold {flags : Flags} (h : flags.ignoreCase = true) (s : CharSet) :
    (flags.fold s).Caseless := by
  unfold fold
  rw [if_pos h]
  split
  · exact CharSet.caseless_caseFold s
  · exact caseless_foldAscii s

theorem caseless_negate? {flags : Flags} {negated : Bool} {s t : CharSet} (hs : s.Caseless)
    (h : flags.negate? negated s = some t) : t.Caseless := by
  unfold negate? at h
  split at h
  · split at h
    · cases h
      exact hs.compl
    · cases h
  · cases h
    exact hs

end Regex.Flags

/-! ## Lower case -/

namespace Unicode

open Text

variable {cs ds us vs : List Char}

theorem caseless_caseIgnorable : caseIgnorable.Caseless := by decide +kernel

theorem caseless_cased : cased.Caseless := by decide +kernel

theorem dropWhile_alike {s : CharSet} (hs : s.Caseless) (h : Alike cs ds) :
    Alike (cs.dropWhile s.mem) (ds.dropWhile s.mem) := by
  induction h with
  | nil => exact .nil
  | @cons c d cs ds hc h ih =>
    rw [List.dropWhile_cons, List.dropWhile_cons, ← hs.mem_eq hc]
    split
    · exact ih
    · exact .cons hc h

theorem startsCased_alike (h : Alike cs ds) : startsCased cs = startsCased ds := by
  have hrest := dropWhile_alike caseless_caseIgnorable h
  unfold startsCased
  generalize cs.dropWhile caseIgnorable.mem = rest, ds.dropWhile caseIgnorable.mem = rest'
    at hrest ⊢
  cases hrest with
  | nil => rfl
  | cons hc _ => exact caseless_cased.mem_eq hc

theorem lowerChar_alike {c d : Char} (h : AlikeChar c d) : lowerChar c = lowerChar d := by
  rcases alikeChar_cases h with rfl | ⟨i, hi, ⟨hc, hd⟩ | ⟨hc, hd⟩⟩
  · rfl
  · rw [lowerChar, lowerChar, if_pos (by omega), if_pos (by omega), h]
  · rw [lowerChar, lowerChar, if_pos (by omega), if_pos (by omega), h]

theorem lowerFrom_alike (hbefore : Alike us vs) (h : Alike cs ds) :
    lowerFrom us cs = lowerFrom vs ds := by
  induction h generalizing us vs with
  | nil => rfl
  | @cons c d cs ds hc h ih =>
    rw [lowerFrom, lowerFrom, ih (.cons hc hbefore), startsCased_alike hbefore,
      startsCased_alike h, lowerChar_alike hc]
    have hsigma : c.toNat = 0x3A3 ↔ d.toNat = 0x3A3 := by
      rcases alikeChar_cases hc with rfl | ⟨i, hi, ⟨hc, hd⟩ | ⟨hc, hd⟩⟩
      · exact Iff.rfl
      · omega
      · omega
    simp only [hsigma]

theorem lowercase_alike {s t : String} (h : Alike s.toList t.toList) : lowercase s = lowercase t :=
  congrArg String.ofList (lowerFrom_alike .nil h)

end Unicode

end Tint
