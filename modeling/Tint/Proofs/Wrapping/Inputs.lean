import Tint.Proofs.Case.Alike
import Tint.Pattern

/-!
# Inputs with a parenthesis behind them

When the text of a pattern is put in parentheses, its reader meets the closing one where the text
itself ends. To follow the reader through both texts, `Input.Closes` relates what is left of them:
the second has the parenthesis behind it. Where blanks are ignored a comment may take it in, and
then the same is left of both.

**What a reader sees.** A reader looks at the next character, sometimes at the one behind it, or
asks for a text or a name. Of this both inputs show the same (`Closes.cons`,
`Closes.peekSkipping_iff`, `Closes.after?`, `Closes.takeWhile`), until nothing is left of the first.

**What a reader gives.** If it succeeds on the first input, it gives the same on the second, and
what is left is related again (`Keeps`, `Beside`). If it fails on the first, no more is said: a
group that is left open there may be closed by the parenthesis. Readers that follow each other are
put together by `Keeps.bind`.
-/

namespace Tint.Regex

/-- The second input is the first with a parenthesis behind it, or that has been passed. -/
inductive Input.Closes : Input → Input → Prop
  | kept (i : Input) : Closes i { i with rest := i.rest ++ [')'] }
  | lost (i : Input) : Closes i i

/-- If something comes out first, something that is related to it comes out second. -/
inductive Keeps {α : Type} (R : α → α → Prop) : Option α → Option α → Prop
  | none (o : Option α) : Keeps R none o
  | some {a a' : α} : R a a' → Keeps R (some a) (some a')

/-- The same is read, and what is left is related. -/
inductive Beside {α β : Type} (R : β → β → Prop) : α × β → α × β → Prop
  | mk (a : α) {b b' : β} : R b b' → Beside R (a, b) (a, b')

theorem Keeps.bind {α β : Type} {R : α → α → Prop} {S : β → β → Prop} {o o' : Option α}
    {f f' : α → Option β} (h : Keeps R o o') (hf : ∀ a a', R a a' → Keeps S (f a) (f' a')) :
    Keeps S (o.bind f) (o'.bind f') := by
  cases h with
  | none => exact .none _
  | some ha => exact hf _ _ ha

theorem Keeps.bind_same {α β : Type} {S : β → β → Prop} (o : Option α) {f f' : α → Option β}
    (hf : ∀ a, Keeps S (f a) (f' a)) : Keeps S (o.bind f) (o.bind f') := by
  cases o with
  | none => exact .none _
  | some a => exact hf a

/-- A budget that is no smaller than one that goes down can go down, and stays no smaller. -/
theorem exists_budget {budget budget' : Nat} (h : budget + 1 ≤ budget') :
    ∃ n, budget' = n + 1 ∧ budget ≤ n :=
  ⟨budget' - 1, by omega, by omega⟩

open Input

variable {i i' j j' : Input} {cs : List Char} {budget budget' : Nat}

namespace Input

/-! ## Blanks -/

theorem dropBlanks_concat (inComment : Bool) (cs : List Char) :
    dropBlanks inComment (cs ++ [')']) = dropBlanks inComment cs ++ [')'] ∨
      dropBlanks inComment (cs ++ [')']) = dropBlanks inComment cs := by
  induction cs generalizing inComment with
  | nil =>
    cases inComment with
    | true => exact .inr rfl
    | false => exact .inl (by decide +kernel)
  | cons c cs ih =>
    simp only [List.cons_append, dropBlanks]
    split
    · exact ih _
    · split
      · exact ih _
      · split
        · exact ih _
        · exact .inl rfl

theorem length_dropBlanks_le (inComment : Bool) (cs : List Char) :
    (dropBlanks inComment cs).length ≤ cs.length := by
  induction cs generalizing inComment with
  | nil => exact Nat.le_refl _
  | cons c cs ih =>
    simp only [dropBlanks]
    split
    · exact Nat.le_succ_of_le (ih _)
    · split
      · exact Nat.le_succ_of_le (ih _)
      · split
        · exact Nat.le_succ_of_le (ih _)
        · exact Nat.le_refl _

theorem dropWhile_blank_concat (cs : List Char) :
    (cs ++ [')']).dropWhile Unicode.blank.mem = cs.dropWhile Unicode.blank.mem ++ [')'] := by
  have hclosing : [')'].dropWhile Unicode.blank.mem = [')'] := by decide +kernel
  rw [List.dropWhile_append, hclosing]
  split
  · next hempty => rw [List.isEmpty_iff.1 hempty]; rfl
  · rfl

/-- A text without a parenthesis comes next, or does not, whether or not one stands at the end. -/
theorem prefix_concat_iff {text : List Char} (htext : ')' ∉ text) :
    text <+: cs ++ [')'] ↔ text <+: cs := by
  rw [List.prefix_concat_iff]
  refine or_iff_right fun hwhole => htext ?_
  rw [hwhole]
  simp

/-! ## Single characters -/

theorem Closes.skip (h : Closes i i') : Closes i.skip i'.skip := by
  cases h with
  | lost => exact .lost _
  | kept =>
    unfold Input.skip
    dsimp only
    split
    · rcases dropBlanks_concat false i.rest with hkept | hlost
      · rw [hkept]
        exact .kept { i with rest := dropBlanks false i.rest }
      · rw [hlost]
        exact .lost _
    · exact .kept i

theorem Closes.bump (h : Closes i i') : Closes i.bump i'.bump := by
  cases h with
  | lost => exact .lost _
  | kept =>
    obtain ⟨cs, ignoreBlanks, groups, names⟩ := i
    cases cs with
    | nil => exact .lost _
    | cons c cs => exact .kept ⟨cs, ignoreBlanks, groups, names⟩

theorem Closes.next (h : Closes i i') : Closes i.next i'.next := h.bump.skip

theorem Closes.withBlanks (h : Closes i i') (ignoreBlanks : Bool) :
    Closes { i with ignoreBlanks } { i' with ignoreBlanks } := by
  cases h with
  | lost => exact .lost _
  | kept => exact .kept { i with ignoreBlanks }

theorem Closes.ignoreBlanks_eq (h : Closes i i') : i'.ignoreBlanks = i.ignoreBlanks := by
  cases h <;> rfl

theorem Closes.length_le (h : Closes i i') : i.rest.length ≤ i'.rest.length := by
  cases h with
  | lost => exact Nat.le_refl _
  | kept => simp

theorem length_next_le (i : Input) : i.next.rest.length ≤ i.rest.length - 1 := by
  have hskip : i.bump.skip.rest.length ≤ i.bump.rest.length := by
    unfold Input.skip
    split
    · exact length_dropBlanks_le ..
    · exact Nat.le_refl _
  rwa [Input.next, ← List.length_tail]

theorem Closes.cons {c : Char} (h : Closes i i') (hrest : i.rest = c :: cs) :
    ∃ ds, i'.rest = c :: ds := by
  cases h with
  | lost => exact ⟨cs, hrest⟩
  | kept => exact ⟨cs ++ [')'], by simp [hrest]⟩

theorem Closes.nil (h : Closes i i') (hrest : i.rest = []) : i'.rest = [] ∨ i'.rest = [')'] := by
  cases h with
  | lost => exact .inl hrest
  | kept => exact .inr (by simp [hrest])

theorem Closes.cons_of {c : Char} (h : Closes i i') (hc : c ≠ ')') (hrest : i'.rest = c :: cs) :
    ∃ ds, i.rest = c :: ds := by
  cases hfirst : i.rest with
  | nil =>
    rcases h.nil hfirst with hrest' | hrest'
    · cases hrest'.symm.trans hrest
    · cases hrest'.symm.trans hrest
      exact absurd rfl hc
  | cons d ds =>
    obtain ⟨us, hrest'⟩ := h.cons hfirst
    cases hrest'.symm.trans hrest
    exact ⟨ds, rfl⟩

/-- A text without a parenthesis comes next in both inputs or in none. -/
theorem Closes.after? (h : Closes i i') {text : String} (htext : ')' ∉ text.toList) :
    Option.Rel Closes (i.after? text) (i'.after? text) := by
  cases h with
  | lost =>
    cases i.after? text with
    | none => exact .none
    | some j => exact .some (.lost j)
  | kept =>
    have hstarts : text.toList.isPrefixOf (i.rest ++ [')']) = text.toList.isPrefixOf i.rest := by
      rw [Bool.eq_iff_iff, List.isPrefixOf_iff_prefix, List.isPrefixOf_iff_prefix,
        prefix_concat_iff htext]
    unfold Input.after?
    dsimp only
    rw [hstarts]
    split
    · next htaken =>
      have hle := (List.isPrefixOf_iff_prefix.1 htaken).length_le
      rw [String.length_toList] at hle
      rw [List.drop_append_of_le_length hle]
      exact .some (.kept { i with rest := i.rest.drop text.length })
    · exact .none

/-- Whether a character, other than the parenthesis, comes after the next is the same. -/
theorem Closes.peekSkipping_iff (h : Closes i i') {c : Char} (hc : c ≠ ')') :
    i'.peekSkipping = some c ↔ i.peekSkipping = some c := by
  have hhead : ∀ cs : List Char, (cs ++ [')']).head? = some c ↔ cs.head? = some c := by
    intro cs
    cases cs with
    | nil => simpa using Ne.symm hc
    | cons d cs => exact Iff.rfl
  cases h with
  | lost => exact Iff.rfl
  | kept =>
    obtain ⟨cs, ignoreBlanks, groups, names⟩ := i
    cases cs with
    | nil => simp [Input.peekSkipping]
    | cons d cs =>
      simp only [Input.peekSkipping, List.cons_append, List.tail_cons]
      split
      · rw [dropWhile_blank_concat]
        cases cs.dropWhile Unicode.blank.mem with
        | nil => exact hhead []
        | cons d ds =>
          by_cases hd : d = '#'
          · subst hd
            simp only [List.cons_append, dropWhile_blank_concat]
            exact hhead _
          · simp [hd]
      · exact hhead cs

/-! ## Names and numbers -/

theorem Closes.takeWhile (h : Closes i i') {q : Char → Bool} (hq : q ')' = true) :
    (i'.rest.takeWhile q = i.rest.takeWhile q ∧
      Closes { i with rest := i.rest.drop (i.rest.takeWhile q).length }
        { i' with rest := i'.rest.drop (i.rest.takeWhile q).length }) ∨
    (i.rest.drop (i.rest.takeWhile q).length = [] ∧
      i'.rest.drop (i'.rest.takeWhile q).length = []) := by
  cases h with
  | lost => exact .inl ⟨rfl, .lost _⟩
  | kept =>
    dsimp only
    rw [List.takeWhile_append]
    split
    · next hall =>
      right
      rw [hall, List.takeWhile_cons_of_pos hq]
      simp
    · left
      refine ⟨rfl, ?_⟩
      rw [List.drop_append_of_le_length (List.takeWhile_prefix _).length_le]
      exact .kept { i with rest := i.rest.drop (i.rest.takeWhile q).length }

theorem Closes.dropBlank (h : Closes i i') :
    Closes { i with rest := i.rest.dropWhile Unicode.blank.mem }
      { i' with rest := i'.rest.dropWhile Unicode.blank.mem } := by
  cases h with
  | lost => exact .lost _
  | kept =>
    dsimp only
    rw [dropWhile_blank_concat]
    exact .kept { i with rest := i.rest.dropWhile Unicode.blank.mem }

end Input

theorem Keeps.read {α : Type} (a : α) (h : Closes j j') :
    Keeps (Beside Closes) (Option.some (a, j)) (Option.some (a, j')) :=
  .some (.mk a h)

theorem Keeps.same {α : Type} (o : Option (α × Input)) : Keeps (Beside Closes) o o := by
  rcases o with _ | ⟨a, j⟩
  · exact .none _
  · exact .read a (.lost j)

end Tint.Regex
