import Tint.OrderedMap

/-!
# Sets of keywords

The words of a category, each once, in the order they came in. Categories too keep the order they
came in, which is the order in which a word is looked for in them.
-/

namespace Tint

/-- Words in the order they came in; no word occurs twice. -/
structure KeywordSet where
  words : List String := []
  nodup : words.Nodup := by simp

namespace KeywordSet

instance : DecidableEq KeywordSet := fun a b =>
  if h : a.words = b.words then .isTrue (by cases a; cases b; simp_all)
  else .isFalse fun e => h (e ▸ rfl)

/-- The set without words. -/
def empty : KeywordSet := {}

def contains (s : KeywordSet) (word : String) : Bool := s.words.contains word

def size (s : KeywordSet) : Nat := s.words.length

def isEmpty (s : KeywordSet) : Bool := s.words.isEmpty

/-- Add a word at the end, if it is not there yet. -/
def insert (s : KeywordSet) (word : String) : KeywordSet :=
  if h : word ∈ s.words then s
  else
    { words := s.words ++ [word]
      nodup := List.nodup_append.2 ⟨s.nodup, by simp, by
        intro a ha b hb; simp only [List.mem_singleton] at hb; subst hb
        exact fun e => h (e ▸ ha)⟩ }

/-- Add several words. -/
def extend (s : KeywordSet) (words : List String) : KeywordSet := words.foldl insert s

/-- The set of the words of a list. -/
def ofList (words : List String) : KeywordSet := empty.extend words

theorem eq_of_words {s t : KeywordSet} (h : s.words = t.words) : s = t := by
  cases s
  cases t
  cases h
  rfl

theorem words_extend {s : KeywordSet} {words : List String} (h : (s.words ++ words).Nodup) :
    (s.extend words).words = s.words ++ words := by
  induction words generalizing s with
  | nil =>
    rw [List.append_nil]
    rfl
  | cons w ws ih =>
    have hw : w ∉ s.words := by
      intro hmem
      exact (List.nodup_append.1 h).2.2 w hmem w List.mem_cons_self rfl
    have hinsert : (s.insert w).words = s.words ++ [w] := by
      rw [insert, dif_neg hw]
    have hextend := ih (s := s.insert w) (by rwa [hinsert, List.append_assoc])
    rw [hinsert, List.append_assoc] at hextend
    exact hextend

theorem ofList_words (s : KeywordSet) : ofList s.words = s :=
  eq_of_words (words_extend (s := .empty) s.nodup)

end KeywordSet

/-- The categories of keywords of a mode. -/
abbrev Keywords := OrderedMap KeywordSet

/-- Add words to a category; a new category comes last. -/
def Keywords.extend (k : Keywords) (category : String) (words : List String) : Keywords :=
  k.put category (((k.get? category).getD .empty).extend words)

end Tint
