import Tint.Grammar.KeywordSet
import Tint.Unicode.Lowercase

/-!
# Keyword tables

A table answers which category a word belongs to. A word that is listed in several categories
belongs to the first. Where case is ignored, words are compared in lower case.
-/

namespace Tint

/-- Words with their categories, each word once. -/
structure KeywordTable where
  /-- The categories in order of priority. -/
  categories : List String := []
  words : OrderedMap String := .empty
  caseInsensitive : Bool := false

namespace KeywordTable

/-- A word as it is compared. -/
def normalize (caseInsensitive : Bool) (word : String) : String :=
  if caseInsensitive then Unicode.lowercase word else word

/-- Give a word a category, unless it has one. -/
def add (caseInsensitive : Bool) (category : String) (words : OrderedMap String)
    (word : String) : OrderedMap String :=
  let key := normalize caseInsensitive word
  if words.contains key then words else words.put key category

/-- The table of the words of all categories. -/
def ofKeywords (keywords : Keywords) (caseInsensitive : Bool) : KeywordTable where
  categories := keywords.names
  words := keywords.entries.foldl
    (fun words e => e.2.words.foldl (add caseInsensitive e.1) words) .empty
  caseInsensitive

/-- The category of a word. -/
def category? (t : KeywordTable) (word : String) : Option String :=
  t.words.get? (normalize t.caseInsensitive word)

def isEmpty (t : KeywordTable) : Bool := t.words.isEmpty

/-- The number of different words. -/
def size (t : KeywordTable) : Nat := t.words.size

end KeywordTable

end Tint
