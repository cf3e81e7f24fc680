import Tint.CharSet

/-!
# White space
-/

namespace Tint.Unicode

/-- White space: the blanks and line breaks of all scripts. -/
def blank : CharSet where
  bounds := [
    9, 14, 32, 33, 133, 134, 160, 161, 5760, 5761, 8192, 8203, 8232, 8234, 8239, 8240, 8287, 8288,
    12288, 12289]

/-- White space among the first 128. -/
def asciiBlank : CharSet := ⟨[9, 14, 32, 33], by decide⟩

/-- The text without the white space at its two ends. -/
def trim (s : String) : String :=
  String.ofList ((s.toList.dropWhile blank.mem).reverse.dropWhile blank.mem).reverse

end Tint.Unicode
