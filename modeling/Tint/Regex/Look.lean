import Tint.Unicode.Word

/-!
# Assertions

An assertion looks at the characters on both sides of a place in the text and consumes nothing.
Nothing before means the start of the text, nothing after its end.
-/

namespace Tint.Regex

/-- What may be asserted of a place. The flag of a word assertion says whether the word
characters of all scripts count, or only the ASCII ones. -/
inductive Look where
  | textStart
  | textEnd
  | lineStart
  | lineEnd
  /-- Lines that end in a carriage return, a line feed, or both in this order. -/
  | anyLineStart
  | anyLineEnd
  | wordBoundary (unicode : Bool)
  | notWordBoundary (unicode : Bool)
  | wordStart (unicode : Bool)
  | wordEnd (unicode : Bool)
  | wordStartHalf (unicode : Bool)
  | wordEndHalf (unicode : Bool)
deriving DecidableEq, Repr

namespace Look

/-- Whether a neighbour is a word character; a missing one is not. -/
def isWord (unicode : Bool) : Option Char → Bool
  | none => false
  | some c => if unicode then Unicode.word.mem c else Unicode.asciiWord.mem c

/-- Whether the assertion holds between two neighbours. -/
def holds (before after : Option Char) : Look → Bool
  | textStart => before.isNone
  | textEnd => after.isNone
  | lineStart => before.isNone || before == some '\n'
  | lineEnd => after.isNone || after == some '\n'
  | anyLineStart =>
    before.isNone || before == some '\n' || (before == some '\r' && after != some '\n')
  | anyLineEnd =>
    after.isNone || after == some '\r' || (after == some '\n' && before != some '\r')
  | wordBoundary u => isWord u before != isWord u after
  | notWordBoundary u => isWord u before == isWord u after
  | wordStart u => !isWord u before && isWord u after
  | wordEnd u => isWord u before && !isWord u after
  | wordStartHalf u => !isWord u before
  | wordEndHalf u => !isWord u after

end Look

end Tint.Regex
