/-!
# Codes of errors and diagnostics

Every error and every diagnostic has a code. The first digit after the `H` tells a fault of a
grammar, found before any text is read, from a fault met while a text is read.
-/

namespace Tint

/-- What went wrong. -/
inductive Code where
  | unresolvedReference
  | duplicateMode
  | missingPattern
  | invalidPattern
  | duplicateGrammar
  | emptyName
  | invalidDocument
  | illegalSequence
  | unterminatedMode
  | stepLimitExceeded
  | nestingTooDeep
  | unknownLanguage
  | noGrammars
deriving DecidableEq, Repr

/-- Who has to act on a code. -/
inductive Code.Category where
  | configuration
  | lexing
  | lookup
deriving DecidableEq, Repr

namespace Code

/-- All codes, in the order of their numbers. -/
def all : List Code :=
  [unresolvedReference, duplicateMode, missingPattern, invalidPattern, duplicateGrammar, emptyName,
    invalidDocument, illegalSequence, unterminatedMode, stepLimitExceeded, nestingTooDeep,
    unknownLanguage, noGrammars]

/-- The written form of a code. -/
def text : Code → String
  | unresolvedReference => "H0101"
  | duplicateMode => "H0102"
  | missingPattern => "H0103"
  | invalidPattern => "H0104"
  | duplicateGrammar => "H0105"
  | emptyName => "H0106"
  | invalidDocument => "H0107"
  | illegalSequence => "H0201"
  | unterminatedMode => "H0202"
  | stepLimitExceeded => "H0203"
  | nestingTooDeep => "H0204"
  | unknownLanguage => "H0205"
  | noGrammars => "H0206"

/-- The code with this written form. -/
def ofText? (text : String) : Option Code := all.find? fun c => c.text == text

/-- The category of a code. -/
def category : Code → Category
  | unresolvedReference | duplicateMode | missingPattern | invalidPattern | duplicateGrammar
  | emptyName | invalidDocument => .configuration
  | illegalSequence | unterminatedMode | stepLimitExceeded | nestingTooDeep => .lexing
  | unknownLanguage | noGrammars => .lookup

/-- The name of a category. -/
def Category.text : Category → String
  | .configuration => "configuration error"
  | .lexing => "lexing error"
  | .lookup => "lookup error"

/-- The message of a code where nothing more is known. -/
def message : Code → String
  | unresolvedReference => "unresolved mode reference"
  | duplicateMode => "duplicate mode class name"
  | missingPattern => "missing required pattern"
  | invalidPattern => "invalid regular expression"
  | duplicateGrammar => "duplicate grammar name"
  | emptyName => "empty grammar name"
  | invalidDocument => "invalid grammar document"
  | illegalSequence => "illegal sequence"
  | unterminatedMode => "unterminated mode"
  | stepLimitExceeded => "step limit exceeded"
  | nestingTooDeep => "nesting too deep"
  | unknownLanguage => "unknown language"
  | noGrammars => "no grammars registered"

/-- Whether a grammar is at fault. -/
def isConfiguration (c : Code) : Bool := c.category == .configuration

/-- Whether a text is read to its end all the same. -/
def isRecoverable (c : Code) : Bool := c == unterminatedMode

end Code

end Tint
