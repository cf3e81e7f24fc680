import Tint.Code

/-!
# Faults of grammars

A grammar that is at fault is not registered. The first fault found is reported.
-/

namespace Tint

/-- The patterns of a mode, and its lexems. -/
inductive PatternField where
  | beginPattern
  | endPattern
  | illegal
  | lexems
deriving DecidableEq, Repr

/-- The name of a field in a grammar. -/
def PatternField.text : PatternField → String
  | .beginPattern => "begin"
  | .endPattern => "end"
  | .illegal => "illegal"
  | .lexems => "lexems"

/-- Why a document gave no grammar. -/
inductive DocumentFault where
  /-- There is no such file, or it is no text. -/
  | unreadable
  /-- The text gives no definition. -/
  | malformed
  | unsupportedExtension (extension : String)
  | directoryNotFound
  /-- What a reader of documents says in its own words. -/
  | other (message : String)
deriving DecidableEq, Repr

/-- The wording of a fault of a document. For `unreadable` and `malformed` a fixed text stands in
place of what the system says of a file and what a reader of documents says of a text; only `other`
carries such words. -/
def DocumentFault.message : DocumentFault → String
  | .unreadable => "file cannot be read"
  | .malformed => "not a grammar definition"
  | .unsupportedExtension e => "unsupported grammar file extension '" ++ e ++ "'"
  | .directoryNotFound => "directory not found"
  | .other message => message

/-- A fault of a grammar. -/
inductive ConfigError where
  /-- A mode may contain a mode that does not exist. -/
  | unresolvedReference (grammar mode reference : String)
  /-- Two modes have one name, or a mode has the name of the default mode. -/
  | duplicateMode (grammar className : String)
  /-- A mode that is entered and left has no pattern for it. -/
  | missingPattern (grammar mode : String) (field : PatternField)
  /-- A pattern is not a regular expression. -/
  | invalidPattern (grammar mode : String) (field : PatternField) (pattern message : String)
  /-- A grammar of this name is there already. -/
  | duplicateGrammar (grammar : String)
  | emptyName
  /-- A document could not be read as a grammar. -/
  | document (source : String) (fault : DocumentFault)
deriving DecidableEq, Repr

namespace ConfigError

/-- The code of a fault. -/
def code : ConfigError → Code
  | unresolvedReference .. => .unresolvedReference
  | duplicateMode .. => .duplicateMode
  | missingPattern .. => .missingPattern
  | invalidPattern .. => .invalidPattern
  | duplicateGrammar .. => .duplicateGrammar
  | emptyName => .emptyName
  | document .. => .invalidDocument

/-- The wording of a fault. -/
def message : ConfigError → String
  | unresolvedReference g m r =>
    "grammar '" ++ g ++ "': mode '" ++ m ++ "' contains unknown mode '" ++ r ++ "'"
  | duplicateMode g c => "grammar '" ++ g ++ "': mode '" ++ c ++ "' is defined more than once"
  | missingPattern g m f =>
    "grammar '" ++ g ++ "': mode '" ++ m ++ "' has no '" ++ f.text ++ "' pattern"
  | invalidPattern g m f p text =>
    "grammar '" ++ g ++ "': mode '" ++ m ++ "' has invalid '" ++ f.text ++ "' pattern /" ++ p ++
      "/: " ++ text
  | duplicateGrammar g => "grammar '" ++ g ++ "' is already registered"
  | emptyName => "grammar name must not be empty"
  | document s f => "cannot load grammar from " ++ s ++ ": " ++ f.message

end ConfigError

end Tint
