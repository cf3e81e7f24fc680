import Tint.Code
import Tint.Text.Quoted

/-!
# Errors of reading a text

An error stops the reading of a text, or the search for the grammar to read it with.
-/

namespace Tint

/-- Why a text was not read to its end. -/
inductive LexError where
  /-- Text that the mode does not allow. -/
  | illegalSequence (offset : Nat) (text grammar mode : String)
  /-- More transitions than allowed. -/
  | stepLimitExceeded (grammar : String) (limit : Nat)
  /-- More modes open at once than allowed. -/
  | nestingTooDeep (grammar : String) (depth offset : Nat)
  | unknownLanguage (name : String)
  | noGrammars
deriving DecidableEq, Repr

namespace LexError

/-- The code of an error. -/
def code : LexError → Code
  | illegalSequence .. => .illegalSequence
  | stepLimitExceeded .. => .stepLimitExceeded
  | nestingTooDeep .. => .nestingTooDeep
  | unknownLanguage .. => .unknownLanguage
  | noGrammars => .noGrammars

/-- The place of an error in the text. -/
def offset? : LexError → Option Nat
  | illegalSequence offset .. => some offset
  | nestingTooDeep _ _ offset => some offset
  | _ => none

/-- The wording of an error. -/
def message : LexError → String
  | illegalSequence offset text grammar mode =>
    "illegal sequence " ++ Text.quoted text ++ " at offset " ++ toString offset ++ " in mode '" ++
      mode ++ "' of grammar '" ++ grammar ++ "'"
  | stepLimitExceeded grammar limit =>
    "grammar '" ++ grammar ++ "' exceeded the step limit of " ++ toString limit
  | nestingTooDeep grammar depth offset =>
    "grammar '" ++ grammar ++ "' nested deeper than " ++ toString depth ++ " modes at offset " ++
      toString offset
  | unknownLanguage name => "unknown language '" ++ name ++ "'"
  | noGrammars => "no grammars registered"

end LexError

end Tint
