import Tint.Code
import Tint.Span

/-!
# Diagnostics

A diagnostic records a condition that did not stop the reading of a text.
-/

namespace Tint

/-- How much a diagnostic matters. -/
inductive Severity where
  | error
  | warning
  | hint
deriving DecidableEq, Repr

instance : Inhabited Severity := ⟨.warning⟩

/-- The written form of a severity. -/
def Severity.text : Severity → String
  | .error => "error"
  | .warning => "warning"
  | .hint => "hint"

def Severity.isError (s : Severity) : Bool := s == .error

/-- A condition met while a text was read, where it was met and in which mode. -/
structure Diagnostic where
  code : Code
  severity : Severity := .warning
  message : String := code.message
  range : TextRange
  mode : String
deriving DecidableEq, Repr

namespace Diagnostic

/-- The diagnostic of a mode that was entered at one place and still open at another; nothing if
the places are in the wrong order. -/
def unterminated? (mode : String) (entry stop : Nat) : Option Diagnostic :=
  (TextRange.between? entry stop).map fun range =>
    { code := .unterminatedMode, range, mode
      message := "mode '" ++ mode ++ "' is not terminated before end of input" }

/-- The written form of a diagnostic. -/
def text (d : Diagnostic) : String :=
  d.severity.text ++ "[" ++ d.code.text ++ "]: " ++ d.message ++ " at " ++ d.range.text

end Diagnostic

end Tint
