import Tint.Grammar.KeywordSet
import Tint.Pattern

/-!
# Grammar definitions

A grammar is defined by its modes. The default mode is where reading starts; it has no boundaries.
Every other mode has a pattern that opens it and one that closes it, and names the modes that may
open inside it. Nothing in a definition has been checked.
-/

namespace Tint

/-- The relevance of a mode that states none. -/
def defaultRelevance : Int := 1

/-- The name by which a mode refers to the default mode. -/
def defaultModeReference : String := "$default"

/-- A mode as its author defined it. -/
structure ModeDefinition where
  className : String := ""
  beginSource : Option String := none
  endSource : Option String := none
  illegalSource : Option String := none
  /-- The modes that may open inside this one, in order of priority. -/
  contains : List String := []
  keywords : Keywords := .empty
  /-- The patterns that cut words out of the text of this mode. -/
  lexems : List String := []
  relevance : Int := defaultRelevance
deriving DecidableEq

/-- A grammar as its author defined it. -/
structure GrammarDefinition where
  name : String := ""
  options : PatternOptions := {}
  defaultMode : ModeDefinition
  modes : List ModeDefinition := []
deriving DecidableEq

namespace ModeDefinition

/-- A mode with its boundaries. -/
def bounded (className opener closer : String) : ModeDefinition :=
  { className, beginSource := some opener, endSource := some closer }

/-- Let further modes open inside a mode. -/
def containing (m : ModeDefinition) (names : List String) : ModeDefinition :=
  { m with contains := m.contains ++ names }

/-- Forbid text in a mode. -/
def forbidding (m : ModeDefinition) (source : String) : ModeDefinition :=
  { m with illegalSource := some source }

/-- Set the relevance of a mode. -/
def weighing (m : ModeDefinition) (relevance : Int) : ModeDefinition := { m with relevance }

/-- Add patterns that cut words out of the text of a mode. -/
def cutting (m : ModeDefinition) (sources : List String) : ModeDefinition :=
  { m with lexems := m.lexems ++ sources }

/-- Add words to a category of keywords. -/
def withKeywords (m : ModeDefinition) (category : String) (words : List String) :
    ModeDefinition :=
  { m with keywords := m.keywords.extend category words }

end ModeDefinition

end Tint
