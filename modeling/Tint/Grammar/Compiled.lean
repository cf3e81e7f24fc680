import Tint.ConfigError
import Tint.Grammar.Definition
import Tint.Grammar.KeywordTable
import Tint.Unicode.Blank

/-!
# Grammars

A grammar is made from its definition: every pattern is compiled, every reference is resolved,
and every word finds its category. A definition is refused at its first fault. First come faults
of the names: the name of the grammar, then the names of the modes in order. Then come those of
the modes, the default mode before the others, and in each mode those of its boundaries, of what
it forbids, of the modes it contains and of its lexems, in this order.

Modes are known by their index. The default mode has index zero, the others follow as defined.
-/

namespace Tint

/-- A mode, ready to read text with. -/
structure Mode where
  className : String
  /-- Nothing for the default mode alone. -/
  beginPattern : Option Pattern
  /-- Nothing for the default mode alone. -/
  endPattern : Option Pattern
  illegal : Option Pattern
  /-- The indices of the modes that may open inside this one. -/
  contains : List Nat
  keywords : KeywordTable
  /-- Empty where there are no keywords. -/
  lexems : List Pattern
  relevance : Int

/-- A grammar, ready to read text with. -/
structure Grammar where
  name : String
  options : PatternOptions
  defaultMode : Mode
  modes : List Mode

namespace Grammar

/-- The mode with an index. -/
def mode? (g : Grammar) : Nat → Option Mode
  | 0 => some g.defaultMode
  | i + 1 => g.modes[i]?

/-- The mode with an index, the default mode for an index that is out of range. -/
def mode (g : Grammar) (i : Nat) : Mode := (g.mode? i).getD g.defaultMode

/-- All modes, in the order of their indices. -/
def allModes (g : Grammar) : List Mode := g.defaultMode :: g.modes

/-- The number of modes, with the default mode. -/
def modeCount (g : Grammar) : Nat := g.modes.length + 1

/-- The index of a mode other than the default mode. -/
def modeIndex? (g : Grammar) (className : String) : Option Nat :=
  (g.modes.findIdx? fun m => m.className == className).map (· + 1)

/-! ## Compilation -/

/-- The pattern that cuts words out where a mode with keywords has no other. -/
def wordSource : String := "\\b\\w+"

/-- What is said of a pattern that is not a regular expression. This text stands in place of what a
parser would say of the pattern, be it about a place in it or about its size. -/
def invalidPatternMessage : String := "not a regular expression"

/-- The first name that occurs for a second time, or is the name of the default mode. -/
def firstClash (seen : List String) : List String → Option String
  | [] => none
  | n :: ns =>
    if n == defaultModeReference || seen.contains n then some n else firstClash (n :: seen) ns

/-- Where references and patterns of a mode are understood: the name of the grammar, its flags,
and the names of its modes in order. -/
structure Scope where
  grammar : String
  options : PatternOptions
  modeNames : List String

namespace Scope

/-- Compile a pattern of a mode. -/
def pattern (s : Scope) (mode : String) (field : PatternField) (source : String) :
    Except ConfigError Pattern :=
  match Pattern.compile? source s.options with
  | some p => .ok p
  | none => .error (.invalidPattern s.grammar mode field source invalidPatternMessage)

/-- Compile a pattern that a mode must have. -/
def required (s : Scope) (mode : String) (field : PatternField) (source : Option String) :
    Except ConfigError Pattern :=
  match source with
  | some source => s.pattern mode field source
  | none => .error (.missingPattern s.grammar mode field)

/-- Compile a pattern that a mode may have. -/
def optional (s : Scope) (mode : String) (field : PatternField) (source : Option String) :
    Except ConfigError (Option Pattern) :=
  match source with
  | some source => (s.pattern mode field source).map some
  | none => .ok none

/-- The index of the mode that a name refers to. -/
def resolve (s : Scope) (mode reference : String) : Except ConfigError Nat :=
  if reference == defaultModeReference then .ok 0
  else
    match s.modeNames.idxOf? reference with
    | some i => .ok (i + 1)
    | none => .error (.unresolvedReference s.grammar mode reference)

/-- The lexems that a mode reads with: none without keywords, and words where it has none. -/
def lexems (s : Scope) (mode : String) (keywords : KeywordTable) (declared : List Pattern) :
    Except ConfigError (List Pattern) :=
  if keywords.isEmpty then .ok []
  else if declared.isEmpty then (s.pattern mode .lexems wordSource).map ([·])
  else .ok declared

/-- Compile what every mode has, given its boundaries. -/
def inner (s : Scope) (d : ModeDefinition) (opener closer : Option Pattern) :
    Except ConfigError Mode := do
  let illegal ← s.optional d.className .illegal d.illegalSource
  let contains ← d.contains.mapM (s.resolve d.className)
  let keywords := KeywordTable.ofKeywords d.keywords s.options.caseInsensitive
  let declared ← d.lexems.mapM (s.pattern d.className .lexems)
  let lexems ← s.lexems d.className keywords declared
  return { className := d.className, beginPattern := opener, endPattern := closer, illegal,
           contains, keywords, lexems, relevance := d.relevance }

/-- Compile a mode with boundaries. -/
def bounded (s : Scope) (d : ModeDefinition) : Except ConfigError Mode := do
  let opener ← s.required d.className .beginPattern d.beginSource
  let closer ← s.required d.className .endPattern d.endSource
  s.inner d (some opener) (some closer)

end Scope

/-- Make a grammar with this name. -/
def compile (name : String) (d : GrammarDefinition) : Except ConfigError Grammar := do
  let name := Unicode.trim name
  if name.isEmpty then throw .emptyName
  let modeNames := d.modes.map (·.className)
  match firstClash [] modeNames with
  | some className => throw (.duplicateMode name className)
  | none =>
    let scope : Scope := { grammar := name, options := d.options, modeNames }
    let defaultMode ← scope.inner d.defaultMode none none
    let modes ← d.modes.mapM scope.bounded
    return { name, options := d.options, defaultMode, modes }

end Grammar

end Tint
