import Tint.Grammar.Compiled
import Tint.LexError
import Tint.OrderedMap

/-!
# Registries

A registry holds grammars by name, in the order in which they came in. A grammar is compiled
before it is registered, so every grammar in a registry is ready. Names are registered without the
white space around them; they are looked up as given.
-/

namespace Tint

/-- Grammars by name. -/
structure Registry where
  grammars : OrderedMap Grammar := .empty

namespace Registry

/-- The registry without grammars. -/
def empty : Registry := {}

/-- The names in the order of registration. -/
def names (r : Registry) : List String := r.grammars.names

/-- The grammars in the order of registration. -/
def all (r : Registry) : List Grammar := r.grammars.values

def size (r : Registry) : Nat := r.grammars.size

def isEmpty (r : Registry) : Bool := r.grammars.isEmpty

/-- The grammar with a name. -/
def get? (r : Registry) (name : String) : Option Grammar := r.grammars.get? name

def contains (r : Registry) (name : String) : Bool := r.grammars.contains name

/-- Register a grammar under a name. A name that is taken is refused before the definition is
looked at; the name of the compiled grammar is looked up once more before the grammar goes in. -/
def registerAs (r : Registry) (name : String) (d : GrammarDefinition) :
    Except ConfigError Registry :=
  let name := Unicode.trim name
  if r.contains name then .error (.duplicateGrammar name)
  else do
    let g ← Grammar.compile name d
    if r.contains g.name then .error (.duplicateGrammar g.name)
    else return { grammars := r.grammars.put g.name g }

/-- Register a grammar under its own name. -/
def register (r : Registry) (d : GrammarDefinition) : Except ConfigError Registry :=
  r.registerAs d.name d

/-- Remove the grammar with a name; says whether there was one. -/
def unregister (r : Registry) (name : String) : Bool × Registry :=
  (r.contains name, { grammars := r.grammars.erase name })

/-- The place of a name in the order of registration; a name without one is refused. -/
def place (r : Registry) (name : String) : Except LexError Nat :=
  match r.names.idxOf? name with
  | some i => .ok i
  | none => .error (.unknownLanguage name)

/-- The grammars with these names, in the order of registration, each once; all grammars if no
name is given. The places of the names are sorted, those that come more than once are taken once,
and the grammars are fetched by place. -/
def select (r : Registry) (names : List String) : Except LexError (List Grammar) :=
  if r.isEmpty then .error .noGrammars
  else if names.isEmpty then .ok r.all
  else
    (names.mapM r.place).map fun places =>
      places.mergeSort.eraseReps.filterMap fun i => r.all[i]?

end Registry

end Tint
