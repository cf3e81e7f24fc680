import Tint.Json.Number

/-!
# JSON values

A value keeps what a reader may have to tell apart later: the order of an object's members and
repeated names in it, numbers as they were written, and texts that are not Unicode because they
hold half of a surrogate pair.
-/

namespace Tint.Json

/-- A JSON value. A missing text stands for one that is not Unicode. -/
inductive Value where
  | null
  | bool (b : Bool)
  | number (n : Number)
  | string (s : Option String)
  | array (items : List Value)
  | object (members : List (Option String × Value))

namespace Value

def ofInt (i : Int) : Value := .number (.ofInt i)

def ofString (s : String) : Value := .string (some s)

def ofStrings (l : List String) : Value := .array (l.map ofString)

/-- A text, or nothing. -/
def ofString? : Option String → Value
  | some s => ofString s
  | none => .null

/-- An object with these members. -/
def ofMembers (members : List (String × Value)) : Value :=
  .object (members.map fun m => (some m.1, m.2))

end Value

end Tint.Json
