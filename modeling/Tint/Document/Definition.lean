import Tint.Document.Node
import Tint.Grammar.Definition

/-!
# Grammar definitions in documents

A definition is a mapping. Fields that are not known are left aside, a known field must not be
repeated, and a field that is missing has its default; only the default mode must be there. In a
format that allows it, a mode may be written as the list of its fields.

The words of a category of keywords are a list of texts, or the keys of a mapping whose values do
not matter. A category that is given again replaces the words and keeps its place.
-/

namespace Tint.Document

/-- The greatest relevance. -/
def maxRelevance : Int := (1 <<< 31 : Nat) - 1

/-- The least relevance. -/
def minRelevance : Int := -(1 <<< 31 : Nat)

/-! ## Values of fields -/

/-- A list of texts. -/
def texts? (n : Node) : Option (List String) := n.items?.bind fun items => items.mapM Node.text?

/-- A text, or nothing. -/
def optionalText? : Node → Option (Option String)
  | .scalar s => if s.absent then some none else s.text.map some
  | _ => none

/-- Whether a field is on. -/
def bool? : Node → Option Bool
  | .scalar s => s.bool
  | _ => none

/-- A relevance, which fits into 32 bits. -/
def relevance? : Node → Option Int
  | .scalar s => s.int.bind fun i => if minRelevance ≤ i && i ≤ maxRelevance then some i else none
  | _ => none

/-- A text that is one by itself. -/
def word? : Node → Option String
  | .scalar s => s.word
  | _ => none

/-- The words of a category. The value is kept before it is known to be a list or a mapping. -/
def keywordSet? (depth : Nat) (n : Node) : Option KeywordSet :=
  if n.keepable depth then
    match n with
    | .list items => (items.mapM word?).map .ofList
    | .mapping entries => (entries.mapM fun e => word? e.1).map .ofList
    | .scalar _ => none
  else none

/-- The categories of keywords. -/
def keywords? (depth : Nat) (n : Node) : Option Keywords :=
  n.entries?.bind fun entries =>
    entries.foldlM
      (fun (k : Keywords) e => do
        let category ← e.1.text?
        let words ← keywordSet? depth e.2
        return k.put category words)
      .empty

/-! ## Modes -/

/-- The fields of a mode, in the order of their list form. -/
inductive ModeField where
  | className
  | opener
  | closer
  | illegal
  | contains
  | keywords
  | lexems
  | relevance
deriving DecidableEq

namespace ModeField

/-- All fields of a mode, in the order of their list form. -/
def all : List ModeField :=
  [className, opener, closer, illegal, contains, keywords, lexems, relevance]

/-- The name of a field. -/
def text : ModeField → String
  | className => "className"
  | opener => "begin"
  | closer => "end"
  | illegal => "illegal"
  | contains => "contains"
  | keywords => "keywords"
  | lexems => "lexems"
  | relevance => "relevance"

/-- The field with a name. -/
def ofText? (name : String) : Option ModeField := all.find? fun f => f.text == name

/-- Give a field its value; `depth` is how deeply what is kept may be nested. -/
def set? (depth : Nat) (m : ModeDefinition) (n : Node) : ModeField → Option ModeDefinition
  | className => n.text?.map fun className => { m with className }
  | opener => (optionalText? n).map fun beginSource => { m with beginSource }
  | closer => (optionalText? n).map fun endSource => { m with endSource }
  | illegal => (optionalText? n).map fun illegalSource => { m with illegalSource }
  | contains => (texts? n).map fun contains => { m with contains }
  | keywords => (keywords? depth n).map fun keywords => { m with keywords }
  | lexems => (texts? n).map fun lexems => { m with lexems }
  | relevance => (relevance? n).map fun relevance => { m with relevance }

end ModeField

/-- The fields of a mode from a mapping; `given` are those that have been given. -/
def modeFields? (depth : Nat) (m : ModeDefinition) (given : List ModeField) :
    List (Node × Node) → Option ModeDefinition
  | [] => some m
  | (k, v) :: rest => do
    match ModeField.ofText? (← k.text?) with
    | none => modeFields? depth m given rest
    | some f =>
      if given.contains f then none
      else modeFields? depth (← f.set? depth m v) (f :: given) rest

/-- The fields of a mode from a list, those at its end having their defaults. -/
def modeItems? (depth : Nat) (m : ModeDefinition) : List ModeField → List Node →
    Option ModeDefinition
  | _, [] => some m
  | [], _ :: _ => none
  | f :: fs, n :: ns => do modeItems? depth (← f.set? depth m n) fs ns

/-- A mode, `level` lists and mappings deep in its document. -/
def mode? (format : Format) (level : Nat) (n : Node) : Option ModeDefinition :=
  let depth := format.nestingLimit - (level + 2)
  match n with
  | .list items => if format.modesAsLists then modeItems? depth {} ModeField.all items else none
  | n => n.entries?.bind (modeFields? depth {} [])

/-! ## Definitions -/

/-- The fields of a definition. -/
inductive Field where
  | name
  | caseInsensitive
  | multiLine
  | defaultMode
  | modes
deriving DecidableEq

/-- The name of a field. -/
def Field.text : Field → String
  | name => "name"
  | caseInsensitive => "caseInsensitive"
  | multiLine => "multiLine"
  | defaultMode => "defaultMode"
  | modes => "modes"

/-- The field with a name. -/
def Field.ofText? (name : String) : Option Field :=
  [Field.name, caseInsensitive, multiLine, defaultMode, modes].find? fun f => f.text == name

/-- What has been read of a definition. -/
structure Draft where
  name : String := ""
  options : PatternOptions := {}
  defaultMode : Option ModeDefinition := none
  modes : List ModeDefinition := []
  given : List Field := []

/-- Give a field its value. -/
def Draft.set? (format : Format) (d : Draft) (n : Node) (f : Field) : Option Draft :=
  if d.given.contains f then none
  else
    let d := { d with given := f :: d.given }
    match f with
    | .name => n.text?.map fun name => { d with name }
    | .caseInsensitive =>
      (bool? n).map fun b => { d with options := { d.options with caseInsensitive := b } }
    | .multiLine => (bool? n).map fun b => { d with options := { d.options with multiLine := b } }
    | .defaultMode => (mode? format 1 n).map fun m => { d with defaultMode := some m }
    | .modes =>
      (n.items?.bind fun items => items.mapM (mode? format 2)).map fun modes => { d with modes }

/-- The fields of a definition from a mapping. -/
def Draft.fields? (format : Format) (d : Draft) : List (Node × Node) → Option Draft
  | [] => some d
  | (k, v) :: rest => do
    match Field.ofText? (← k.text?) with
    | none => if v.keepable (format.nestingLimit - 1) then d.fields? format rest else none
    | some f => (← d.set? format v f).fields? format rest

/-- The definition that a document holds. -/
def definition? (format : Format) (n : Node) : Option GrammarDefinition := do
  let draft ← Draft.fields? format {} (← n.entries?)
  let defaultMode ← draft.defaultMode
  return { name := draft.name, options := draft.options, defaultMode, modes := draft.modes }

end Tint.Document
