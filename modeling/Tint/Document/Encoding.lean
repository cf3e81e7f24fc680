import Tint.Document.Definition
import Tint.Json.Printer
import Tint.Json.Reader
import Tint.Yaml.Scalar

/-!
# Grammar definitions in texts

A definition is written in JSON with all its fields. It is read from any JSON text that gives it,
and from YAML texts that do without block scalars, anchors, aliases, tags and directives.
-/

namespace Tint

open Json (Value)

/-- The categories of keywords, each with the list of its words. -/
def Keywords.toJson (k : Keywords) : Value :=
  .ofMembers (k.entries.map fun e => (e.1, .ofStrings e.2.words))

/-- A mode with all its fields. -/
def ModeDefinition.toJson (m : ModeDefinition) : Value :=
  .ofMembers [
    ("className", .ofString m.className),
    ("begin", .ofString? m.beginSource),
    ("end", .ofString? m.endSource),
    ("illegal", .ofString? m.illegalSource),
    ("contains", .ofStrings m.contains),
    ("keywords", m.keywords.toJson),
    ("lexems", .ofStrings m.lexems),
    ("relevance", .ofInt m.relevance)]

/-- A definition with all its fields. -/
def GrammarDefinition.toJson (d : GrammarDefinition) : Value :=
  .ofMembers [
    ("name", .ofString d.name),
    ("caseInsensitive", .bool d.options.caseInsensitive),
    ("multiLine", .bool d.options.multiLine),
    ("defaultMode", d.defaultMode.toJson),
    ("modes", .array (d.modes.map ModeDefinition.toJson))]

namespace GrammarDefinition

/-- The printed form of a definition. -/
def render (d : GrammarDefinition) : String := d.toJson.pretty

/-- The definition that a JSON value gives. -/
def ofJson? (v : Value) : Option GrammarDefinition :=
  Document.definition? Document.jsonFormat (.ofJson v)

/-- The definition that a JSON text gives. -/
def parseJson? (source : String) : Option GrammarDefinition :=
  (Value.read? source).bind ofJson?

/-- The definition that a YAML text gives. A text that has a block scalar, an anchor, an alias, a
tag or a directive gives none here, also where a reader of all YAML would find one. -/
def parseYaml? (source : String) : Option GrammarDefinition :=
  (Yaml.Node.read? source).bind fun n => Document.definition? Yaml.format n.toDocument

end GrammarDefinition

end Tint
