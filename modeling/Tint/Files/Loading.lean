import Tint.Document.Encoding
import Tint.Files.Tree
import Tint.Registry

/-!
# Loading grammars from files

The extension of a file says which format it is in. A definition without a name takes that of its
file. From a directory every grammar is registered that can be; a file that cannot be loaded is
reported and keeps no other from being loaded.

Documents are read by a `DocumentReader`, and what it says of a text that it does not take is
reported as it stands; what is proved about loading holds for any reader. The one that `loadFile`
and `loadDirectory` have reads JSON, and of YAML the part that `GrammarDefinition.parseYaml?` knows.
-/

namespace Tint

/-- A format of grammar files. -/
inductive FileFormat where
  | json
  | yaml
deriving DecidableEq, Repr

namespace FileFormat

/-- The extensions of grammar files. -/
def extensions : List (String × FileFormat) := [("json", json), ("yaml", yaml), ("yml", yaml)]

/-- The extension of a file in lower case, empty where there is none. -/
def extensionOf (path : String) : String :=
  String.ofList (((Path.extension? path).getD "").toList.map Char.toLower)

/-- The format of a file, by its extension. -/
def ofPath? (path : String) : Option FileFormat :=
  (Path.extension? path).bind fun _ => extensions.lookup (extensionOf path)

/-- The definition in a text of a format. -/
def parse? : FileFormat → String → Option GrammarDefinition
  | json => GrammarDefinition.parseJson?
  | yaml => GrammarDefinition.parseYaml?

/-- The definition in a text of a format, or that it gives none. -/
def parse (format : FileFormat) (text : String) : Except DocumentFault GrammarDefinition :=
  (format.parse? text).elim (.error .malformed) .ok

end FileFormat

/-- What reads the definition in a text of a format, or says why the text gives none. -/
abbrev DocumentReader := FileFormat → String → Except DocumentFault GrammarDefinition

/-- A definition that takes a name if it has none. -/
def GrammarDefinition.named (d : GrammarDefinition) (name : Option String) : GrammarDefinition :=
  if (Unicode.trim d.name).isEmpty then { d with name := name.getD d.name } else d

/-- What was loaded from a directory: the names in order, and the files with what kept them from
being loaded. -/
structure LoadReport where
  loaded : List String := []
  errors : List (String × ConfigError) := []

/-- Whether every file was loaded. -/
def LoadReport.isOk (r : LoadReport) : Bool := r.errors.isEmpty

/-- The paths of the grammar files below a directory, in the order in which they are loaded. -/
def grammarFiles (directory : String) (t : FileTree) : List String :=
  (t.walk directory).filter fun p => (FileFormat.ofPath? p).isSome

namespace DocumentReader

/-- Load the file at a path of a tree; `root` is how the tree is called in messages. A file is
fetched before its extension is looked at. -/
def loadFile (reader : DocumentReader) (tree : FileTree) (root path : String) :
    Except ConfigError GrammarDefinition :=
  let source := Path.join root path
  match tree.readText? path with
  | none => .error (.document source .unreadable)
  | some text =>
    match FileFormat.ofPath? path with
    | none => .error (.document source (.unsupportedExtension (FileFormat.extensionOf path)))
    | some format =>
      match reader format text with
      | .error fault => .error (.document source fault)
      | .ok d => .ok (d.named (Path.stem? path))

/-- Load one file into a registry, and report it. -/
def loadInto (reader : DocumentReader) (tree : FileTree) (root : String)
    (s : LoadReport × Registry) (path : String) : LoadReport × Registry :=
  let (report, registry) := s
  let loaded := do
    let d ← reader.loadFile tree root path
    return (Unicode.trim d.name, ← registry.register d)
  match loaded with
  | .ok (name, registry) => ({ report with loaded := report.loaded ++ [name] }, registry)
  | .error e => ({ report with errors := report.errors ++ [(path, e)] }, registry)

/-- Load all grammar files below a directory into a registry. -/
def loadDirectory (reader : DocumentReader) (tree : FileTree) (root directory : String)
    (registry : Registry) : Except ConfigError (LoadReport × Registry) :=
  match tree.find? directory with
  | some (.directory es) =>
    .ok ((grammarFiles directory (.directory es)).foldl (reader.loadInto tree root)
      ({}, registry))
  | _ => .error (.document (Path.join root directory) .directoryNotFound)

end DocumentReader

/-- Load a file that is in JSON or in the part of YAML that is known. -/
def loadFile (tree : FileTree) (root path : String) : Except ConfigError GrammarDefinition :=
  DocumentReader.loadFile FileFormat.parse tree root path

/-- Load the files of a directory that are in JSON or in the part of YAML that is known. -/
def loadDirectory (tree : FileTree) (root directory : String) (registry : Registry) :
    Except ConfigError (LoadReport × Registry) :=
  DocumentReader.loadDirectory FileFormat.parse tree root directory registry

end Tint
