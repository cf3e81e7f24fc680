/-!
# Trees of files

A tree holds files and directories by name. A path names a place in it: its parts are separated
by slashes, a single point stands for the directory itself and two points for the one around it.
Directories are walked in depth; the entries of each, files and directories alike, come in the
order of their names.
-/

namespace Tint

/-- A file with its octets, or a directory with its entries. -/
inductive FileTree where
  | file (content : ByteArray)
  | directory (entries : List (String × FileTree))

/-! ## Paths -/

namespace Path

/-- The parts of a path, as they are written. -/
def parts (path : String) : List String := (path.toList.splitOn '/').map String.ofList

/-- The parts of a path that are neither empty nor a single point. -/
def steps (path : String) : List String := (parts path).filter fun p => p != "" && p != "."

/-- Whether a path can only name a directory, because it ends in a slash or a point. -/
def namesDirectory (path : String) : Bool :=
  match (parts path).getLast? with
  | some p => p == "" || p == "."
  | none => true

/-- The name that a path ends in. -/
def name? (path : String) : Option String :=
  (steps path).getLast?.bind fun p => if p == ".." then none else some p

/-- A name in front of its last point, and what follows the point. A point at the start of a name
does not count. -/
def splitName (name : String) : String × Option String :=
  let reversed := name.toList.reverse
  match reversed.span (· != '.') with
  | (_, []) => (name, none)
  | (_, [_]) => (name, none)
  | (after, _ :: before) => (String.ofList before.reverse, some (String.ofList after.reverse))

/-- What follows the last point of a path's name. -/
def extension? (path : String) : Option String := (name? path).bind fun n => (splitName n).2

/-- The name of a path in front of its extension. -/
def stem? (path : String) : Option String := (name? path).map fun n => (splitName n).1

/-- A path without the points and slashes that it starts with. -/
def dropHere (path : String) : String :=
  "/".intercalate ((parts path).dropWhile fun p => p == "" || p == ".")

/-- Whether a path starts outside all trees. -/
def isAbsolute (path : String) : Bool := path.startsWith "/"

/-- A path from a directory to a place in it; the empty path names the directory one is in. An
absolute path stays as it is. -/
def join (directory path : String) : String :=
  if isAbsolute path then path
  else if directory.isEmpty || directory.endsWith "/" then directory ++ path
  else directory ++ "/" ++ path

end Path

namespace FileTree

/-- The directory without entries. -/
def empty : FileTree := .directory []

/-- The entries of a directory; a file has none. -/
def entries : FileTree → List (String × FileTree)
  | .file _ => []
  | .directory es => es

def isDirectory : FileTree → Bool
  | .file _ => false
  | .directory _ => true

/-- Give a name an entry, in place of the one it has. -/
def putEntry (name : String) (t : FileTree) : List (String × FileTree) → List (String × FileTree)
  | [] => [(name, t)]
  | (n, u) :: rest => if name = n then (n, t) :: rest else (n, u) :: putEntry name t rest

/-- Put a tree at a place, making the directories on the way. -/
def put (t : FileTree) : List String → FileTree → FileTree
  | [], leaf => match leaf, t with
    | .directory [], .directory es => .directory es
    | _, _ => leaf
  | p :: ps, leaf =>
    .directory (putEntry p (put ((t.entries.lookup p).getD .empty) ps leaf) t.entries)

/-- The tree at the end of some steps; `around` are the directories on the way, innermost
first. -/
def follow (around : List FileTree) (t : FileTree) : List String → Option FileTree
  | [] => some t
  | p :: ps =>
    match t with
    | .file _ => none
    | .directory es =>
      if p = ".." then
        match around with
        | [] => none
        | d :: ds => follow ds d ps
      else (es.lookup p).bind fun u => follow (t :: around) u ps

/-- The tree that a path names; an absolute path names none. -/
def find? (t : FileTree) (path : String) : Option FileTree :=
  if Path.isAbsolute path then none
  else
    (t.follow [] (Path.steps path)).bind fun u =>
      if Path.namesDirectory path && !u.isDirectory then none else some u

/-- The text of the file that a path names, if it is one and is UTF-8. -/
def readText? (t : FileTree) (path : String) : Option String :=
  match t.find? path with
  | some (.file content) => String.fromUTF8? content
  | _ => none

/-! ## Walking -/

/-- Put the walks through the entries of a directory into the order of their names. -/
def inOrder (walks : List (String × List String)) : List String :=
  (walks.mergeSort fun a b => decide (a.1 ≤ b.1)).flatMap (·.2)

mutual

/-- The paths of the files in a tree, `path` being that of the tree. -/
def walk (path : String) : FileTree → List String
  | .file _ => [path]
  | .directory es => inOrder (walkEntries path es)

/-- The names of entries, with the paths of the files in each. -/
def walkEntries (path : String) : List (String × FileTree) → List (String × List String)
  | [] => []
  | (n, t) :: es => (n, walk (Path.join path n) t) :: walkEntries path es

end

end FileTree

end Tint
