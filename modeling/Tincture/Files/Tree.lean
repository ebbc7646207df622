import Tincture.Files.Path

/-!
# File trees

The files and directories that a program can reach, as a value: reading a file looks it up, writing
one gives a new tree. A path is followed name by name; every name but the last must lead to a
directory. A path that does not start at the root is followed from the working directory.
-/

namespace Tincture

open Text

/-- What a file holds. -/
inductive FileContent where
  | text (s : String)
  /-- Bytes that are no text. -/
  | binary
  deriving DecidableEq, Repr

/-- What a file holds by its bytes. -/
def FileContent.ofBytes (bytes : ByteArray) : FileContent :=
  match String.fromUTF8? bytes with
  | some s => text s
  | none => binary

inductive FileNode where
  | file (content : FileContent)
  | directory
  deriving DecidableEq, Repr

/-- Why a file cannot be read or written. -/
inductive FileError where
  | notFound
  | exists
  | notADirectory
  | isADirectory
  | notText
  deriving DecidableEq, Repr

/-- The text that is shown for a file error. -/
def FileError.message : FileError → String
  | notFound => "No such file or directory (os error 2)"
  | .exists => "File exists (os error 17)"
  | notADirectory => "Not a directory (os error 20)"
  | isADirectory => "Is a directory (os error 21)"
  | notText => "stream did not contain valid UTF-8"

/-- Files and directories by the names that lead to them from the root, which is always there. -/
structure FileTree where
  nodes : List (List String × FileNode) := []
  workingDirectory : List String := []

namespace FileTree

/-- The names that lead to a file or directory from the root. -/
abbrev Trail := List String

/-- What is at a place. -/
def node? (t : FileTree) (trail : Trail) : Option FileNode :=
  if trail = [] then some .directory else t.nodes.lookup trail

/-- The tree with a file or directory put at a place. -/
def set (t : FileTree) (trail : Trail) (node : FileNode) : FileTree :=
  { t with nodes := (trail, node) :: t.nodes.filter (·.1 ≠ trail) }

/-- The names of a path, from the root or from the working directory. -/
def names (path : String) : List String :=
  (splitOn '/' path.toList).map String.ofList

/-- Where a path starts. -/
def start (t : FileTree) (path : String) : Trail :=
  if Path.isAbsolute path then [] else t.workingDirectory

/-- Follows names from a place. The last name may lead to nothing yet. -/
def follow (t : FileTree) :
    Trail → FileNode → List String → Except FileError (Trail × Option FileNode)
  | trail, node, [] => .ok (trail, some node)
  | _, .file _, _ :: _ => .error .notADirectory
  | trail, .directory, name :: rest =>
    if name = "" ∨ name = "." then follow t trail .directory rest
    else if name = ".." then follow t trail.dropLast .directory rest
    else match t.node? (trail ++ [name]) with
      | some node => follow t (trail ++ [name]) node rest
      | none => if rest.all (· = "") then .ok (trail ++ [name], none) else .error .notFound

/-- What a path leads to. -/
def locate (t : FileTree) (path : String) : Except FileError (Trail × Option FileNode) :=
  if path = "" then .error .notFound else t.follow (t.start path) .directory (names path)

/-- Whether a path leads to a file or directory. -/
def contains (t : FileTree) (path : String) : Bool :=
  match t.locate path with
  | .ok (_, some _) => true
  | _ => false

/-- The text of a file. -/
def read (t : FileTree) (path : String) : Except FileError String := do
  match ← t.locate path with
  | (_, some (.file (.text s))) => return s
  | (_, some (.file .binary)) => throw .notText
  | (_, some .directory) => throw .isADirectory
  | (_, none) => throw .notFound

/-- The names in a directory, in their order; none if it is no directory. -/
def list (t : FileTree) (path : String) : List String :=
  match t.locate path with
  | .ok (trail, some .directory) =>
    let inside := t.nodes.filterMap fun (place, _) =>
      if place.dropLast = trail then place.getLast? else none
    inside.mergeSort fun a b => !(b < a)
  | _ => []

/-- Follows names from a place, and makes the directories that are not there. -/
def makeFrom (t : FileTree) : Trail → FileNode → List String → Except FileError FileTree
  | _, .directory, [] => .ok t
  | _, .file _, [] => .error .exists
  | _, .file _, _ :: _ => .error .notADirectory
  | trail, .directory, name :: rest =>
    if name = ".." then makeFrom t trail.dropLast .directory rest
    else match t.node? (trail ++ [name]) with
      | some node => makeFrom t (trail ++ [name]) node rest
      | none => makeFrom (t.set (trail ++ [name]) .directory) (trail ++ [name]) .directory rest

/-- Makes a directory, and those that lead to it. -/
def makeDirectory (t : FileTree) (path : String) : Except FileError FileTree :=
  t.makeFrom (t.start path) .directory ((Path.segments path).map String.ofList)

/-- Makes the directory that holds a file, and those that lead to it. -/
def makeParent (t : FileTree) (path : String) : Except FileError FileTree :=
  t.makeFrom (t.start path) .directory ((Path.parentSegments path).map String.ofList)

/-- Puts a content into a file, whose directory has to be there. -/
def put (t : FileTree) (path : String) (content : FileContent) : Except FileError FileTree := do
  match ← t.locate path with
  | (_, some .directory) => throw .isADirectory
  | (trail, some (.file _)) => return t.set trail (.file content)
  | (trail, none) =>
    if path.toList.getLast? = some '/' then throw .isADirectory
    return t.set trail (.file content)

/-- Writes a text to a file, whose directory has to be there. -/
def write (t : FileTree) (path text : String) : Except FileError FileTree :=
  t.put path (.text text)

end FileTree

end Tincture
