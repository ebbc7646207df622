import Tincture.Files.Tree
import Tincture.Theme.Basic

/-!
# Where themes come from

A theme is built in, a file, or one of the files in a directory of the user's own. A theme of the
user goes before a built-in one with the same name.
-/

namespace Tincture

/-- The scheme of the places of built-in themes. -/
def builtinScheme : String := "builtin:"

/-- The text of a theme file, or an error that names the file. -/
def Theme.readFile (files : FileTree) (name path : String) : Except ThemeError String :=
  match files.read path with
  | .ok text => .ok text
  | .error e => .error (.fetch name s!"{path}: {e.message}")

/-- The path of a theme that is a file, seen from the directory `root`, if there is one. -/
def Theme.path (root : Option String) (url : String) : String :=
  Path.within root (Path.ofUrl url)

/-- The data of a theme that is built in or a file. -/
def ThemeData.load (files : FileTree) (root : Option String) (name url : String) :
    Except ThemeError ThemeData :=
  match Path.withoutPrefix? builtinScheme url with
  | some id => match builtinThemes.find? (·.id = id) with
    | some t => ofJson name t.json
    | none => .error (.unknown id)
  | none => do
    let text ← Theme.readFile files name (Theme.path root url)
    ofJson name text

namespace Theme

/-- The theme of a file. In the file's own name the extension does not count. -/
def ofFile (files : FileTree) (path : String) : Except ThemeError Theme := do
  let name := ((Path.fileStem? path).map String.ofList).getD "theme"
  let text ← readFile files name path
  ofJson name text

/-- The theme with a name: the user's own, else the built-in one. -/
def find (files : FileTree) (directory : String) (id : String) : Except ThemeError Theme :=
  let path := Path.join directory (id ++ ".json")
  if files.contains path then ofFile files path else builtin id

end Theme

/-- Whose theme it is. -/
inductive ThemeOrigin where
  | user
  | builtin
  deriving DecidableEq, Repr

/-- A theme in a list. -/
structure ThemeInfo where
  id : String
  name : String
  origin : ThemeOrigin
  deriving DecidableEq, Repr

namespace ThemeInfo

/-- A theme for the list; one that cannot be read is listed under its own name. -/
def of (id : String) (origin : ThemeOrigin) (theme : Except ThemeError Theme) : ThemeInfo :=
  match theme with
  | .ok t => ⟨id, t.name, origin⟩
  | .error _ => ⟨id, id, origin⟩

/-- The themes in a directory of the user's own. -/
def userThemes (files : FileTree) (directory : String) : List ThemeInfo :=
  (files.list directory).filterMap fun file =>
    match Path.extension? file, Path.fileStem? file with
    | some e, some stem =>
      if e = "json".toList then
        some (of (String.ofList stem) .user (Theme.ofFile files (Path.join directory file)))
      else none
    | _, _ => none

/-- All themes: the user's own, and the built-in ones that they do not replace. -/
def all (files : FileTree) (directory : Option String) : List ThemeInfo :=
  let mine := match directory with
    | some directory => userThemes files directory
    | none => []
  let builtins := builtinThemes.filter fun t => !mine.any (·.id = t.id)
  mine ++ builtins.map fun t => of t.id .builtin (Theme.ofJson t.id t.json)

end ThemeInfo

end Tincture
