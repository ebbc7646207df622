import Tincture.Text.LetterCase
import Tincture.Text.Split

/-!
# Paths

A path is a text whose segments are separated by slashes; it is absolute if it starts with one.
Empty segments and single dots do not count.
-/

namespace Tincture.Path

open Text

/-- The segments of a path that count. -/
def segments (path : String) : List (List Char) :=
  (splitOn '/' path.toList).filter fun s => !s.isEmpty && s != ['.']

/-- Whether a path starts at the root. -/
def isAbsolute (path : String) : Bool :=
  path.toList.head? == some '/'

/-- A path seen from a directory; an absolute one stays as it is. -/
def join (dir path : String) : String :=
  if isAbsolute path || dir.isEmpty then path
  else if dir.toList.getLast? == some '/' then dir ++ path
  else dir ++ "/" ++ path

/-- A path seen from a directory, if there is one. -/
def within (dir : Option String) (path : String) : String :=
  match dir with
  | some dir => join dir path
  | none => path

/-- What stands after a prefix, if a text starts with it. -/
def withoutPrefix? (start text : String) : Option String :=
  if start.toList.isPrefixOf text.toList then
    some (String.ofList (text.toList.drop start.toList.length))
  else none

/-- The path of a file that may be given as a URL. -/
def ofUrl (location : String) : String :=
  (withoutPrefix? "file://" location).getD location

/-- The last segment of a path; there is none at the root and above a directory. -/
def fileName? (path : String) : Option (List Char) :=
  (segments path).getLast?.filter (· != ['.', '.'])

/-- What stands before and after the last dot of a text that does not start with its only dot. -/
def splitAtLastDot (name : List Char) : Option (List Char × List Char) :=
  let after := (name.reverse.takeWhile (· != '.')).reverse
  let before := name.take (name.length - after.length - 1)
  if after.length = name.length || before.isEmpty then none else some (before, after)

/-- What stands after the last dot of a file name; a name that starts with its only dot has no
extension. -/
def extension? (path : String) : Option (List Char) :=
  (fileName? path).bind fun name => (splitAtLastDot name).map (·.2)

/-- A file name without its extension. -/
def fileStem? (path : String) : Option (List Char) :=
  (fileName? path).map fun name => match splitAtLastDot name with
    | some (before, _) => before
    | none => name

/-- The segments of the directory that holds a file. -/
def parentSegments (path : String) : List (List Char) :=
  (segments path).dropLast

end Tincture.Path
