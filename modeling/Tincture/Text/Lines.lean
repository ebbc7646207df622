import Tincture.Text.Split

/-!
# Lines of a text

A text is read line by line: a line ends at a line feed, which may follow a carriage return. A line
feed at the very end starts no further line.
-/

namespace Tincture.Text

/-- A text without one carriage return at its end. -/
def stripReturn (s : List Char) : List Char :=
  if s.getLast? = some '\r' then s.dropLast else s

/-- The lines of the pieces between line feeds; the last piece was not ended by one. -/
def linesOfPieces : List (List Char) → List (List Char)
  | [] => []
  | [last] => if last.isEmpty then [] else [last]
  | piece :: rest => stripReturn piece :: linesOfPieces rest

/-- The lines of a text, without what ends them. -/
def lines (s : List Char) : List (List Char) :=
  linesOfPieces (splitOn '\n' s)

/-- The text of lines, each ended by a line feed. -/
def unlines (ls : List (List Char)) : List Char :=
  ls.flatMap (· ++ ['\n'])

end Tincture.Text
