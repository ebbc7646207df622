import Tincture.Format.Line
import Tincture.Text.Bytes
import Tincture.Text.Number
import Tincture.Text.Quoted

/-!
# Showing the layout

Two views of a document for those who want to know why it is laid out as it is: the lines with their
kinds, and the pieces that will be printed.
-/

namespace Tincture.Format

open Text

/-- The name under which a kind of line is shown. -/
def LineKind.show : LineKind → List Char
  | blank => "Blank".toList
  | rawFence => "RawFence".toList
  | raw => "Raw".toList
  | heading level => "Heading(".toList ++ decimal level ++ [')']
  | listItem => "ListItem".toList
  | comment => "Comment".toList
  | importLine => "Import".toList
  | code => "Code".toList
  | paragraph => "Paragraph".toList

/-- A line with its number, kind, indentation and open braces. -/
def Line.showTree (line : Line) : List Char :=
  "  ".toList ++ padLeft 4 (decimal line.number) ++ ": ".toList ++ line.kind.show
    ++ " indent=".toList ++ decimal (byteLength line.indent)
    ++ " depth=".toList ++ decimal line.depth

/-- The lines of a document as they are understood; a tab counts as two blanks. -/
def tree (source : List Char) : Except FormatError (List Char) := do
  let ls ← documentLines 2 source
  return unlines ("Document".toList :: ls.map Line.showTree)

/-- The piece that a line is printed as. -/
def Line.showPiece (line : Line) : List Char :=
  match line.kind with
  | .blank => "hardline".toList
  | .raw | .rawFence => "verbatim(".toList ++ quote line.content ++ [')']
  | _ =>
    "indent(".toList ++ decimal (byteLength line.indent) ++ ", text(".toList
      ++ quote line.content ++ "))".toList

/-- The pieces that a document is printed as. -/
def pieces (config : FormatConfig) (source : List Char) : Except FormatError (List Char) := do
  config.check
  let ls ← documentLines config.tabSpaces source
  return unlines (ls.map Line.showPiece)

end Tincture.Format
