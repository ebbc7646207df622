import Tincture.Document.Basic
import Tincture.Text.Number

/-!
# Printing documents

A document is printed for a reader, with colours for a terminal, or for a program, token by token.
In colours each line is cut where its tokens start, and each piece is put between the sequence that
turns its style on and the one that turns it off.
-/

namespace Tincture.Terminal

open Text

/-- The start of a control sequence. -/
def escape : List Char := ['\x1b', '[']

/-- The sequence that turns styles off. -/
def reset : List Char := escape ++ ['0', 'm']

/-- The sequence that turns a style on; the background does not count. -/
def select (s : Style) : List Char :=
  let number (b : UInt8) : List Char := ';' :: decimal b.toNat
  escape ++ "38;2".toList ++ number s.foreground.red ++ number s.foreground.green
    ++ number s.foreground.blue
    ++ (if s.font.bold then [';', '1'] else [])
    ++ (if s.font.italic then [';', '3'] else [])
    ++ (if s.font.underline then [';', '4'] else [])
    ++ (if s.font.strikethrough then [';', '9'] else []) ++ ['m']

/-- A piece of text, with its style if it has one. -/
structure Fragment where
  style : Option Style
  text : List Char
  deriving DecidableEq, Repr

/-- The pieces of a line, one for each token: up to where the next token starts, or to the end. -/
def fragments (line : List Char) : List StyledToken → List Fragment
  | [] => []
  | t :: rest =>
    let stop := match rest with
      | next :: _ => min next.column line.length
      | [] => line.length
    let start := min t.column line.length
    ⟨t.style, (line.drop start).take (stop - start)⟩ :: fragments line rest

/-- A piece of text as it is sent to a terminal. -/
def Fragment.write (f : Fragment) : List Char :=
  match f.style with
  | some style => select style ++ f.text ++ reset
  | none => f.text

/-- A line in colours. -/
def highlightedLine (line : List Char) (tokens : List StyledToken) : List Char :=
  (fragments line tokens).flatMap Fragment.write

/-- A document in colours, each line ended by a line feed. -/
def highlighted (d : Document) : List Char :=
  (List.range d.lineCount).flatMap fun i =>
    highlightedLine ((d.line? i).getD []) ((d.tokens? i).getD []) ++ ['\n']

/-- A token with its line and column, counted from 1 and from 0, its shown scope and all of its
scopes. -/
def tokenLine (line : Nat) (t : StyledToken) : List Char :=
  let scope := if t.scope = "" then "-" else t.scope
  decimal (line + 1) ++ ':' :: decimal t.column ++ '\t' :: scope.toList
    ++ '\t' :: (" ".intercalate t.scopes).toList ++ ['\n']

/-- The tokens of a document, one a line. -/
def tokenList (d : Document) : List Char :=
  (List.range d.lineCount).flatMap fun i => ((d.tokens? i).getD []).flatMap (tokenLine i)

end Tincture.Terminal
