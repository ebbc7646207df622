import Tincture.Format.Config
import Tincture.Text.Blank
import Tincture.Text.Lines

/-!
# Lines of markup

A document is laid out line by line. Each line is classified by how it starts, its indentation is
written in blanks, and it is noted how many braces of code are open before it. The lines of a raw
block, from its opening fence to its closing one, are left as they are; a block that is never closed
is an error.
-/

namespace Tincture.Format

open Text

/-- What a line is, as far as its layout is concerned. -/
inductive LineKind where
  | blank
  /-- A fence that opens or closes a raw block. -/
  | rawFence
  /-- A line inside a raw block. -/
  | raw
  | heading (level : Nat)
  | listItem
  | comment
  | importLine
  | code
  | paragraph
  deriving DecidableEq, Repr

/-- Whether a word is a number and a full stop, as at the start of a list item. -/
def isEnumMarker (word : List Char) : Bool :=
  word.getLast? == some '.' && !word.dropLast.isEmpty && word.dropLast.all Char.isDigit

/-- Whether a text starts with a fence. -/
def startsFence (s : List Char) : Bool :=
  "```".toList.isPrefixOf s

/-- How many fences there are in a text, none of them overlapping. -/
def countFences : List Char → Nat
  | c₁ :: c₂ :: c₃ :: rest =>
    if c₁ = '`' ∧ c₂ = '`' ∧ c₃ = '`' then countFences rest + 1
    else countFences (c₂ :: c₃ :: rest)
  | _ => 0

/-- Whether a text has an odd number of fences, so that it opens or closes a block. -/
def togglesRaw (s : List Char) : Bool :=
  countFences s % 2 == 1

/-- The kind of a line outside raw blocks, by its text without the white space around it. -/
def LineKind.classify (content : List Char) : LineKind :=
  let starts (s : String) := s.toList.isPrefixOf content
  if content.isEmpty then blank
  else if startsFence content then rawFence
  else if starts "=" then heading (content.takeWhile (· == '=')).length
  else if starts "- " || starts "+ " || starts "/ "
      || isEnumMarker (content.takeWhile (· != ' ')) then listItem
  else if starts "//" || starts "/*" then comment
  else if starts "#import " then importLine
  else if starts "#" then code
  else paragraph

/-- A line whose indentation is written in blanks and whose end is trimmed; a line of a raw block is
kept as it is, without indentation. -/
structure Line where
  number : Nat
  kind : LineKind
  indent : List Char
  content : List Char
  /-- How many braces are open before the line. -/
  depth : Nat
  deriving DecidableEq, Repr

/-- How many braces are open after a text, when `depth` are before it. Braces in strings and line
comments do not count. -/
def depthAfter : (inString : Bool) → (depth : Nat) → List Char → Nat
  | _, depth, [] => depth
  | true, depth, c :: rest =>
    if c = '\\' then match rest with
      | [] => depth
      | _ :: rest => depthAfter true depth rest
    else if c = '"' then depthAfter false depth rest
    else depthAfter true depth rest
  | false, depth, c :: rest =>
    if c = '"' then depthAfter true depth rest
    else if c = '/' ∧ rest.head? = some '/' then depth
    else if c = '\x7b' then depthAfter false (depth + 1) rest
    else if c = '\x7d' then depthAfter false (depth - 1) rest
    else depthAfter false depth rest

/-- Indentation with each tab written in blanks. The blanks of a tab always fit into a text: that no
text takes more bytes than a signed word can count is left aside. -/
def expandTabs (tabSpaces : Nat) (s : List Char) : List Char :=
  s.flatMap fun c => if c = '\t' then List.replicate tabSpaces ' ' else [c]

/-- The line that a text outside raw blocks gives. -/
def Line.ofText (tabSpaces number depth : Nat) (text : List Char) : Line :=
  let trimmed := trimEnd text
  { number
    kind := LineKind.classify (trimStart trimmed)
    indent := expandTabs tabSpaces (trimmed.takeWhile isBlank)
    content := trimStart trimmed
    depth }

/-- The lines of some texts, from line `number` on. `opened` is the line on which a raw block was
opened, inside of one, and `depth` counts the open braces. -/
def linesFrom (tabSpaces : Nat) :
    (number : Nat) → (opened : Option Nat) → (depth : Nat) → List (List Char) →
    Except FormatError (List Line)
  | _, none, _, [] => .ok []
  | _, some start, _, [] => .error (.unclosedRaw start)
  | number, some start, depth, text :: rest =>
    let closes := startsFence (trimStart text)
    let line : Line := ⟨number, if closes then .rawFence else .raw, [], text, depth⟩
    (linesFrom tabSpaces (number + 1) (if closes then none else some start) depth rest).map
      (line :: ·)
  | number, none, depth, text :: rest =>
    let line := Line.ofText tabSpaces number depth text
    let opened := if line.kind = .rawFence ∧ togglesRaw line.content then some number else none
    let depth := if line.kind = .rawFence then depth else depthAfter false depth line.content
    (linesFrom tabSpaces (number + 1) opened depth rest).map (line :: ·)

/-- The texts of the lines of a document, where a carriage return before the end of a line, or a
second one, does not count. -/
def sourceLines (source : List Char) : List (List Char) :=
  (lines source).map stripReturn

/-- The lines of a document. -/
def documentLines (tabSpaces : Nat) (source : List Char) : Except FormatError (List Line) :=
  linesFrom tabSpaces 1 none 0 (sourceLines source)

end Tincture.Format
