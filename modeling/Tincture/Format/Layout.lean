import Tincture.Format.Imports
import Tincture.Format.Line
import Tincture.Text.Alphanumeric
import Tincture.Text.Bytes

/-!
# Layout

How a document is formatted: each line is laid out by itself and may give several lines when it is
wrapped; then runs of blank lines are cut down, those at the start and at the end go entirely, and
every line ends in a line feed.
-/

namespace Tincture.Format

open Text

/-- A text in which each run of blanks outside strings and inline raw text is one blank. -/
def collapseFrom : (inString inRaw afterBlank : Bool) → List Char → List Char
  | _, _, _, [] => []
  | inString, inRaw, afterBlank, c :: rest =>
    let inString' := if c = '"' ∧ !inRaw then !inString else inString
    let inRaw' := if c = '`' ∧ !inString then !inRaw else inRaw
    if c = ' ' ∧ !inString' ∧ !inRaw' then
      if afterBlank then collapseFrom inString' inRaw' true rest
      else c :: collapseFrom inString' inRaw' true rest
    else c :: collapseFrom inString' inRaw' false rest

/-- A line in which each run of blanks outside strings and inline raw text is one blank. -/
def collapseSpaces (content : List Char) : List Char :=
  collapseFrom false false false content

/-! ### Wrapping -/

/-- Whether a word at the start of a line would make it something other than a paragraph. -/
def startsBlock (word : List Char) : Bool :=
  (match word with
    | c :: _ => c == '-' || c == '+' || c == '/' || c == '=' || c == '#'
    | [] => false) || isEnumMarker word

/-- The lines that words give when they are added to the current line as long as it keeps within the
width. A word that must not start a line is added in any case. -/
def wrapFrom (width : Nat) : (current : List Char) → List (List Char) → List (List Char)
  | current, [] => if current.isEmpty then [] else [current]
  | current, word :: rest =>
    if current.isEmpty then wrapFrom width word rest
    else if current.length + 1 + word.length ≤ width ∨ startsBlock word then
      wrapFrom width (current ++ ' ' :: word) rest
    else current :: wrapFrom width word rest

/-- The words of a line, which blanks separate. -/
def blankWords (content : List Char) : List (List Char) :=
  (splitOn ' ' content).filter (!·.isEmpty)

/-- A line wrapped at a width. -/
def wrapWords (width : Nat) (content : List Char) : List (List Char) :=
  wrapFrom width [] (blankWords content)

/-- Whether a line may be wrapped: a paragraph outside code that starts with a letter or a number
and holds nothing that must stay together. -/
def isWrappable (line : Line) (content : List Char) : Bool :=
  line.kind == .paragraph && line.depth == 0 && (content.head?.any isAlphanumeric)
    && !content.any fun c => c == '`' || c == '$' || c == '"' || c == '\x7b' || c == '\x7d'

/-! ### Lines -/

/-- The text of a line after sorting and collapsing. -/
def Line.settled (config : FormatConfig) (line : Line) : List Char :=
  let content :=
    if config.reorderImportItems && line.kind == .importLine then sortImportItems line.content
    else line.content
  if config.collapseMarkupSpaces && line.kind != .rawFence then collapseSpaces content else content

/-- The lines that one line gives. -/
def Line.layOut (config : FormatConfig) (line : Line) : List (List Char) :=
  if line.kind = .blank then [[]]
  else if (line.kind = .raw ∨ line.kind = .rawFence) ∧ line.indent.isEmpty then [line.content]
  else
    let content := line.settled config
    let width := byteLength line.indent
    if config.wrapText && isWrappable line content && config.maxWidth < width + content.length then
      (wrapWords (config.maxWidth - width) content).map (line.indent ++ ·)
    else [line.indent ++ content]

/-- Whether a laid-out line opens or closes a raw block. -/
def isToggle (text : List Char) : Bool :=
  startsFence (trimStart text) && togglesRaw text

/-- Lines with runs of empty ones cut down to a bound outside raw blocks, and none at the start.
`run` empty lines stand before, and `started` tells whether any line was kept. -/
def capBlanks (bound : Nat) :
    (inRaw : Bool) → (run : Nat) → (started : Bool) → List (List Char) → List (List Char)
  | _, _, _, [] => []
  | inRaw, run, started, text :: rest =>
    if isToggle text then text :: capBlanks bound (!inRaw) 0 true rest
    else if !inRaw && text.isEmpty then
      if !started || bound < run + 1 then capBlanks bound inRaw (run + 1) started rest
      else text :: capBlanks bound inRaw (run + 1) true rest
    else text :: capBlanks bound inRaw 0 true rest

/-- Lines without the empty ones at their end. -/
def dropEmptyEnd (ls : List (List Char)) : List (List Char) :=
  (ls.reverse.dropWhile List.isEmpty).reverse

/-- The lines of a formatted document. -/
def formattedLines (config : FormatConfig) (ls : List Line) : List (List Char) :=
  dropEmptyEnd
    (capBlanks config.blankLinesUpperBound false 0 false (ls.flatMap (Line.layOut config)))

/-- A document in its formatted form. -/
def format (config : FormatConfig) (source : List Char) : Except FormatError (List Char) := do
  config.check
  let ls ← documentLines config.tabSpaces source
  return unlines (formattedLines config ls)

end Tincture.Format
