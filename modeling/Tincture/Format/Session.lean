import Tincture.Format.Dump
import Tincture.Format.Layout

/-!
# Formatting sessions

A session keeps what the last successful run of a formatter gave, and the error of the last run if
it failed. A run asks for the parsed document, the layout and the formatted text, in this order, and
takes all of them or none. Whether a formatter leaves its own results alone can be checked
(`Formatter.checkConvergence`).
-/

namespace Tincture

open Format

/-- Something that formats documents. -/
structure Formatter where
  format : List Char → FormatConfig → Except FormatError (List Char)
  /-- The document as it was understood. -/
  parse : List Char → Except FormatError (List Char)
  /-- The layout that would be printed. -/
  layout : List Char → FormatConfig → Except FormatError (List Char)

/-- The formatter that changes white space, import items and line breaks only. -/
def Formatter.whitespace : Formatter where
  format source config := Format.format config source
  parse source := Format.tree source
  layout source config := Format.pieces config source

/-- What a successful run gave. -/
structure FormatOutput where
  formatted : List Char
  ast : List Char
  ir : List Char
  deriving DecidableEq, Repr

/-- What all three questions to a formatter give. -/
def Formatter.run (f : Formatter) (source : List Char) (config : FormatConfig) :
    Except FormatError FormatOutput := do
  let ast ← f.parse source
  let ir ← f.layout source config
  let formatted ← f.format source config
  return { formatted, ast, ir }

/-- The number of lines that two texts have in common at their start. -/
def commonLines : List (List Char) → List (List Char) → Nat
  | a :: as, b :: bs => if a = b then commonLines as bs + 1 else 0
  | _, _ => 0

/-- The formatted text, if formatting it again changes nothing. -/
def Formatter.checkConvergence (f : Formatter) (source : List Char) (config : FormatConfig) :
    Except FormatError (List Char) := do
  let first ← f.format source config
  let second ← f.format first config
  if first = second then return first
  else throw (.notConverged (commonLines (Text.lines first) (Text.lines second) + 1))

/-- The state of formatting one document. -/
structure FormatSession where
  config : FormatConfig
  output : Option FormatOutput := none
  error : Option FormatError := none

namespace FormatSession

/-- A session in which nothing was run. -/
def new (config : FormatConfig) : FormatSession :=
  { config }

/-- The session with other settings, for the runs to come. -/
def setConfig (s : FormatSession) (config : FormatConfig) : FormatSession :=
  { s with config }

/-- The session after a run, and the error if it failed. A failed run leaves the output as it
was. -/
def run (s : FormatSession) (f : Formatter) (source : List Char) :
    FormatSession × Except FormatError Unit :=
  match f.run source s.config with
  | .ok output => ({ s with output := some output, error := none }, .ok ())
  | .error e => ({ s with error := some e }, .error e)

/-- The session without its error. -/
def dismissError (s : FormatSession) : FormatSession :=
  { s with error := none }

end FormatSession

end Tincture
