/-!
# Format settings

The settings of the formatter, and what can keep it from answering.
-/

namespace Tincture

/-- How documents are laid out. -/
structure FormatConfig where
  /-- The width at which paragraphs are wrapped. -/
  maxWidth : Nat := 80
  /-- How many blanks a tab in the indentation stands for. -/
  tabSpaces : Nat := 2
  /-- How many blank lines may follow each other. -/
  blankLinesUpperBound : Nat := 2
  /-- Whether runs of blanks inside a line become one blank. -/
  collapseMarkupSpaces : Bool := false
  /-- Whether the items of an import are sorted. -/
  reorderImportItems : Bool := true
  /-- Whether long lines of paragraphs are wrapped. -/
  wrapText : Bool := false
  deriving DecidableEq, Repr, Inhabited

/-- Why a text is not formatted. -/
inductive FormatError where
  /-- A raw block is opened on this line and never closed. -/
  | unclosedRaw (line : Nat)
  /-- A formatter reports an error of its own. -/
  | engine (message : String)
  | zeroWidth
  | zeroTab
  /-- Formatting the result again changes this line. -/
  | notConverged (line : Nat)
  deriving DecidableEq, Repr

namespace FormatError

/-- The text that is shown for an error. -/
def message : FormatError → String
  | unclosedRaw line => s!"unclosed raw block (line {line})"
  | engine message => message
  | zeroWidth => "invalid format config: max_width must be positive"
  | zeroTab => "invalid format config: tab_spaces must be positive"
  | notConverged line => s!"formatting is not stable: second pass changed line {line}"

end FormatError

namespace FormatConfig

/-- A width and a tab of no blanks are refused. -/
def check (c : FormatConfig) : Except FormatError Unit :=
  if c.maxWidth = 0 then .error .zeroWidth
  else if c.tabSpaces = 0 then .error .zeroTab
  else .ok ()

/-- The settings are not refused exactly if both numbers are positive. -/
theorem check_eq_ok_iff {c : FormatConfig} :
    c.check = .ok () ↔ 0 < c.maxWidth ∧ 0 < c.tabSpaces := by
  unfold check
  split
  · simp; omega
  · split
    · simp; omega
    · simp; omega

end FormatConfig

end Tincture
