import Tincture.Pattern.Scanner
import Tincture.Text.Bytes

/-!
# Scanning by byte offsets

From outside, places in a text are offsets in its UTF-8 form. This module asks a scanner for matches
from such an offset and gives the matches in bytes. A search from inside a character starts after
it, and an anchored pattern finds nothing there.
-/

namespace Tincture.Scanner

open Text

/-- The byte offset of a place. -/
def byteOffset (text : List Char) (pos : Nat) : Nat :=
  byteLength (text.take pos)

/-- A stretch of text in bytes. -/
def byteSpan (text : List Char) (s : Span) : Span :=
  ⟨byteOffset text s.start, byteOffset text s.stop⟩

/-- A scanner without its anchored patterns, whose slots stay empty. -/
def unanchored (s : Scanner) : Scanner :=
  ⟨s.patterns.map fun p => p.filter (!·.anchored)⟩

/-- The next match at or after a byte offset, in characters. -/
def findNextFromByte? (s : Scanner) (text : List Char) (byte : Nat) : Option ScanMatch :=
  if byteLength text < byte then none
  else
    let pos := charsBefore text byte
    if byteOffset text pos = byte then s.findNext? text.toArray pos
    else s.unanchored.findNext? text.toArray pos

/-- The stretches of all groups of a match, in bytes. -/
def byteCaptures (text : List Char) (m : Match) : List (Option Span) :=
  m.captures.map (·.map (byteSpan text))

/-- The column of a byte offset: the number of characters before it. An offset inside a character
counts as its start, and one beyond the text as its end. -/
def columnOfByte (text : List Char) (byte : Nat) : Nat :=
  wholeCharsBefore text byte

end Tincture.Scanner
