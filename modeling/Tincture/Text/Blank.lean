import Tincture.Text.Split

/-!
# White space

Which characters are white space, and the cuts of a text at them: trimming the ends and splitting
into words. Text is a list of characters throughout.
-/

namespace Tincture.Text

/-- White space in the sense of the Unicode property `White_Space`. -/
def isBlank (c : Char) : Bool :=
  let n := c.toNat
  (9 ≤ n && n ≤ 13) || n == 0x20 || n == 0x85 || n == 0xa0 || n == 0x1680
    || (0x2000 ≤ n && n ≤ 0x200a) || n == 0x2028 || n == 0x2029 || n == 0x202f || n == 0x205f
    || n == 0x3000

/-- A text without the white space at its start. -/
def trimStart (s : List Char) : List Char :=
  s.dropWhile isBlank

/-- A text without its longest suffix of characters that satisfy a condition. -/
def dropEndWhile (p : Char → Bool) (s : List Char) : List Char :=
  (s.reverse.dropWhile p).reverse

/-- A text without the white space at its end. -/
def trimEnd (s : List Char) : List Char :=
  dropEndWhile isBlank s

/-- A text without the white space at both ends. -/
def trim (s : List Char) : List Char :=
  trimStart (trimEnd s)

/-- The words of a text: its longest pieces without white space. -/
def words (s : List Char) : List (List Char) :=
  (splitWhen isBlank s).filter (!·.isEmpty)

end Tincture.Text
