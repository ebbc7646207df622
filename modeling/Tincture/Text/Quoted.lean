import Tincture.Unicode.CharTable
import Tincture.Unicode.Property
import Tincture.Unicode.Category

/-!
# Quoted text

Text between quotation marks as it is shown to a person who must see every character: quotes and
backslashes get a backslash, line ends and the like their letters, and a character that does not
print on its own its hexadecimal code point.
-/

namespace Tincture.Text

open Unicode

def graphemeExtendTable : CharTable := tableNamed binaryProperties "Grapheme_Extend"

/-- The categories whose characters do not print; an unassigned character does not print either. -/
def unprintableCategories : List String :=
  ["Cc", "Cf", "Cs", "Co", "Zl", "Zp", "Zs"]

/-- The tables of the categories whose characters print. -/
def printableTables : List CharTable :=
  (generalCategories.filter fun t => !(unprintableCategories.any t.names.contains)).map (·.table)

/-- Whether a character is shown as it is. -/
def isPrintable (c : Char) : Bool :=
  if c.toNat < 128 then 32 ≤ c.toNat && c.toNat < 127
  else printableTables.any (·.contains c)

/-- A number in lower-case hexadecimal digits. -/
def hexDigits (n : Nat) : List Char :=
  Nat.toDigits 16 n

/-- One character inside quotation marks. -/
def quoteChar (c : Char) : List Char :=
  if c = '"' then ['\\', '"']
  else if c = '\\' then ['\\', '\\']
  else if c = '\n' then ['\\', 'n']
  else if c = '\r' then ['\\', 'r']
  else if c = '\t' then ['\\', 't']
  else if c = '\x00' then ['\\', '0']
  else if 127 ≤ c.toNat && graphemeExtendTable.contains c || !isPrintable c then
    ['\\', 'u', '\x7b'] ++ hexDigits c.toNat ++ ['\x7d']
  else [c]

/-- A text between quotation marks. -/
def quote (s : List Char) : List Char :=
  '"' :: s.flatMap quoteChar ++ ['"']

end Tincture.Text
