import Tincture.Unicode.Category
import Tincture.Unicode.Property

/-!
# Letters and numbers

Which characters are alphabetic or numeric. On ASCII this is the class of letters and digits
(`isAlphanumeric_of_ascii`); beyond it, the tables decide.
-/

namespace Tincture.Text

open Unicode

/-- The tables of the alphabetic and the numeric code points. -/
def alphanumericTables : List CharTable :=
  tableNamed binaryProperties "Alphabetic" ::
    ["Nd", "Nl", "No"].map (tableNamed generalCategories)

/-- Whether a character is a letter or a number. -/
def isAlphanumeric (c : Char) : Bool :=
  if c.toNat < 128 then c.isAlphanum else alphanumericTables.any (·.contains c)

theorem isAlphanumeric_of_ascii {c : Char} (h : c.toNat < 128) :
    isAlphanumeric c = c.isAlphanum := by
  simp [isAlphanumeric, h]

end Tincture.Text
