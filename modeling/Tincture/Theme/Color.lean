import Tincture.Text.Blank
import Tincture.Unicode.CharTable

/-!
# Colours

A colour has four channels of a byte each. It is written as `#` and hexadecimal digits: three or
four short digits that count twice, or six or eight full ones, where the last channel says how
opaque the colour is and is left out of an opaque one.
-/

namespace Tincture

open Text Unicode

/-- A colour with its opacity. -/
structure Color where
  red : UInt8
  green : UInt8
  blue : UInt8
  alpha : UInt8 := 255
  deriving DecidableEq, Repr, Inhabited

namespace Color

/-- A channel written as one digit, which counts twice. -/
def short? (a : Char) : Option UInt8 :=
  (hexValue? a).map fun n => UInt8.ofNat (n * 17)

/-- A channel written as two characters: two digits, or a plus sign and a digit. -/
def channel? (a b : Char) : Option UInt8 := do
  let hi ← if a = '+' then some 0 else hexValue? a
  let lo ← hexValue? b
  return UInt8.ofNat (hi * 16 + lo)

/-- The colour that digits without a `#` spell. -/
def ofDigits? : List Char → Option Color
  | [r, g, b] => do return ⟨← short? r, ← short? g, ← short? b, 255⟩
  | [r, g, b, a] => do return ⟨← short? r, ← short? g, ← short? b, ← short? a⟩
  | [r₁, r₂, g₁, g₂, b₁, b₂] => do
    return ⟨← channel? r₁ r₂, ← channel? g₁ g₂, ← channel? b₁ b₂, 255⟩
  | [r₁, r₂, g₁, g₂, b₁, b₂, a₁, a₂] => do
    return ⟨← channel? r₁ r₂, ← channel? g₁ g₂, ← channel? b₁ b₂, ← channel? a₁ a₂⟩
  | _ => none

/-- The colour that a text spells. White space around it and number signs before it do not count. -/
def ofHex? (s : List Char) : Option Color :=
  ofDigits? ((trim s).dropWhile (· == '#'))

/-- A digit in upper case. -/
def upperDigit (n : Nat) : Char :=
  if n < 10 then Char.ofNat (48 + n) else Char.ofNat (55 + n)

/-- The two digits of a channel. -/
def channelDigits (x : UInt8) : List Char :=
  [upperDigit (x.toNat / 16), upperDigit (x.toNat % 16)]

/-- The text of a colour; the opacity is left out of an opaque one. -/
def toHex (c : Color) : List Char :=
  '#' :: channelDigits c.red ++ channelDigits c.green ++ channelDigits c.blue
    ++ if c.alpha = 255 then [] else channelDigits c.alpha

end Color

end Tincture
