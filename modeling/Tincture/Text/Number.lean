/-!
# Numbers in decimal digits

Numbers as text, and the numbers that texts of digits stand for. A number with a fraction or an
exponent is kept as its digits and a power of ten; all that is asked of it is whether double
precision can hold it.
-/

namespace Tincture.Text

/-- The value of decimal digits. -/
def digitsValue (digits : List Char) : Nat :=
  digits.foldl (fun n c => n * 10 + (c.toNat - '0'.toNat)) 0

/-- The largest unsigned word of 64 bits. -/
def maxWord : Nat := UInt64.size - 1

/-- The word that a text stands for: decimal digits, which may follow a plus sign. -/
def word? (s : List Char) : Option Nat :=
  let digits := match s with
    | '+' :: rest => rest
    | s => s
  let n := digitsValue digits
  if digits.isEmpty || !digits.all Char.isDigit || maxWord < n then none else some n

/-- The value of the digits of an exponent; beyond a million it does not matter any more. -/
def exponentValue (digits : List Char) : Nat :=
  min (digitsValue ((digits.dropWhile (· == '0')).take 7)) 1000000

/-- Whether a decimal number is within the range of double precision. The significand is given by
its digits, of which all count, and the exponent of the last one. -/
def fitsDouble (digits : List Char) (exponent : Int) : Bool :=
  let digits := digits.dropWhile (· == '0')
  let magnitude : Int := digits.length + exponent
  if digits.isEmpty || magnitude < 300 then true
  else if 320 < magnitude then false
  else
    let bound := Nat.pow 2 1024 - Nat.pow 2 970
    if 0 ≤ exponent then digitsValue digits * Nat.pow 10 exponent.toNat < bound
    else digitsValue digits < bound * Nat.pow 10 (-exponent).toNat

/-- The decimal digits of a number. -/
def decimal (n : Nat) : List Char :=
  Nat.toDigits 10 n

/-- A text with blanks before it up to a width. -/
def padLeft (width : Nat) (s : List Char) : List Char :=
  List.replicate (width - s.length) ' ' ++ s

end Tincture.Text
