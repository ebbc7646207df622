import Tincture.Text.Split

/-!
# Tables of code points

A `CharTable` is a set of code points given by its ranges in ascending order, and is read from
text such as `41-5a c0`: hexadecimal code points and ranges, separated by blanks. Looking up a
code point stops at the first range that lies above it.
-/

namespace Tincture.Unicode

open Text

/-- The value of a hexadecimal digit. -/
def hexValue? (c : Char) : Option Nat :=
  let n := c.toNat
  if 0x30 ≤ n ∧ n ≤ 0x39 then some (n - 0x30)
  else if 0x41 ≤ n ∧ n ≤ 0x46 then some (n - 0x41 + 10)
  else if 0x61 ≤ n ∧ n ≤ 0x66 then some (n - 0x61 + 10)
  else none

/-- The number that the hexadecimal digits of a text spell, its other characters left out. -/
def hexNat (cs : List Char) : Nat :=
  cs.foldl (fun n c => match hexValue? c with
    | some d => n * 16 + d
    | none => n) 0

/-- The entries of a table text, which are separated by blanks and line breaks. -/
def tableEntries (text : String) : List (List Char) :=
  (splitWhen (fun c => c == ' ' || c == '\n') text.toList).filter (!·.isEmpty)

/-- A set of code points, as its ranges in ascending order. -/
structure CharTable where
  ranges : List (Nat × Nat)

namespace CharTable

/-- Whether ascending ranges hold a number. -/
def rangesContain : List (Nat × Nat) → Nat → Bool
  | [], _ => false
  | (lo, hi) :: rest, n => if n < lo then false else n ≤ hi || rangesContain rest n

/-- Whether a character is in the table. -/
def contains (t : CharTable) (c : Char) : Bool :=
  rangesContain t.ranges c.toNat

/-- The range that one entry of a table text gives. -/
def rangeOfEntry (entry : List Char) : Nat × Nat :=
  match splitOn '-' entry with
  | [lo, hi] => (hexNat lo, hexNat hi)
  | _ => (hexNat entry, hexNat entry)

/-- The table that a text lists. -/
def ofText (text : String) : CharTable :=
  ⟨(tableEntries text).map rangeOfEntry⟩

end CharTable

/-- A table under the names by which it is asked for. -/
structure NamedTable where
  names : List String
  text : String

/-- The table itself. -/
def NamedTable.table (t : NamedTable) : CharTable :=
  CharTable.ofText t.text

/-- The table of a list that goes by the given name; the empty one if none does. -/
def tableNamed (tables : List NamedTable) (name : String) : CharTable :=
  match tables.find? (·.names.contains name) with
  | some t => t.table
  | none => ⟨[]⟩

end Tincture.Unicode
