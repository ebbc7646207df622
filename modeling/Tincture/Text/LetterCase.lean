import Tincture.Text.Split
import Tincture.Unicode.CaseTable
import Tincture.Unicode.CharTable
import Tincture.Unicode.Property

/-!
# Letter case

Lower and upper case of a text, where one character may give several and a capital sigma at the
end of a word has a form of its own; and simple case folding, by which characters are compared
when case does not count.
-/

namespace Tincture.Text

open Unicode

/-- Code points from `first` to `last`, every `step`-th of them, sent in order to those from
`target` on. -/
structure CaseRun where
  first : Nat
  last : Nat
  step : Nat
  target : Nat

namespace CaseRun

/-- The code point that a run sends a code point to. -/
def image? (r : CaseRun) (n : Nat) : Option Nat :=
  if r.first ≤ n ∧ n ≤ r.last ∧ (n - r.first) % r.step = 0 then some (r.target + (n - r.first))
  else none

/-- The code point that a run sends to a code point. -/
def preimage? (r : CaseRun) (n : Nat) : Option Nat :=
  if r.target ≤ n ∧ n ≤ r.target + (r.last - r.first) ∧ (n - r.target) % r.step = 0 then
    some (r.first + (n - r.target))
  else none

/-- The run that an entry of a table text gives, such as `41-5a:61` or `100-12e/2:101`. -/
def ofEntry (entry : List Char) : CaseRun :=
  match splitOn ':' entry with
  | [source, target] =>
    let (range, step) := match splitOn '/' source with
      | [range, step] => (range, hexNat step)
      | _ => (source, 1)
    let (first, last) := CharTable.rangeOfEntry range
    ⟨first, last, step, hexNat target⟩
  | _ => ⟨1, 0, 1, 0⟩

end CaseRun

/-- The runs that a table text lists. -/
def caseRuns (text : String) : List CaseRun :=
  (tableEntries text).map CaseRun.ofEntry

/-- The entries of a table text that send one code point to several. -/
def longCases (text : String) : List (Nat × List Char) :=
  (tableEntries text).map fun entry => match splitOn ':' entry with
    | [source, target] =>
      (hexNat source, (splitOn '.' target).map fun code => Char.ofNat (hexNat code))
    | _ => (0, [])

def lowerRuns : List CaseRun := caseRuns lowerRunText
def upperRuns : List CaseRun := caseRuns upperRunText
def foldRuns : List CaseRun := caseRuns foldRunText
def lowerLong : List (Nat × List Char) := longCases lowerLongText
def upperLong : List (Nat × List Char) := longCases upperLongText

/-- The characters that replace one character when case is changed by the given tables. -/
def recase (long : List (Nat × List Char)) (runs : List CaseRun) (c : Char) : List Char :=
  match long.lookup c.toNat with
  | some cs => cs
  | none => match runs.findSome? (·.image? c.toNat) with
    | some n => [Char.ofNat n]
    | none => [c]

/-- Lower case of one character, whatever stands beside it. -/
def lowerChar (c : Char) : List Char :=
  if c.toNat < 128 then [c.toLower] else recase lowerLong lowerRuns c

/-- Upper case of one character. -/
def upperChar (c : Char) : List Char :=
  if c.toNat < 128 then [c.toUpper] else recase upperLong upperRuns c

def casedTable : CharTable := tableNamed binaryProperties "Cased"
def caseIgnorableTable : CharTable := tableNamed binaryProperties "Case_Ignorable"

/-- Whether a cased letter comes first, characters that case ignores left out. -/
def startsCased (s : List Char) : Bool :=
  match s.dropWhile caseIgnorableTable.contains with
  | c :: _ => casedTable.contains c
  | [] => false

/-- Lower case, with the text already passed in reverse order. A capital sigma becomes the final
form when a cased letter stands before it and none after it. -/
def lowerAfter : List Char → List Char → List Char
  | _, [] => []
  | before, c :: rest =>
    (if c = 'Σ' then [if startsCased before && !startsCased rest then 'ς' else 'σ']
      else lowerChar c) ++ lowerAfter (c :: before) rest

/-- Lower case of a text. -/
def lower (s : List Char) : List Char :=
  lowerAfter [] s

/-- Upper case of a text. -/
def upper (s : List Char) : List Char :=
  s.flatMap upperChar

/-- Equality of two texts when the case of ASCII letters does not count. -/
def eqIgnoringAsciiCase (s t : List Char) : Bool :=
  s.map Char.toLower == t.map Char.toLower

/-! ### Simple folding -/

/-- The character that stands for all that differ from it in case only. -/
def foldChar (c : Char) : Char :=
  if c.toNat < 128 then c.toLower
  else match foldRuns.findSome? (·.image? c.toNat) with
    | some n => Char.ofNat n
    | none => c

/-- The characters that differ from a character in case only, itself included. -/
def caseVariants (c : Char) : List Char :=
  let folded := foldChar c
  folded :: (foldRuns.filterMap (·.preimage? folded.toNat)).map Char.ofNat

end Tincture.Text
