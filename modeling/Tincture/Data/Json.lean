import Tincture.Data.Basic
import Tincture.Text.Number
import Tincture.Unicode.CharTable

/-!
# Reading JSON

The reader follows the grammar of JSON to the letter: no comments, no trailing commas, and nothing
but white space after the value. It sets no limit to nesting; a decoder may.
-/

namespace Tincture.Data.Json

open Text Unicode

/-- The text after white space. -/
def skipSpace (s : List Char) : List Char :=
  s.dropWhile fun c => c == ' ' || c == '\n' || c == '\t' || c == '\r'

/-- The value of four hexadecimal digits. -/
def hexUnit? : List Char → Option (Nat × List Char)
  | a :: b :: c :: d :: rest =>
    if [a, b, c, d].all fun x => (hexValue? x).isSome then some (hexNat [a, b, c, d], rest)
    else none
  | _ => none

/-- The characters of a text from after its opening quote, with what follows the closing one.
There are none if the text holds one half of a surrogate pair without the other. -/
def readString : Nat → List Char → Option (Option (List Char) × List Char)
  | 0, _ => none
  | _ + 1, [] => none
  | _ + 1, '"' :: rest => some (some [], rest)
  | fuel + 1, '\\' :: rest =>
    let go (c : Option Char) (rest : List Char) : Option (Option (List Char) × List Char) :=
      (readString fuel rest).map fun (s, after) =>
        (match c, s with
          | some c, some s => some (c :: s)
          | _, _ => none, after)
    match rest with
    | '"' :: rest => go (some '"') rest
    | '\\' :: rest => go (some '\\') rest
    | '/' :: rest => go (some '/') rest
    | 'b' :: rest => go (some '\x08') rest
    | 'f' :: rest => go (some '\x0c') rest
    | 'n' :: rest => go (some '\n') rest
    | 'r' :: rest => go (some '\r') rest
    | 't' :: rest => go (some '\t') rest
    | 'u' :: rest => do
      let (hi, rest) ← hexUnit? rest
      if 0xD800 ≤ hi ∧ hi < 0xDC00 then
        match rest with
        | '\\' :: 'u' :: after =>
          let (lo, after) ← hexUnit? after
          if 0xDC00 ≤ lo ∧ lo < 0xE000 then
            go (some (Char.ofNat (0x10000 + (hi - 0xD800) * 0x400 + (lo - 0xDC00)))) after
          else go none after
        | _ => go none rest
      else if 0xDC00 ≤ hi ∧ hi < 0xE000 then go none rest
      else go (some (Char.ofNat hi)) rest
    | _ => none
  | fuel + 1, c :: rest =>
    if c.toNat < 0x20 then none
    else (readString fuel rest).map fun (s, after) => (s.map (c :: ·), after)

/-- A number: an integer of 64 bits if it is written as one, else a number of double precision. -/
def readNumber (s : List Char) : Option (Data × List Char) := do
  let (negative, s) := match s with
    | '-' :: rest => (true, rest)
    | s => (false, s)
  let whole := s.takeWhile Char.isDigit
  let s := s.drop whole.length
  if whole.isEmpty || (whole.length > 1 && whole.head? == some '0') then none
  let (fraction, s) ← match s with
    | '.' :: rest =>
      let digits := rest.takeWhile Char.isDigit
      if digits.isEmpty then none else some (some digits, rest.drop digits.length)
    | s => some (none, s)
  let (exponent, s) ← match s with
    | c :: rest =>
      if c = 'e' ∨ c = 'E' then
        let (down, rest) := match rest with
          | '-' :: rest => (true, rest)
          | '+' :: rest => (false, rest)
          | rest => (false, rest)
        let digits := rest.takeWhile Char.isDigit
        if digits.isEmpty then none else some (some (down, digits), rest.drop digits.length)
      else some (none, s)
    | [] => some (none, s)
  match fraction, exponent with
  | none, none =>
    let n : Int := if negative then -(digitsValue whole : Int) else digitsValue whole
    if negative && n == 0 then some (float true, s)
    else if -Int.pow 2 63 ≤ n && n ≤ Int.pow 2 64 - 1 then some (int n, s)
    else some (float (fitsDouble whole 0), s)
  | _, _ =>
    let fraction := fraction.getD []
    let shift : Int := match exponent with
      | some (down, digits) =>
        let n : Int := exponentValue digits
        if down then -n else n
      | none => 0
    some (float (fitsDouble (whole ++ fraction) (shift - fraction.length)), s)

mutual

/-- The value that comes next. -/
def readValue : Nat → List Char → Option (Data × List Char)
  | 0, _ => none
  | fuel + 1, s =>
    match skipSpace s with
    | 'n' :: 'u' :: 'l' :: 'l' :: rest => some (null, rest)
    | 't' :: 'r' :: 'u' :: 'e' :: rest => some (bool true, rest)
    | 'f' :: 'a' :: 'l' :: 's' :: 'e' :: rest => some (bool false, rest)
    | '"' :: rest => (readString (rest.length + 1) rest).map fun (s, after) =>
      (match s with
        | some cs => string (String.ofList cs)
        | none => badString, after)
    | '[' :: rest =>
      match skipSpace rest with
      | ']' :: after => some (array [], after)
      | rest => (readItems fuel rest).map fun (items, after) => (array items, after)
    | '\x7b' :: rest =>
      match skipSpace rest with
      | '\x7d' :: after => some (object [], after)
      | rest => (readEntries fuel rest).map fun (entries, after) => (object entries, after)
    | s => readNumber s

/-- The items of an array, up to its closing bracket. -/
def readItems : Nat → List Char → Option (List Data × List Char)
  | 0, _ => none
  | fuel + 1, s => do
    let (d, rest) ← readValue fuel s
    match skipSpace rest with
    | ']' :: after => some ([d], after)
    | ',' :: after => (readItems fuel after).map fun (ds, after) => (d :: ds, after)
    | _ => none

/-- The entries of an object, up to its closing brace. -/
def readEntries : Nat → List Char → Option (List (Option String × Data) × List Char)
  | 0, _ => none
  | fuel + 1, s =>
    match skipSpace s with
    | '"' :: rest => do
      let (key, rest) ← readString (rest.length + 1) rest
      match skipSpace rest with
      | ':' :: rest =>
        let (d, rest) ← readValue fuel rest
        let entry := (key.map String.ofList, d)
        match skipSpace rest with
        | '\x7d' :: after => some ([entry], after)
        | ',' :: after => (readEntries fuel after).map fun (es, after) => (entry :: es, after)
        | _ => none
      | _ => none
    | _ => none

end

/-- The value that a text stands for. -/
def read? (text : List Char) : Option Data :=
  match readValue (text.length + 1) text with
  | some (d, rest) => if (skipSpace rest).isEmpty then some d else none
  | none => none

/-- How deep a document that is decoded field by field may be nested. -/
def maxDepth : Nat := 127

end Tincture.Data.Json
