/-!
# Document values

Settings, themes and grammars are written as documents in one of two formats. Both are read into a
`Data` value, and every kind of document is decoded from such a value by the combinators below; what
is written is first encoded as one. A decoder gives `none` for a value of the wrong form.

The formats differ in what a value may stand for. A quoted text is never a number, but a plain
scalar is whatever its place asks for; an `array` may hold the fields of a record in their order,
while a `sequence` may not.
-/

namespace Tincture

/-- A document value. -/
inductive Data where
  | null
  | bool (b : Bool)
  | int (n : Int)
  /-- Another number; it is kept only whether it is finite. -/
  | float (finite : Bool)
  | string (s : String)
  /-- A quoted text that stands for no sequence of characters. -/
  | badString
  /-- A scalar without quotes whose meaning depends on its place. -/
  | plain (s : String)
  | array (items : List Data)
  | sequence (items : List Data)
  /-- The entries of a mapping; a key that is no text is left out. -/
  | object (entries : List (Option String × Data))

namespace Data

/-- An object from its fields. -/
def fields (l : List (String × Data)) : Data :=
  object (l.map fun (k, v) => (some k, v))

/-- A list of texts. -/
def strings (l : List String) : Data :=
  array (l.map string)

/-- An optional text, absent as `null`. -/
def stringOrNull : Option String → Data
  | some s => string s
  | none => null

/-- Two texts as a list. -/
def pair (p : String × String) : Data :=
  strings [p.1, p.2]

/-- A field, unless its value is absent. -/
def fieldOf {α : Type} (name : String) (encode : α → Data) : Option α → List (String × Data)
  | some a => [(name, encode a)]
  | none => []

/-- A field, unless its value is the empty list. -/
def listField {α : Type} (name : String) (encode : α → Data) (l : List α) :
    List (String × Data) :=
  if l.isEmpty then [] else [(name, array (l.map encode))]

mutual

/-- How many arrays, sequences and objects are nested at most. -/
def depth : Data → Nat
  | array items | sequence items => depthAll items + 1
  | object entries => depthEntries entries + 1
  | _ => 0

def depthAll : List Data → Nat
  | [] => 0
  | d :: rest => max (depth d) (depthAll rest)

def depthEntries : List (Option String × Data) → Nat
  | [] => 0
  | (_, d) :: rest => max (depth d) (depthEntries rest)

/-- Whether every number and every text inside has a value. -/
def wellFormed : Data → Bool
  | float finite => finite
  | badString => false
  | array items | sequence items => wellFormedAll items
  | object entries => wellFormedEntries entries
  | _ => true

def wellFormedAll : List Data → Bool
  | [] => true
  | d :: rest => wellFormed d && wellFormedAll rest

def wellFormedEntries : List (Option String × Data) → Bool
  | [] => true
  | (k, d) :: rest => k.isSome && wellFormed d && wellFormedEntries rest

end

/-! ### Plain scalars -/

/-- Whether a plain scalar stands for no value. -/
def isNullWord (s : String) : Bool :=
  s = "" || s = "~" || s = "null" || s = "Null" || s = "NULL"

/-- The truth value of a plain scalar. -/
def boolWord? (s : String) : Option Bool :=
  if s = "true" ∨ s = "True" ∨ s = "TRUE" then some true
  else if s = "false" ∨ s = "False" ∨ s = "FALSE" then some false
  else none

/-- The value of digits in a base, if all of them are digits of it and there is one. -/
def digits? (base : Nat) (cs : List Char) : Option Nat :=
  if cs.isEmpty then none
  else cs.foldlM (fun n c => do
    let d ← if c.isDigit then some (c.toNat - '0'.toNat)
      else if 'a' ≤ c ∧ c ≤ 'f' then some (c.toNat - 'a'.toNat + 10)
      else if 'A' ≤ c ∧ c ≤ 'F' then some (c.toNat - 'A'.toNat + 10)
      else none
    if d < base then some (n * base + d) else none) 0

/-- The value of an integer written without a sign: in base 16, 8 or 2 after `0x`, `0o` or `0b`,
else in base 10, where no zero may lead. -/
def unsigned? (cs : List Char) : Option Nat :=
  match cs with
  | '0' :: 'x' :: rest => digits? 16 rest
  | '0' :: 'o' :: rest => digits? 8 rest
  | '0' :: 'b' :: rest => digits? 2 rest
  | '0' :: _ :: _ => none
  | _ => digits? 10 cs

/-- The integer that a plain scalar stands for. -/
def intWord? (s : String) : Option Int :=
  match s.toList with
  | '-' :: '+' :: _ | '-' :: '-' :: _ => none
  | '-' :: rest => (unsigned? rest).map fun n => -(n : Int)
  | '+' :: rest => (unsigned? rest).map Int.ofNat
  | cs => (unsigned? cs).map Int.ofNat

/-! ### Decoding single values -/

/-- A text. A plain scalar keeps its characters, whatever else it could stand for. -/
def string? : Data → Option String
  | string s | plain s => some s
  | _ => none

/-- A truth value. -/
def bool? : Data → Option Bool
  | bool b => some b
  | plain s => boolWord? s
  | _ => none

/-- The integers from `lo` to `hi`. -/
def intIn? (lo hi : Int) (d : Data) : Option Int :=
  (match d with
    | int n => some n
    | plain s => intWord? s
    | _ => none).filter fun n => lo ≤ n && n ≤ hi

/-- An unsigned word of 64 bits. -/
def word? (d : Data) : Option Nat :=
  (d.intIn? 0 (Int.pow 2 64 - 1)).map Int.toNat

/-- An optional value, absent if null. -/
def optional? {α : Type} (decode : Data → Option α) : Data → Option (Option α)
  | null => some none
  | plain s => if isNullWord s then some none else (decode (plain s)).map some
  | d => (decode d).map some

/-- The items of a list; an empty plain scalar has none. -/
def items? : Data → Option (List Data)
  | array items | sequence items => some items
  | plain "" => some []
  | _ => none

/-- A list of values of one kind. -/
def list? {α : Type} (decode : Data → Option α) (d : Data) : Option (List α) :=
  d.items?.bind (·.mapM decode)

/-- Two texts in a list. -/
def pair? (d : Data) : Option (String × String) :=
  match d with
  | array [a, b] | sequence [a, b] => do return (← a.string?, ← b.string?)
  | _ => none

/-- The entries of a mapping from texts; of entries with the same key the last one counts. An
empty plain scalar has none. -/
def entries? : Data → Option (List (String × Data))
  | object entries => do
    let l ← entries.mapM fun (k, v) => k.map fun k => (k, v)
    return l.foldl (fun kept (k, v) => kept.filter (·.1 != k) ++ [(k, v)]) []
  | plain "" => some []
  | _ => none

/-! ### Decoding records -/

/-- The fields of a record, by name. -/
structure Record where
  find : String → Option Data
  /-- Whether the fields were written as an array in their order. -/
  positional : Bool

/-- The fields of a record with the given names. Other fields are passed over, but a known one must
not be given twice. In an array they stand in the order of the names, and only trailing ones can
be missing. -/
def record? (names : List String) : Data → Option Record
  | object entries =>
    let known := entries.filterMap fun (k, v) => (k.filter names.contains).map fun k => (k, v)
    if entries.any (·.1.isNone) || !(known.map (·.1)).Nodup then none
    else some ⟨(List.lookup · known), false⟩
  | array items =>
    if names.length < items.length then none
    else some ⟨(List.lookup · (names.zip items)), true⟩
  | plain "" => some ⟨fun _ => none, false⟩
  | _ => none

namespace Record

/-- A field that has to be there. -/
def required {α : Type} (r : Record) (name : String) (decode : Data → Option α) : Option α :=
  (r.find name).bind decode

/-- A field with a value to stand in for it. -/
def orDefault {α : Type} (r : Record) (name : String) (decode : Data → Option α) (default : α) :
    Option α :=
  match r.find name with
  | some d => decode d
  | none => some default

/-- A field that may be missing or null. -/
def optional {α : Type} (r : Record) (name : String) (decode : Data → Option α) :
    Option (Option α) :=
  r.orDefault name (optional? decode) none

end Record

end Data

end Tincture
