import Tincture.Text.LetterCase
import Tincture.Unicode.Category
import Tincture.Unicode.Property
import Tincture.Unicode.Script

/-!
# Character classes

A `CharClass` says which single characters a pattern accepts. It is kept as the expression that
was written, so that its meaning (`CharClass.contains`) is one equation per operation. Named
classes are looked up by property, category and script names, in which case, blanks, hyphens and
underscores do not count.
-/

namespace Tincture.Pattern

open Unicode Text

/-- A set of characters, as an expression. -/
inductive CharClass where
  | empty
  | any
  | single (c : Char)
  | range (lo hi : Char)
  | table (t : CharTable)
  | compl (a : CharClass)
  | union (a b : CharClass)
  | inter (a b : CharClass)
  | diff (a b : CharClass)
  | symmDiff (a b : CharClass)
  /-- All characters that differ from a member in case only. -/
  | folded (a : CharClass)

namespace CharClass

/-- Whether a character is in the class. -/
def contains : CharClass → Char → Bool
  | empty, _ => false
  | any, _ => true
  | single d, c => c == d
  | range lo hi, c => lo.toNat ≤ c.toNat && c.toNat ≤ hi.toNat
  | table t, c => t.contains c
  | compl a, c => !a.contains c
  | union a b, c => a.contains c || b.contains c
  | inter a b, c => a.contains c && b.contains c
  | diff a b, c => a.contains c && !b.contains c
  | symmDiff a b, c => a.contains c != b.contains c
  | folded a, c => (caseVariants c).any a.contains

/-- The class or its complement. -/
def complIf (negated : Bool) (a : CharClass) : CharClass :=
  if negated then compl a else a

/-- The class, closed under changes of case if case does not count. -/
def foldIf (anyCase : Bool) (a : CharClass) : CharClass :=
  if anyCase then folded a else a

/-- The union of several classes. -/
def unionAll : List CharClass → CharClass
  | [] => empty
  | [a] => a
  | a :: rest => union a (unionAll rest)

/-- One character, or all that differ from it in case only. -/
def literal (anyCase : Bool) (c : Char) : CharClass :=
  if anyCase then unionAll ((caseVariants c).map single) else single c

/-! ### The classes with letters of their own -/

def digitTable : CharTable := tableNamed generalCategories "Nd"
def wordTable : CharTable := CharTable.ofText wordText
def spaceTable : CharTable := tableNamed binaryProperties "White_Space"

def digit : CharClass := table digitTable
def word : CharClass := table wordTable
def space : CharClass := table spaceTable
def notNewline : CharClass := compl (single '\n')

/-- Whether a character can stand inside a word. -/
def isWordChar (c : Char) : Bool :=
  if c.toNat < 128 then c.isAlphanum || c == '_' else wordTable.contains c

/-! ### Classes by name -/

/-- A name without what does not count in it: case, blanks, hyphens, underscores and a leading
`is`. -/
def normalName (name : List Char) : List Char :=
  let letters := (name.filter fun c => c.toNat < 128 && c != ' ' && c != '_' && c != '-').map
    Char.toLower
  match name.map Char.toLower with
  | 'i' :: 's' :: _ =>
    let rest := letters.drop 2
    if rest = ['c'] then ['i', 's', 'c'] else rest
  | _ => letters

/-- The table of a list under a name in normal form. -/
def namedTable? (tables : List NamedTable) (name : List Char) : Option CharClass :=
  (tables.find? (·.names.any fun n => normalName n.toList = name)).map fun t => table t.table

/-- A general category or a group of them, by its name in normal form. -/
def category? (name : List Char) : Option CharClass :=
  if name = "any".toList then some any
  else if name = "ascii".toList then some (range '\x00' '\x7f')
  else if name = "assigned".toList then some assigned
  else if name = "c".toList ∨ name = "other".toList then
    some (union (compl assigned) (members ["Cc", "Cf", "Cs", "Co"]))
  else if name = "cn".toList ∨ name = "unassigned".toList then some (compl assigned)
  else match categoryGroups.find? (·.1.any fun n => normalName n.toList = name) with
    | some (_, short) => some (members short)
    | none => namedTable? generalCategories name
where
  members (names : List String) : CharClass :=
    unionAll (names.map fun n => table (tableNamed generalCategories n))
  assigned : CharClass := unionAll (generalCategories.map fun t => table t.table)

/-- The class that goes by a single name: a property, a category or a script, in this order. -/
def named? (name : List Char) : Option CharClass :=
  let n := normalName name
  let categoryFirst := n = "cf".toList ∨ n = "sc".toList ∨ n = "lc".toList
  (if categoryFirst then none else namedTable? binaryProperties n).or
    ((category? n).or (namedTable? scripts n))

/-- The class of the code points for which a property has a given value. -/
def valued? (property value : List Char) : Option CharClass :=
  let p := normalName property
  let v := normalName value
  if p = "gc".toList ∨ p = "generalcategory".toList then category? v
  else if p = "sc".toList ∨ p = "script".toList then namedTable? scripts v
  else if p = "scx".toList ∨ p = "scriptextensions".toList then namedTable? scriptExtensions v
  else none

/-- A text before and after the first `!=`. -/
def splitUnequal : List Char → Option (List Char × List Char)
  | [] => none
  | '!' :: '=' :: rest => some ([], rest)
  | c :: rest => (splitUnequal rest).map fun (before, after) => (c :: before, after)

/-- A text before and after the first occurrence of a character. -/
def splitFirst (sep : Char) (s : List Char) : Option (List Char × List Char) :=
  match s.dropWhile (· != sep) with
  | [] => none
  | _ :: after => some (s.takeWhile (· != sep), after)

/-- The class that a query between braces asks for: `Lu`, `Greek`, `sc=Greek`, `gc!=Lu`. -/
def ofQuery? (query : List Char) : Option CharClass :=
  match splitUnequal query with
  | some (property, value) => (valued? property value).map compl
  | none => match (splitFirst ':' query).or (splitFirst '=' query) with
    | some (property, value) => valued? property value
    | none => named? query

/-- The classes that go by an ASCII name between `[:` and `:]`. -/
def posix? (name : String) : Option CharClass :=
  match name with
  | "alnum" => some (unionAll [range '0' '9', range 'A' 'Z', range 'a' 'z'])
  | "alpha" => some (union (range 'A' 'Z') (range 'a' 'z'))
  | "ascii" => some (range '\x00' '\x7f')
  | "blank" => some (union (single '\t') (single ' '))
  | "cntrl" => some (union (range '\x00' '\x1f') (single '\x7f'))
  | "digit" => some (range '0' '9')
  | "graph" => some (range '!' '~')
  | "lower" => some (range 'a' 'z')
  | "print" => some (range ' ' '~')
  | "punct" =>
    some (unionAll [range '!' '/', range ':' '@', range '[' (Char.ofNat 96), range '\x7b' '~'])
  | "space" => some (union (range '\t' '\r') (single ' '))
  | "upper" => some (range 'A' 'Z')
  | "word" => some (unionAll [range '0' '9', range 'A' 'Z', single '_', range 'a' 'z'])
  | "xdigit" => some (unionAll [range '0' '9', range 'A' 'F', range 'a' 'f'])
  | _ => none

end CharClass

end Tincture.Pattern
