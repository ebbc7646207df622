import Tincture.Text.Blank
import Tincture.Text.LetterCase
import Tincture.Text.Number

/-!
# Scope names

The name that a rule gives to text may refer to captured groups: `$1` or `${1}` stands for the text
of a group without dots before it, and `${1:/downcase}` or `${1:/upcase}` for that text in another
case. A name stands for one scope or for several, separated by white space.
-/

namespace Tincture.ScopeName

open Text

/-- A text before and after the first `:/`. -/
def splitCommand : List Char → Option (List Char × List Char)
  | [] => none
  | ':' :: '/' :: rest => some ([], rest)
  | c :: rest => (splitCommand rest).map fun (before, after) => (c :: before, after)

/-- What stands before a closing brace, if there is one. -/
def beforeBrace (s : List Char) : Option (List Char) :=
  if s.contains '\x7d' then some (s.takeWhile (· != '\x7d')) else none

/-- The text that a reference between braces stands for, given the texts of the groups. -/
def braced? (group : Nat → List Char) (inner : List Char) : Option (List Char) :=
  let (index, command) := (splitCommand inner).getD (inner, [])
  (word? index).map fun n =>
    if command = "downcase".toList then lower (group n)
    else if command = "upcase".toList then upper (group n)
    else group n

/-- A name with its references replaced, given the texts of the groups; `skip` characters belong to
a reference that was replaced already. -/
def replace (group : Nat → List Char) : (skip : Nat) → List Char → List Char
  | _, [] => []
  | skip + 1, _ :: rest => replace group skip rest
  | 0, c :: rest =>
    if c = '$' then
      let digits := rest.takeWhile Char.isDigit
      if !digits.isEmpty then
        let n := digitsValue digits
        group (if maxWord < n then 0 else n) ++ replace group digits.length rest
      else match rest with
        | '\x7b' :: body =>
          match beforeBrace body with
          | some inner => match braced? group inner with
            | some text => text ++ replace group (inner.length + 2) rest
            | none => c :: replace group 0 rest
          | none => c :: replace group 0 rest
        | _ => c :: replace group 0 rest
    else c :: replace group 0 rest

/-- The scopes that a name stands for, given the texts of the groups. -/
def expand (group : Nat → List Char) (name : String) : List String :=
  (words (replace (fun n => (group n).dropWhile (· == '.')) 0 name.toList)).map String.ofList

end Tincture.ScopeName
