import Tincture.Pattern.CharClass

/-!
# Bracket expressions

The content of a class in brackets, such as `[a-z&&[^aeiou]]`, read from its tokens. Items side by
side form a union; `&&`, `--` and `~~` bind weaker than that and group to the left; a bracket inside
a bracket is an item. If case does not count, each operand is closed under changes of case before
it is combined or complemented.
-/

namespace Tincture.Pattern

/-- A token inside brackets: a character as it was written, a character that was escaped and so
stands for itself, or a class that has an escape of its own. -/
inductive BracketToken where
  | raw (c : Char)
  | literal (c : Char)
  | set (a : CharClass)

namespace Bracket

/-- The operators between the operands of a bracket expression. -/
inductive Operator where
  | intersection
  | difference
  | symmetricDifference

/-- The class that an operator gives. -/
def Operator.apply : Operator → CharClass → CharClass → CharClass
  | intersection => CharClass.inter
  | difference => CharClass.diff
  | symmetricDifference => CharClass.symmDiff

/-- The character of a token that stands for one. -/
def BracketToken.char? : BracketToken → Option Char
  | .raw c | .literal c => some c
  | .set _ => none

/-- The operator with which the tokens start. -/
def operator? : List BracketToken → Option (Operator × List BracketToken)
  | .raw '&' :: .raw '&' :: rest => some (.intersection, rest)
  | .raw '-' :: .raw '-' :: rest => some (.difference, rest)
  | .raw '~' :: .raw '~' :: rest => some (.symmetricDifference, rest)
  | _ => none

/-- The characters up to the next colon, and the tokens from there on. -/
def nameTokens : List BracketToken → List Char × List BracketToken
  | .raw c :: rest =>
    if c = ':' then ([], .raw ':' :: rest)
    else
      let (name, after) := nameTokens rest
      (c :: name, after)
  | tokens => ([], tokens)

/-- A class such as `[:alpha:]` or `[:^alpha:]` at the start of the tokens. -/
def posixItem? (anyCase : Bool) : List BracketToken → Option (CharClass × List BracketToken)
  | .raw '[' :: .raw ':' :: rest =>
    let (negated, rest) := match rest with
      | .raw '^' :: rest => (true, rest)
      | rest => (false, rest)
    match nameTokens rest with
    | (name, .raw ':' :: .raw ']' :: after) =>
      (CharClass.posix? (String.ofList name)).map fun a =>
        (CharClass.complIf negated (CharClass.foldIf anyCase a), after)
    | _ => none
  | _ => none

/-- The union read so far joined with the operand and operator before it. -/
def combine (anyCase : Bool) (left : Option (Operator × CharClass)) (items : CharClass) :
    CharClass :=
  match left with
  | none => items
  | some (op, a) => op.apply (CharClass.foldIf anyCase a) (CharClass.foldIf anyCase items)

/-- What an opening bracket takes before its items: a `^`, then hyphens and, if there is none of
these, a closing bracket, which stand for themselves. -/
def opening (tokens : List BracketToken) : Bool × CharClass × List BracketToken :=
  let (negated, tokens) := match tokens with
    | .raw '^' :: rest => (true, rest)
    | rest => (false, rest)
  match tokens with
  | .raw '-' :: rest => (negated, .single '-', hyphens rest)
  | .raw ']' :: rest => (negated, .single ']', rest)
  | rest => (negated, .empty, rest)
where
  hyphens : List BracketToken → List BracketToken
    | .raw '-' :: rest => hyphens rest
    | rest => rest

/-- One item: a class, a character or a range of characters, whose ends have to be in order. -/
def item? : List BracketToken → Option (CharClass × List BracketToken)
  | [] => none
  | first :: rest =>
    let alone : Option (CharClass × List BracketToken) := match first with
      | .raw c | .literal c => some (.single c, rest)
      | .set a => some (a, rest)
    match rest with
    | .raw '-' :: .raw ']' :: _ => alone
    | .raw '-' :: .raw '-' :: _ => alone
    | .raw '-' :: last :: after => do
      let lo ← BracketToken.char? first
      let hi ← BracketToken.char? last
      if lo.toNat ≤ hi.toNat then some (.range lo hi, after) else none
    | .raw '-' :: [] => none
    | _ => alone

/-- The class between an opening bracket, already read, and its closing one, with the tokens
after that. `items` is the union read so far and `left` what stands before it. -/
def readItems (anyCase : Bool) : Nat → Option (Operator × CharClass) → CharClass →
    List BracketToken → Option (CharClass × List BracketToken)
  | 0, _, _, _ => none
  | fuel + 1, left, items, tokens =>
    match tokens with
    | [] => none
    | .raw ']' :: rest => some (combine anyCase left items, rest)
    | .raw '[' :: rest =>
      match posixItem? anyCase tokens with
      | some (a, after) => readItems anyCase fuel left (.union items a) after
      | none => do
        let (negated, first, rest) := opening rest
        let (a, after) ← readItems anyCase fuel none first rest
        let nested := CharClass.complIf negated (CharClass.foldIf anyCase a)
        readItems anyCase fuel left (.union items nested) after
    | _ =>
      match operator? tokens with
      | some (op, after) =>
        readItems anyCase fuel (some (op, combine anyCase left items)) .empty after
      | none => do
        let (a, after) ← item? tokens
        readItems anyCase fuel left (.union items a) after

/-- The class that a whole bracket expression stands for, from the tokens after its opening
bracket to the closing one at their end. -/
def read? (anyCase : Bool) (tokens : List BracketToken) : Option CharClass :=
  let (negated, first, rest) := opening tokens
  match readItems anyCase (tokens.length + 1) none first rest with
  | some (a, []) => some (CharClass.complIf negated (CharClass.foldIf anyCase a))
  | _ => none

end Bracket

end Tincture.Pattern
