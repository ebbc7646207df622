import Tincture.Theme.Basic

/-!
# The scope that is shown

A token has a stack of scopes, but an editor colours it by one. The scopes are tried from the
innermost outwards, each cut at its dots from right to left, and each piece first with the language
of the outermost scope added. The first candidate that the theme colours in its own way is shown.
-/

namespace Tincture

open Text

/-- The scope that stands for a token, and its style. -/
structure DisplayToken where
  scope : String
  style : Style
  deriving DecidableEq, Repr

namespace DisplayToken

/-- What stands before each dot of a text, the shortest first. -/
def beforeDots : List Char → List (List Char)
  | [] => []
  | c :: rest =>
    let longer := (beforeDots rest).map (c :: ·)
    if c = '.' then [] :: longer else longer

/-- The language of a scope stack: what stands after the last dot of its outermost scope. -/
def baseLanguage (scopes : List String) : String :=
  match scopes with
  | [] => ""
  | s :: _ => String.ofList ((splitOn '.' s.toList).getLastD [])

/-- The candidates that one scope gives, for the language `base`. -/
def candidatesOf (base : String) (scope : String) : List String :=
  (beforeDots scope.toList).reverse.flatMap fun piece =>
    [String.ofList (piece ++ '.' :: base.toList), String.ofList piece]

/-- All candidates of a scope stack, in the order in which they are tried. -/
def candidates (scopes : List String) : List String :=
  scopes.reverse.flatMap (candidatesOf (baseLanguage scopes))

/-- The first candidate whose foreground is not the default one; none for a stack without an
outermost scope. -/
def resolve (scopes : List String) (theme : Theme) : Option DisplayToken :=
  match scopes with
  | [] => none
  | first :: _ =>
    if first = "" then none
    else ((candidates scopes).find? fun scope =>
        (theme.style scope).foreground ≠ theme.defaultStyle.foreground).map
      fun scope => ⟨scope, theme.style scope⟩

end DisplayToken

end Tincture
