import Tincture.Grammar.ScopeName
import Tincture.Grammar.Rule

/-!
# Painting a line

A line is painted with scopes from left to right. Each stroke goes from where the last one ended to
a given place, and one that would end before that place paints nothing, so that the strokes never
overlap and leave no gap. Captured groups are painted inside a match, each inside the group that
holds it.
-/

namespace Tincture

/-- A stretch of text with its scopes, the outermost first; it goes on to the next token. -/
structure Token where
  column : Nat
  scopes : List String
  deriving DecidableEq, Repr

/-- A line painted up to a place: the strokes, the last one first, and where it ended. -/
structure Paint where
  strokes : List Token := []
  stop : Nat := 0
  deriving DecidableEq, Repr

namespace Paint

/-- Paints up to a place. -/
def fill (p : Paint) (scopes : List String) (stop : Nat) : Paint :=
  if stop ≤ p.stop then p else ⟨⟨p.stop, scopes⟩ :: p.strokes, stop⟩

/-- A group that is being painted: its scopes and its end. -/
abbrev OpenGroup := List String × Nat

/-- Closes the open groups that end at or before a place, the innermost first. -/
def closeUpTo (start : Nat) : List OpenGroup → Paint → List OpenGroup × Paint
  | [], p => ([], p)
  | (scopes, stop) :: rest, p =>
    if start < stop then ((scopes, stop) :: rest, p)
    else closeUpTo start rest (p.fill scopes stop)

/-- Closes all open groups. -/
def closeAll : List OpenGroup → Paint → Paint
  | [], p => p
  | (scopes, stop) :: rest, p => closeAll rest (p.fill scopes stop)

/-- Paints the groups that have names, in their order, given with their spans. What is empty is
passed by, and what starts beyond the end of the match ends the painting. -/
def paintGroups (expand : String → List String) (base : List String) (limit : Nat) :
    List (Option String × Option Span) → List OpenGroup → Paint → Paint
  | [], opened, p => closeAll opened p
  | (some name, some span) :: rest, opened, p =>
    if span.isEmpty then paintGroups expand base limit rest opened p
    else if limit < span.start then closeAll opened p
    else
      let (opened, p) := closeUpTo span.start opened p
      let parent := match opened with
        | (scopes, _) :: _ => scopes
        | [] => base
      let p := p.fill parent span.start
      paintGroups expand base limit rest ((parent ++ expand name, span.stop) :: opened) p
  | _ :: rest, opened, p => paintGroups expand base limit rest opened p

/-- Paints the captured groups of a match inside text that has the scopes `base`. -/
def captures (p : Paint) (text : Array Char) (base : List String) (names : CaptureNames)
    (m : Match) : Paint :=
  let spans := m.captures
  let named := (List.range (min names.size spans.length)).map names.name?
  paintGroups (ScopeName.expand (m.groupText text)) base m.stop (named.zip spans) [] p

/-- The tokens of a line of a given length. What lies beyond it is left out, and a line without
strokes is one token with the given scopes. -/
def finish (p : Paint) (length : Nat) (scopes : List String) : List Token :=
  let strokes := match p.strokes with
    | t :: rest => if length ≤ t.column then rest else t :: rest
    | [] => []
  if strokes.isEmpty then [⟨0, scopes⟩] else strokes.reverse

end Paint

end Tincture
