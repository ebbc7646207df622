import Tincture.Pattern.CharClass

/-!
# Pattern expressions

The expression that the text of a pattern stands for, and its shape: how few characters it takes,
whether it always takes the same number, and whether it is *regular*, that is, can be matched
without looking at captured text, around the place or back on choices already made.
-/

namespace Tincture.Pattern

/-- A condition on a place between two characters. -/
inductive Anchor where
  | textStart
  | textEnd
  | lineStart
  | lineEnd
  | wordBoundary
  | notWordBoundary
  | wordStart
  | wordEnd
  deriving DecidableEq, Repr

/-- A pattern expression. -/
inductive Expr where
  | empty
  | char (a : CharClass)
  | anchor (a : Anchor)
  | concat (es : List Expr)
  | alt (es : List Expr)
  | group (index : Nat) (e : Expr)
  | look (behind negated : Bool) (e : Expr)
  /-- At least `lo` and at most `hi` times, as often as possible if greedy. -/
  | loop (e : Expr) (lo : Nat) (hi : Option Nat) (greedy : Bool)
  | backref (index : Nat) (anyCase : Bool)
  /-- Once matched, never tried again in another way. -/
  | atomic (e : Expr)
  /-- What was matched so far is left out of the match. -/
  | keepOut
  /-- Whether a group took part in the match. -/
  | ifGroup (index : Nat)
  | conditional (test yes no : Expr)

namespace Expr

/-- Nothing is written between the delimiters. -/
def isEmpty : Expr → Bool
  | empty => true
  | _ => false

/-- Whether a quantifier may follow. -/
def isRepeatable : Expr → Bool
  | empty | anchor _ | look _ _ _ => false
  | _ => true

mutual

/-- The groups that an expression refers back to. -/
def references : Expr → List Nat
  | backref n _ | ifGroup n => [n]
  | concat es | alt es => referencesAll es
  | group _ e | look _ _ e | loop e _ _ _ | atomic e => references e
  | conditional test yes no => references test ++ references yes ++ references no
  | _ => []

def referencesAll : List Expr → List Nat
  | [] => []
  | e :: rest => references e ++ referencesAll rest

/-- The groups inside an expression. -/
def groups : Expr → List Nat
  | group n e => n :: groups e
  | concat es | alt es => groupsAll es
  | look _ _ e | loop e _ _ _ | atomic e => groups e
  | conditional test yes no => groups test ++ groups yes ++ groups no
  | _ => []

def groupsAll : List Expr → List Nat
  | [] => []
  | e :: rest => groups e ++ groupsAll rest

end

end Expr

/-- The shape of an expression. -/
structure Shape where
  /-- The fewest characters that it can take. -/
  minSize : Nat
  /-- Whether it can take no other number of characters. -/
  constSize : Bool
  /-- Whether it can be matched without going back on choices. -/
  regular : Bool

namespace Shape

/-- The shape of what takes no character. -/
def nothing (regular : Bool) : Shape := ⟨0, true, regular⟩

/-- One shape after another. -/
def andThen (a b : Shape) : Shape :=
  ⟨a.minSize + b.minSize, a.constSize && b.constSize, a.regular && b.regular⟩

/-- One shape or another. -/
def orElse (a b : Shape) : Shape :=
  ⟨min a.minSize b.minSize, a.constSize && b.constSize && a.minSize == b.minSize,
    a.regular && b.regular⟩

end Shape

namespace Expr

mutual

/-- The shape of each group closed inside an expression, given those closed before it. A reference
back to a group has the size of that group. -/
def groupShapes (refs : List Nat) : Expr → List (Nat × Shape) → List (Nat × Shape)
  | group n e, known =>
    let known := groupShapes refs e known
    (n, shape refs e known) :: known
  | concat es, known | alt es, known => groupShapesAll refs es known
  | look _ _ e, known | loop e _ _ _, known | atomic e, known => groupShapes refs e known
  | conditional test yes no, known =>
    groupShapes refs no (groupShapes refs yes (groupShapes refs test known))
  | _, known => known

def groupShapesAll (refs : List Nat) : List Expr → List (Nat × Shape) → List (Nat × Shape)
  | [], known => known
  | e :: rest, known => groupShapesAll refs rest (groupShapes refs e known)

/-- The shape of an expression, given the groups that are referred to anywhere and the shapes of
the groups that are closed. -/
def shape (refs : List Nat) : Expr → List (Nat × Shape) → Shape
  | empty, _ => .nothing true
  | char _, _ => ⟨1, true, true⟩
  | anchor a, _ => .nothing (!(a matches .wordBoundary | .notWordBoundary | .wordStart | .wordEnd))
  | concat es, known => shapeConcat refs es known
  | alt es, known => shapeAlt refs es known
  | group n e, known =>
    let s := shape refs e known
    { s with regular := s.regular && !refs.contains n }
  | look _ _ _, _ => .nothing false
  | loop e lo hi _, known =>
    let s := shape refs e known
    ⟨s.minSize * lo, s.constSize && hi == some lo, s.regular⟩
  | backref n _, known => match known.lookup n with
    | some s => ⟨s.minSize, s.constSize, false⟩
    | none => ⟨0, false, false⟩
  | atomic e, known => { shape refs e known with regular := false }
  | keepOut, _ => .nothing false
  | ifGroup _, _ => .nothing false
  | conditional test yes no, known =>
    { (shape refs test known).andThen ((shape refs yes known).orElse (shape refs no known)) with
      regular := false }

def shapeConcat (refs : List Nat) : List Expr → List (Nat × Shape) → Shape
  | [], _ => .nothing true
  | e :: rest, known => (shape refs e known).andThen (shapeConcat refs rest known)

def shapeAlt (refs : List Nat) : List Expr → List (Nat × Shape) → Shape
  | [], _ => .nothing true
  | [e], known => shape refs e known
  | e :: rest, known => (shape refs e known).orElse (shapeAlt refs rest known)

end

end Expr

end Tincture.Pattern
