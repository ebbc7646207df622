import Tincture.Pattern.Fragment

/-!
# Plans

How a pattern that is not regular as a whole is matched. Its regular parts are left to automata
where no other way through them could matter: where they always take the same number of
characters, or where nothing after them can fail. The rest is matched by going back on choices.
-/

namespace Tincture.Pattern

/-- What is to be matched, part by part. -/
inductive Plan where
  | char (a : CharClass)
  | anchor (a : Anchor)
  | seq (ps : List Plan)
  | alt (ps : List Plan)
  | group (index : Nat) (p : Plan)
  | fragment (f : Fragment)
  | option (greedy : Bool) (p : Plan)
  /-- Any number of times; the part takes at least one character. -/
  | star (greedy : Bool) (p : Plan)
  /-- At least `lo` times; after that, a round that takes no character fails. -/
  | starNullable (greedy : Bool) (lo : Nat) (p : Plan)
  | counted (greedy : Bool) (lo : Nat) (hi : Option Nat) (p : Plan)
  | ahead (negated : Bool) (p : Plan)
  /-- A part that takes `size` characters, matched from that many characters back. -/
  | behind (negated : Bool) (size : Nat) (p : Plan)
  /-- A fragment of any size that ends here. -/
  | endingHere (negated : Bool) (f : Fragment)
  | backref (index : Nat) (anyCase : Bool)
  | atomic (p : Plan)
  | keepOut
  | ifGroup (index : Nat)
  | conditional (test yes no : Plan)

namespace Plan

/-- Regular expressions side by side, matched by one automaton. -/
def ofRegular? (known : List (Nat × Shape)) : List Expr → Option Plan
  | [] => some (seq [])
  | [.char a] => some (char a)
  | es => (Fragment.ofExprs? known es).map fragment

/-- A loop around a part, by its bounds and the fewest characters that the part takes. -/
def ofLoop (minSize lo : Nat) (hi : Option Nat) (greedy : Bool) (p : Plan) : Plan :=
  match lo, hi with
  | 0, some 1 => option greedy p
  | lo, none =>
    if minSize = 0 then starNullable greedy lo p
    else match lo with
      | 0 => star greedy p
      | 1 => seq [p, star greedy p]
      | lo => counted greedy lo none p
  | lo, hi => counted greedy lo hi p

mutual

/-- The plan for an expression. `pinned` says that something after it may fail, so that all its
ways have to be tried; otherwise a regular expression is left to an automaton. -/
def ofExpr? (refs : List Nat) (known : List (Nat × Shape)) (pinned : Bool) : Expr → Option Plan
  | .empty => some (seq [])
  | .char a => some (char a)
  | .anchor a => some (anchor a)
  | .concat es =>
    if !pinned && (Expr.shape refs (.concat es) known).regular then ofRegular? known es
    else
      let shapes := es.map (Expr.shape refs · known)
      let fixed (s : Shape) := s.constSize && s.regular
      let lead := (shapes.takeWhile fixed).length
      let tail := (((shapes.drop lead).reverse).takeWhile fun s =>
        if pinned then fixed s else s.regular).length
      let inner := es.length - lead - tail
      do
        let first ← ofRegular? known (es.take lead)
        let middle ← ofConcat? refs known lead inner es
        let last ← ofRegular? known (es.drop (lead + inner))
        return seq (first :: middle ++ [last])
  | .alt es =>
    if !pinned && (Expr.shape refs (.alt es) known).regular then ofRegular? known [.alt es]
    else (ofAlt? refs known pinned es).map alt
  | .group n e =>
    if !pinned && (Expr.shape refs (.group n e) known).regular then
      ofRegular? known [.group n e]
    else (ofExpr? refs known pinned e).map (group n)
  | .loop e lo hi greedy =>
    let s := Expr.shape refs (.loop e lo hi greedy) known
    if !pinned && s.regular then ofRegular? known [.loop e lo hi greedy]
    else
      let pinned := if lo = 0 ∧ hi = some 1 then pinned else true
      (ofExpr? refs known pinned e).map
        (ofLoop (Expr.shape refs e known).minSize lo hi greedy)
  | .look false negated e => (ofExpr? refs known false e).map (ahead negated)
  | .look true negated e =>
    let s := Expr.shape refs e known
    if s.constSize then (ofExpr? refs known false e).map (behind negated s.minSize)
    else match e with
      | .alt es =>
        (ofBehind? refs known negated es).map fun ps => if negated then seq ps else alt ps
      | e => if s.regular then (Fragment.ofExprs? known [e]).map (endingHere negated) else none
  | .backref n anyCase => some (backref n anyCase)
  | .atomic e => (ofExpr? refs known false e).map atomic
  | .keepOut => some keepOut
  | .ifGroup n => some (ifGroup n)
  | .conditional test yes no => do
    return conditional (← ofExpr? refs known pinned test) (← ofExpr? refs known pinned yes)
      (← ofExpr? refs known pinned no)

/-- The plans of `count` expressions of a list, after `skipped` that are left out. -/
def ofConcat? (refs : List Nat) (known : List (Nat × Shape)) : Nat → Nat → List Expr →
    Option (List Plan)
  | _, _, [] => some []
  | skipped + 1, count, _ :: rest => ofConcat? refs known skipped count rest
  | 0, 0, _ :: _ => some []
  | 0, count + 1, e :: rest => do
    let p ← ofExpr? refs known true e
    return p :: (← ofConcat? refs known 0 count rest)

def ofAlt? (refs : List Nat) (known : List (Nat × Shape)) (pinned : Bool) : List Expr →
    Option (List Plan)
  | [] => some []
  | e :: rest => do
    let p ← ofExpr? refs known pinned e
    return p :: (← ofAlt? refs known pinned rest)

/-- The alternatives of a look behind, each looked for by itself. -/
def ofBehind? (refs : List Nat) (known : List (Nat × Shape)) (negated : Bool) : List Expr →
    Option (List Plan)
  | [] => some []
  | e :: rest => do
    let s := Expr.shape refs e known
    let p ← if s.constSize then (ofExpr? refs known false e).map (behind negated s.minSize)
      else if s.regular then (Fragment.ofExprs? known [e]).map (endingHere negated)
      else none
    return p :: (← ofBehind? refs known negated rest)

end

end Plan

end Tincture.Pattern
