import Tincture.Text.Split
import Tincture.Theme.Style

/-!
# Looking up scopes

The rules of a theme are kept in a tree that branches at the dots of scopes. Each node holds the
style of its scope with nothing left open: a new node takes over the style of the node above it.
Rules are inserted in the order of their scopes, so that a scope comes before all that it is a
prefix of, and the style of a scope is that of the deepest node on its way.
-/

namespace Tincture

open Text

/-- A tree of styles; the children are found by the segment of the scope that leads to them. -/
inductive StyleTrie where
  | node (style : Style) (children : List (List Char × StyleTrie))

namespace StyleTrie

/-- The tree without rules. -/
def empty : StyleTrie :=
  node .plain []

/-- The style at the root. -/
def style : StyleTrie → Style
  | node style _ => style

/-- The subtrees, by segment. -/
def children : StyleTrie → List (List Char × StyleTrie)
  | node _ children => children

/-- A list of subtrees in which one is put under a segment, in place of the one that was there. -/
def putChild (segment : List Char) (t : StyleTrie) :
    List (List Char × StyleTrie) → List (List Char × StyleTrie)
  | [] => [(segment, t)]
  | (s, u) :: rest => if s = segment then (s, t) :: rest else (s, u) :: putChild segment t rest

/-- The tree with a rule applied at the end of a path; nodes that are missing on the way take over
the style above them. -/
def insertAt (r : StyleRule) : List (List Char) → StyleTrie → StyleTrie
  | [], t => node (t.style.apply r) t.children
  | segment :: path, t =>
    let child := (t.children.lookup segment).getD (node t.style [])
    node t.style (putChild segment (insertAt r path child) t.children)

/-- The segments of a scope; the empty scope has none. -/
def path (scope : String) : List (List Char) :=
  if scope = "" then [] else splitOn '.' scope.toList

/-- The tree with one more rule. -/
def insert (t : StyleTrie) (r : StyleRule) : StyleTrie :=
  insertAt r (path r.scope) t

/-- Rules in the order of their scopes; rules of the same scope stay in their order. -/
def sortRules (rules : List StyleRule) : List StyleRule :=
  rules.mergeSort fun a b => !(b.scope < a.scope)

/-- The tree of some rules, of which later ones win. -/
def ofRules (rules : List StyleRule) : StyleTrie :=
  (sortRules rules).foldl insert empty

/-- The style at the deepest node on a path. -/
def styleAt : List (List Char) → StyleTrie → Style
  | [], t => t.style
  | segment :: path, t =>
    match t.children.lookup segment with
    | some child => styleAt path child
    | none => t.style

/-- The style of a scope: that of the longest dotted prefix that has a rule. -/
def lookup (t : StyleTrie) (scope : String) : Style :=
  styleAt (path scope) t

end StyleTrie

end Tincture
