import Tincture.Pattern.Dialect
import Tincture.Pattern.Reader
import Tincture.Pattern.Search

/-!
# Patterns

A `Pattern` is the source text of a pattern with what was made of it, and `Pattern.find?` searches a
text for it. Places in a text are numbers of characters. Every match that is found lies in the
text, and ends at or after the place from which it was searched (`Match.fits_of_find?`).
-/

namespace Tincture

/-- A stretch of text between two places. -/
structure Span where
  start : Nat
  stop : Nat
  deriving DecidableEq, Repr

namespace Span

/-- No character lies between the two places. -/
def isEmpty (s : Span) : Bool :=
  s.stop ≤ s.start

/-- The places are in order and inside a text of the given size. -/
def fits (size : Nat) (s : Span) : Bool :=
  s.start ≤ s.stop && s.stop ≤ size

end Span

/-- A match: the stretch of text that it takes, and those of its groups that took part. -/
structure Match where
  whole : Span
  groups : List (Option Span)
  deriving DecidableEq, Repr

namespace Match

/-- The stretches of all groups, the whole match being group 0. -/
def captures (m : Match) : List (Option Span) :=
  some m.whole :: m.groups

def start (m : Match) : Nat := m.whole.start
def stop (m : Match) : Nat := m.whole.stop

/-- The text of a group; a group that took no part has none. -/
def groupText (m : Match) (text : Array Char) (n : Nat) : List Char :=
  match m.captures[n]? with
  | some (some s) => (text.extract s.start s.stop).toList
  | _ => []

/-- The match and its groups lie in a text of the given size, and the match ends at or after the
place from which it was searched. -/
def fits (pos size : Nat) (m : Match) : Bool :=
  m.whole.fits size && pos ≤ m.whole.stop && m.groups.all fun g => g.all (·.fits size)

end Match

/-- The settings of the search for patterns. -/
structure EngineOptions where
  /-- How often a search may go back on its choices. -/
  backtrackLimit : Nat := 1000000
  /-- How large the automaton of a regular part may grow. It is kept for the record: no size is
  refused. -/
  delegateSizeLimit : Option Nat := none
  /-- How large the cache of such an automaton may grow. It is kept for the record as well. -/
  delegateDfaSizeLimit : Option Nat := none
  deriving DecidableEq, Repr

/-- How a pattern is matched: by one automaton if it is regular, else by a plan. -/
inductive Pattern.Method where
  | regular (f : Pattern.Fragment)
  | planned (p : Pattern.Plan)

/-- A pattern that can be searched for. -/
structure Pattern where
  /-- The text as it was written. -/
  source : String
  /-- Whether a match has to start where the search does. -/
  anchored : Bool
  /-- How many groups there are, the whole match left out. -/
  groups : Nat
  backtrackLimit : Nat
  method : Pattern.Method

namespace Pattern

/-! ### Compiling -/

/-- The expression of a whole match, as group 0. What is looked for ahead at its end is matched
after the group instead. -/
def wholeMatch : Expr → List Expr
  | .concat es =>
    match es.getLast? with
    | some (.look false false e) => [.group 0 (.concat es.dropLast), e]
    | _ => [.group 0 (.concat es)]
  | e => [.group 0 e]

/-- The method for an expression; none if it looks behind in a way that cannot be matched or a
loop has impossible bounds. -/
def Method.ofExpr? (e : Expr) : Option Method :=
  let refs := e.references
  let known := e.groupShapes refs []
  let whole := wholeMatch e
  if (Expr.shapeConcat refs whole known).regular then
    (Fragment.ofExprs? known whole).map .regular
  else (Plan.ofExpr? refs known false e).map .planned

/-- The pattern that a source text in the grammar dialect stands for; none if it is refused.
Line starts and ends are those of lines, not only of the whole text. -/
def compile? (options : EngineOptions) (source : String) : Option Pattern := do
  let t := Dialect.expand source.toList
  let (e, groups) ← Expr.read? {} ("(?m)".toList ++ t.text)
  let method ← Method.ofExpr? e
  return {
    source, groups, method
    anchored := t.anchored
    backtrackLimit := options.backtrackLimit }

/-! ### Searching -/

/-- The stretch of one group. -/
def slotSpan (slots : Slots) (n : Nat) : Option Span :=
  match slots.getD (2 * n) none, slots.getD (2 * n + 1) none with
  | some start, some stop => some ⟨start, stop⟩
  | _, _ => none

/-- The match that slots describe. The start may have been moved beyond the end; then the match is
empty. -/
def matchOfSlots (groups : Nat) (slots : Slots) : Option Match :=
  (slotSpan slots 0).map fun s =>
    { whole := ⟨min s.start s.stop, s.stop⟩
      groups := (List.range groups).map fun n => slotSpan slots (n + 1) }

/-- The leftmost match at or after a place, before it is checked. -/
def search? (p : Pattern) (text : Array Char) (pos : Nat) : Option Match :=
  let slots : Slots := Array.replicate (2 * p.groups + 2) none
  match p.method with
  | .regular f => (f.search? text slots pos).bind fun (_, _, slots) => matchOfSlots p.groups slots
  | .planned plan =>
    (plan.search? text p.backtrackLimit slots pos).bind (matchOfSlots p.groups)

/-- The leftmost match at or after a place. A match of an anchored pattern has to start there. -/
def find? (p : Pattern) (text : Array Char) (pos : Nat) : Option Match :=
  if text.size < pos then none
  else (p.search? text pos).filter fun m =>
    m.fits pos text.size && (!p.anchored || m.start == pos)

/-- A match lies in the text and ends at or after the place from which it was searched. -/
theorem fits_of_find? {p : Pattern} {text : Array Char} {pos : Nat} {m : Match}
    (h : p.find? text pos = some m) : m.fits pos text.size = true := by
  unfold find? at h
  split at h
  · simp at h
  · obtain ⟨_, h⟩ := Option.filter_eq_some_iff.1 h
    simp only [Bool.and_eq_true] at h
    exact h.1

end Pattern

end Tincture
