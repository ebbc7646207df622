import Tincture.Pattern.Expr

/-!
# Matching regular fragments

A regular expression is matched by an automaton whose states are tried depth first, the preferred
way first. No state is entered twice at the same place: an earlier visit has failed, or is still
under way and has come round without taking a character. So a search takes at most as many steps
as there are states and places, and the first way found is the one that the pattern prefers.
-/

namespace Tincture.Pattern

/-- Where the groups of a pattern start and end; an even slot holds the start of a group and the
next one its end. -/
abbrev Slots := Array (Option Nat)

/-- What a state of the automaton does. -/
inductive Instr where
  | char (a : CharClass) (next : Nat)
  | anchor (a : Anchor) (next : Nat)
  | mark (slot : Nat) (next : Nat)
  | branch (first second : Nat)
  | accept

namespace Anchor

/-- Whether there is a word character before, and after, a place. -/
def wordAt (text : Array Char) (pos : Nat) : Bool × Bool :=
  ((if pos = 0 then none else text[pos - 1]?).any CharClass.isWordChar,
    text[pos]?.any CharClass.isWordChar)

/-- Whether an anchor holds at a place. -/
def holds (a : Anchor) (text : Array Char) (pos : Nat) : Bool :=
  match a with
  | textStart => pos == 0
  | textEnd => pos == text.size
  | lineStart => pos == 0 || text[pos - 1]? == some '\n'
  | lineEnd => pos == text.size || text[pos]? == some '\n'
  | wordBoundary => (wordAt text pos).1 != (wordAt text pos).2
  | notWordBoundary => (wordAt text pos).1 == (wordAt text pos).2
  | wordStart => !(wordAt text pos).1 && (wordAt text pos).2
  | wordEnd => (wordAt text pos).1 && !(wordAt text pos).2

end Anchor

/-! ### Building the automaton -/

namespace Instr

/-- Adds a state and gives its number. -/
def add (i : Instr) (code : Array Instr) : Nat × Array Instr :=
  (code.size, code.push i)

/-- A choice between two states, the first one preferred if greedy. -/
def choice (greedy : Bool) (inside after : Nat) : Instr :=
  if greedy then branch inside after else branch after inside

/-- A loop around a body: after each round, the body again or `next`. Gives the state at which the
body starts and the state that chooses. -/
def loopAfter (greedy : Bool) (body : Nat → Array Instr → Nat × Array Instr) (next : Nat)
    (code : Array Instr) : Nat × Nat × Array Instr :=
  let chooser := code.size
  let (start, code) := body chooser (code.push .accept)
  (start, chooser, code.setIfInBounds chooser (choice greedy start next))

/-- A body repeated a fixed number of times. -/
def times (body : Nat → Array Instr → Nat × Array Instr) : Nat → Nat → Array Instr →
    Nat × Array Instr
  | 0, next, code => (next, code)
  | n + 1, next, code =>
    let (start, code) := body next code
    times body n start code

/-- A body up to a number of times, leaving for `exit` before any of them. -/
def upTo (greedy : Bool) (body : Nat → Array Instr → Nat × Array Instr) (exit : Nat) :
    Nat → Array Instr → Nat × Array Instr
  | 0, code => (exit, code)
  | n + 1, code =>
    let (next, code) := upTo greedy body exit n code
    let (start, code) := body next code
    (choice greedy start exit).add code

/-- A loop without an upper bound. A body that can be empty is entered at least once before the
choice to leave, if it is entered at all. -/
def unbounded (greedy nullable : Bool) (body : Nat → Array Instr → Nat × Array Instr) (lo : Nat)
    (next : Nat) (code : Array Instr) : Nat × Array Instr :=
  let (start, chooser, code) := loopAfter greedy body next code
  match lo with
  | 0 => if nullable then (choice greedy start next).add code else (chooser, code)
  | n + 1 => times body n start code

mutual

/-- Adds the states that match an expression and go on at `next`; gives the one to start from.
What is not regular has no states of its own and is passed by. -/
def ofExpr (known : List (Nat × Shape)) : Expr → Nat → Array Instr → Nat × Array Instr
  | .char a, next, code => (Instr.char a next).add code
  | .anchor a, next, code => (Instr.anchor a next).add code
  | .concat es, next, code => ofConcat known es next code
  | .alt es, next, code => ofAlt known es next code
  | .group n e, next, code =>
    let (stop, code) := (Instr.mark (2 * n + 1) next).add code
    let (start, code) := ofExpr known e stop code
    (Instr.mark (2 * n) start).add code
  | .loop e lo hi greedy, next, code =>
    match hi with
    | none =>
      unbounded greedy ((Expr.shape [] e known).minSize == 0) (ofExpr known e) lo next code
    | some hi =>
      let (start, code) := upTo greedy (ofExpr known e) next (hi - lo) code
      times (ofExpr known e) lo start code
  | _, next, code => (next, code)

def ofConcat (known : List (Nat × Shape)) : List Expr → Nat → Array Instr → Nat × Array Instr
  | [], next, code => (next, code)
  | e :: rest, next, code =>
    let (start, code) := ofConcat known rest next code
    ofExpr known e start code

def ofAlt (known : List (Nat × Shape)) : List Expr → Nat → Array Instr → Nat × Array Instr
  | [], next, code => (next, code)
  | [e], next, code => ofExpr known e next code
  | e :: rest, next, code =>
    let (second, code) := ofAlt known rest next code
    let (first, code) := ofExpr known e next code
    (Instr.branch first second).add code

end

end Instr

/-- A regular expression as an automaton. -/
structure Fragment where
  code : Array Instr
  start : Nat
  /-- The groups that it sets. -/
  groups : List Nat

namespace Fragment

/-- The automaton of some expressions side by side. -/
def ofExprs (known : List (Nat × Shape)) (es : List Expr) : Fragment :=
  let (start, code) := Instr.ofConcat known es 0 #[.accept]
  ⟨code, start, Expr.groupsAll es⟩

mutual

/-- Whether the bounds of all loops inside are in order and small enough to be counted. -/
def loopsInOrder : Expr → Bool
  | .concat es | .alt es => loopsInOrderAll es
  | .group _ e | .look _ _ e | .atomic e => loopsInOrder e
  | .loop e lo hi _ =>
    lo < UInt32.size && (match hi with
      | some hi => lo ≤ hi && hi < UInt32.size
      | none => true) && loopsInOrder e
  | .conditional test yes no => loopsInOrder test && loopsInOrder yes && loopsInOrder no
  | _ => true

def loopsInOrderAll : List Expr → Bool
  | [] => true
  | e :: rest => loopsInOrder e && loopsInOrderAll rest

end

/-- The automaton of some expressions, unless a loop in them has impossible bounds. -/
def ofExprs? (known : List (Nat × Shape)) (es : List Expr) : Option Fragment :=
  if loopsInOrderAll es then some (ofExprs known es) else none

/-! ### Running it -/

/-- A state to be tried at a place, with the groups as they are then. -/
structure Job where
  state : Nat
  pos : Nat
  slots : Slots

/-- The bounds of a run: no character is taken from `limit` on, and if `exact` is given, a match
counts only if it ends there. -/
structure Bounds where
  limit : Nat
  exact : Option Nat

/-- Tries the jobs in order until one leads to a match; gives the end of the match and the groups.
`visited` holds the states that were entered, by place. -/
def run (f : Fragment) (text : Array Char) (bounds : Bounds) : Nat → List Job → Array Bool →
    Option (Nat × Slots) × Array Bool
  | 0, _, visited => (none, visited)
  | _ + 1, [], visited => (none, visited)
  | fuel + 1, job :: jobs, visited =>
    let key := job.pos * f.code.size + job.state
    if visited.getD key true then run f text bounds fuel jobs visited
    else
      let visited := visited.setIfInBounds key true
      match f.code[job.state]? with
      | none => run f text bounds fuel jobs visited
      | some (.char a next) =>
        if job.pos < bounds.limit && text[job.pos]?.any a.contains then
          run f text bounds fuel (⟨next, job.pos + 1, job.slots⟩ :: jobs) visited
        else run f text bounds fuel jobs visited
      | some (.anchor a next) =>
        if a.holds text job.pos then
          run f text bounds fuel (⟨next, job.pos, job.slots⟩ :: jobs) visited
        else run f text bounds fuel jobs visited
      | some (.mark slot next) =>
        run f text bounds fuel
          (⟨next, job.pos, job.slots.setIfInBounds slot (some job.pos)⟩ :: jobs) visited
      | some (.branch first second) =>
        run f text bounds fuel
          (⟨first, job.pos, job.slots⟩ :: ⟨second, job.pos, job.slots⟩ :: jobs) visited
      | some .accept =>
        if bounds.exact.all (· == job.pos) then (some (job.pos, job.slots), visited)
        else run f text bounds fuel jobs visited

/-- Nothing visited yet. -/
def unvisited (f : Fragment) (text : Array Char) : Array Bool :=
  Array.replicate ((text.size + 1) * f.code.size) false

/-- More steps than a run can take: each state and place is left at most once, by two ways. -/
def fuel (f : Fragment) (text : Array Char) : Nat :=
  2 * ((text.size + 1) * f.code.size) + text.size + 4

/-- The groups before a fragment sets those that are its own. -/
def clear (f : Fragment) (slots : Slots) : Slots :=
  f.groups.foldl (fun s n => (s.setIfInBounds (2 * n) none).setIfInBounds (2 * n + 1) none) slots

/-- The preferred match that starts at a place. -/
def matchAt? (f : Fragment) (text : Array Char) (bounds : Bounds) (pos : Nat) (slots : Slots) :
    Option (Nat × Slots) :=
  (f.run text bounds (f.fuel text) [⟨f.start, pos, f.clear slots⟩] (f.unvisited text)).1

/-- The preferred match that starts at a place or, failing that, at the next place where there is
one. What failed from an earlier start fails again and is not tried. -/
def searchFrom (f : Fragment) (text : Array Char) (slots : Slots) : Nat → Nat → Array Bool →
    Option (Nat × Nat × Slots)
  | 0, _, _ => none
  | fuel + 1, pos, visited =>
    if text.size < pos then none
    else
      match f.run text ⟨text.size, none⟩ (f.fuel text) [⟨f.start, pos, slots⟩] visited with
      | (some (stop, slots), _) => some (pos, stop, slots)
      | (none, visited) => searchFrom f text slots fuel (pos + 1) visited

/-- The leftmost match at or after a place: its start, its end and the groups. -/
def search? (f : Fragment) (text : Array Char) (slots : Slots) (pos : Nat) :
    Option (Nat × Nat × Slots) :=
  searchFrom f text slots (text.size + 1 - pos) pos (f.unvisited text)

/-- The earliest start from which the fragment can end exactly at a place. -/
def startBefore? (f : Fragment) (text : Array Char) (slots : Slots) (stop : Nat) : Option Nat :=
  (List.range (stop + 1)).find? fun start =>
    (f.matchAt? text ⟨stop, some stop⟩ start slots).isSome

end Fragment

end Tincture.Pattern
