import Tincture.Pattern.Plan
import Tincture.Text.Bytes

/-!
# Searching by going back on choices

A search keeps what is still to be done as a list of tasks, and for every choice that was made what
would have to be done instead. When a task fails, the latest choice is taken the other way. Each
such step back counts, and a search that needs more of them than it is allowed finds nothing.
-/

namespace Tincture.Pattern

mutual

/-- Something to be done before the match is complete. -/
inductive Task where
  | run (p : Plan)
  | mark (slot : Nat)
  /-- Go on at a place that was left to look around. -/
  | resume (pos : Nat)
  | roundNullable (greedy : Bool) (lo : Nat) (p : Plan) (count : Nat) (last : Option Nat)
  | roundCounted (greedy : Bool) (lo : Nat) (hi : Option Nat) (p : Plan) (count : Nat)
  /-- Forget the choices made since the given ones. -/
  | commit (choices : List Choice)
  /-- Forget the choices made since the given ones, and fail. -/
  | refuse (choices : List Choice)
  /-- Start at this place, or else further on. -/
  | attempt
  /-- Start after the next character. -/
  | advance

/-- Another way to go on: the tasks, the place and the groups. -/
inductive Choice where
  | mk (tasks : List Task) (pos : Nat) (slots : Slots)

end

/-- Where a search stands. -/
structure SearchState where
  tasks : List Task
  pos : Nat
  slots : Slots
  choices : List Choice
  /-- How often the search went back. -/
  retries : Nat

/-- What one step of a search leads to. -/
inductive Outcome where
  | next (s : SearchState)
  | found (s : SearchState)
  | failed

namespace SearchState

/-- Takes the latest choice the other way, if there is one and the allowance is not used up. -/
def back (limit : Nat) (s : SearchState) : Outcome :=
  match s.choices with
  | [] => .failed
  | .mk tasks pos slots :: choices =>
    if limit ≤ s.retries then .failed
    else .next { tasks, pos, slots, choices, retries := s.retries + 1 }

/-- A state with another way to go on, should this one fail. -/
def orElse (s : SearchState) (tasks : List Task) : SearchState :=
  { s with choices := .mk tasks s.pos s.slots :: s.choices }

/-- Goes on with one list of tasks, and with another if that fails. -/
def choose (s : SearchState) (first second : List Task) : SearchState :=
  { s.orElse second with tasks := first }

/-- The text of a group. -/
def groupText? (s : SearchState) (text : Array Char) (index : Nat) : Option (List Char) :=
  match s.slots.getD (2 * index) none, s.slots.getD (2 * index + 1) none with
  | some start, some stop => some (text.extract start stop).toList
  | _, _ => none

/-- How many characters at a place repeat a text; if case does not count, they have to be as
long in bytes. -/
def repeats? (text : Array Char) (pos : Nat) (anyCase : Bool) (captured : List Char) :
    Option Nat :=
  let here := (text.extract pos (pos + captured.length)).toList
  let same :=
    if anyCase then
      here.map Text.foldChar == captured.map Text.foldChar
        && Text.byteLength here == Text.byteLength captured
    else here == captured
  if same then some captured.length else none

/-- The step that a plan takes, with `rest` to be done after it. -/
def runPlan (text : Array Char) (limit : Nat) (p : Plan) (rest : List Task) (s : SearchState) :
    Outcome :=
  match p with
  | .char a =>
    if text[s.pos]?.any a.contains then .next { s with tasks := rest, pos := s.pos + 1 }
    else s.back limit
  | .anchor a => if a.holds text s.pos then .next { s with tasks := rest } else s.back limit
  | .seq ps => .next { s with tasks := ps.map .run ++ rest }
  | .alt [] => s.back limit
  | .alt [p] => .next { s with tasks := .run p :: rest }
  | .alt (p :: ps) => .next (s.choose (.run p :: rest) (.run (.alt ps) :: rest))
  | .group n p => .next { s with tasks := .mark (2 * n) :: .run p :: .mark (2 * n + 1) :: rest }
  | .fragment f =>
    match f.matchAt? text ⟨text.size, none⟩ s.pos s.slots with
    | some (pos, slots) => .next { s with tasks := rest, pos, slots }
    | none => s.back limit
  | .option greedy p =>
    if greedy then .next (s.choose (.run p :: rest) rest)
    else .next (s.choose rest (.run p :: rest))
  | .star greedy p =>
    let again := .run p :: .run (.star greedy p) :: rest
    if greedy then .next (s.choose again rest) else .next (s.choose rest again)
  | .starNullable greedy lo p => .next { s with tasks := .roundNullable greedy lo p 0 none :: rest }
  | .counted greedy lo hi p => .next { s with tasks := .roundCounted greedy lo hi p 0 :: rest }
  | .ahead false p => .next { s with tasks := .run p :: .resume s.pos :: rest }
  | .ahead true p => .next (s.choose [.run p, .refuse s.choices] rest)
  | .behind false size p =>
    if size ≤ s.pos then
      .next { s with tasks := .run p :: .resume s.pos :: rest, pos := s.pos - size }
    else s.back limit
  | .behind true size p =>
    if size ≤ s.pos then
      .next { s.orElse rest with tasks := [.run p, .refuse s.choices], pos := s.pos - size }
    else .next { s with tasks := rest }
  | .endingHere negated f =>
    match f.startBefore? text s.slots s.pos, negated with
    | some start, false =>
      let slots := match f.matchAt? text ⟨s.pos, none⟩ start s.slots with
        | some (_, slots) => slots
        | none => s.slots
      .next { s with tasks := rest, slots }
    | none, true => .next { s with tasks := rest }
    | _, _ => s.back limit
  | .backref n anyCase =>
    match (s.groupText? text n).bind (repeats? text s.pos anyCase) with
    | some size => .next { s with tasks := rest, pos := s.pos + size }
    | none => s.back limit
  | .atomic p => .next { s with tasks := .run p :: .commit s.choices :: rest }
  | .keepOut => .next { s with tasks := rest, slots := s.slots.setIfInBounds 0 (some s.pos) }
  | .ifGroup n =>
    if (s.groupText? text n).isSome then .next { s with tasks := rest } else s.back limit
  | .conditional test yes no =>
    .next (s.choose (.run test :: .commit s.choices :: .run yes :: rest) (.run no :: rest))

/-- The round of a loop that starts now, after `count` rounds of which the last one counted for
progress started at `last`. -/
def roundNullable (limit : Nat) (greedy : Bool) (lo : Nat) (p : Plan) (count : Nat)
    (last : Option Nat) (rest : List Task) (s : SearchState) : Outcome :=
  if lo < count && last == some s.pos then s.back limit
  else if count < lo then
    .next { s with tasks := .run p :: .roundNullable greedy lo p (count + 1) last :: rest }
  else
    let again := .run p :: .roundNullable greedy lo p (count + 1) (some s.pos) :: rest
    if greedy then .next (s.choose again rest) else .next (s.choose rest again)

/-- The round of a counted loop that starts now, after `count` rounds. -/
def roundCounted (greedy : Bool) (lo : Nat) (hi : Option Nat) (p : Plan) (count : Nat)
    (rest : List Task) (s : SearchState) : Outcome :=
  if hi == some count then .next { s with tasks := rest }
  else
    let again := .run p :: .roundCounted greedy lo hi p (count + 1) :: rest
    if count < lo then .next { s with tasks := again }
    else if greedy then .next (s.choose again rest)
    else .next (s.choose rest again)

/-- One step of the search for a plan. -/
def step (text : Array Char) (limit : Nat) (plan : Plan) (s : SearchState) : Outcome :=
  match s.tasks with
  | [] => .found s
  | .run p :: rest => s.runPlan text limit p rest
  | .mark slot :: rest =>
    .next { s with tasks := rest, slots := s.slots.setIfInBounds slot (some s.pos) }
  | .resume pos :: rest => .next { s with tasks := rest, pos }
  | .roundNullable greedy lo p count last :: rest =>
    s.roundNullable limit greedy lo p count last rest
  | .roundCounted greedy lo hi p count :: rest => s.roundCounted greedy lo hi p count rest
  | .commit choices :: rest => .next { s with tasks := rest, choices }
  | .refuse choices :: _ => { s with choices }.back limit
  | .attempt :: _ => .next (s.choose [.mark 0, .run plan, .mark 1] [.advance])
  | .advance :: _ =>
    if s.pos < text.size then .next { s with tasks := [.attempt], pos := s.pos + 1 }
    else s.back limit

/-- Steps until the search is over. -/
def steps (text : Array Char) (limit : Nat) (plan : Plan) : Nat → SearchState → Option SearchState
  | 0, _ => none
  | fuel + 1, s => match s.step text limit plan with
    | .next s => steps text limit plan fuel s
    | .found s => some s
    | .failed => none

end SearchState

/-- Steps that a search may take in all, between going back as often as it is allowed. -/
def searchFuel : Nat := 1 <<< 62

namespace Plan

/-- The groups of the leftmost match at or after a place, the whole match being group 0. -/
def search? (plan : Plan) (text : Array Char) (limit : Nat) (slots : Slots) (pos : Nat) :
    Option Slots :=
  (SearchState.steps text limit plan searchFuel
    { tasks := [.attempt], pos, slots, choices := [], retries := 0 }).map (·.slots)

end Plan

end Tincture.Pattern
