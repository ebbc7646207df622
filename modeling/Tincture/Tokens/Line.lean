import Tincture.Grammar.Compile
import Tincture.Tokens.Paint
import Tincture.Tokens.Stack

/-!
# Tokens of a line

A line is cut into tokens from left to right. At each place the patterns of the innermost region and
the pattern that ends it are searched, and the match that starts first is taken. Before that, the
conditions of the regions that only go on from line to line are checked, from the outermost on.

A match that takes no text must not keep the search at one place for ever. A region that ends where
it began on this line, one that begins inside itself, and one chain too many of regions that begin
at one place end the line there.

Patterns see the line with a line feed after it.
-/

namespace Tincture

/-- The tokens of a line, and the stack that it hands on. -/
structure LineTokens where
  tokens : List Token
  stack : RuleStack

/-- How many regions may begin one after the other at the same place. -/
def maxZeroWidthPushes : Nat := 64

/-- The region that stands for the whole text. -/
def Grammar.rootFrame (g : Grammar) : Frame :=
  { rule := Grammar.root, nameScopes := [g.scopeName], contentScopes := [g.scopeName] }

/-- The pattern that ends a region or keeps it open, completed with what began the region. -/
def FollowRule.resolve (r : FollowRule) (options : EngineOptions) (group : Nat → List Char) :
    FollowPattern :=
  match r with
  | .fixed source pattern => ⟨source, pattern⟩
  | .backReferenced source =>
    let source := String.ofList (BackReference.substitute group source.toList)
    ⟨source, Pattern.compile? options source⟩

namespace Tokenize

/-- What a match means: the region ends, or a rule applies. -/
inductive Target where
  | stop
  | rule (id : RuleId)
  deriving DecidableEq, Repr

/-- The match of one of the patterns that a region looks for, with its rule. -/
def childMatch? (g : Grammar) (text : Array Char) (pos : Nat) (top : Frame) :
    Option (RuleId × Match) := do
  let s ← g.scanner? top.rule
  let m ← s.scanner.findNext? text pos
  let id ← s.rules[m.index]?
  return (id, m.found)

/-- The match of the pattern that ends a region. -/
def stopMatch? (text : Array Char) (pos : Nat) (top : Frame) : Option Match := do
  let stop ← top.stop
  let p ← stop.pattern
  p.find? text pos

/-- Whether the pattern that ends a region comes after the ones that it looks for. -/
def stopsLast (g : Grammar) (top : Frame) : Bool :=
  match (g.rule? top.rule).map Rule.kind with
  | some (.region _ _ _ _ last _) => last
  | _ => false

/-- The match that comes first in a region. Of two that start together the end of the region wins,
unless it comes last. -/
def nextMatch? (g : Grammar) (text : Array Char) (pos : Nat) (top : Frame) :
    Option (Target × Match) :=
  match childMatch? g text pos top, stopMatch? text pos top with
  | some (id, child), some stop =>
    let stopWins :=
      if stopsLast g top then stop.start < child.start else stop.start ≤ child.start
    some (if stopWins then (.stop, stop) else (.rule id, child))
  | some (id, child), none => some (.rule id, child)
  | none, some stop => some (.stop, stop)
  | none, none => none

/-! ### Conditions at the start of a line -/

/-- A line on which the conditions were checked: what was painted, and where the search goes on. -/
structure Checked where
  stack : RuleStack
  paint : Paint
  pos : Nat

/-- The names that a region has for the groups of its condition. -/
def conditionCaptures (g : Grammar) (f : Frame) : CaptureNames :=
  match (g.rule? f.rule).map Rule.kind with
  | some (.whileRegion _ _ _ captures _) => captures
  | _ => {}

/-- Checks the conditions of a stack, the outermost region first. The first region whose condition
does not match is closed with all that it holds. -/
def checkConditions (g : Grammar) (text : Array Char) : RuleStack → Checked × Bool
  | [] => (⟨[], {}, 0⟩, true)
  | f :: outer =>
    match checkConditions g text outer with
    | (c, false) => (c, false)
    | (c, true) =>
      match f.condition with
      | none => ({ c with stack := f :: c.stack }, true)
      | some condition =>
        match condition.pattern.bind (·.find? text c.pos) with
        | none => (c, false)
        | some m =>
          let paint := c.paint.fill f.contentScopes m.start
          let paint := paint.captures text f.contentScopes (conditionCaptures g f) m
          let paint := paint.fill f.contentScopes m.stop
          (⟨f :: c.stack, paint, max c.pos m.stop⟩, true)

/-! ### One step -/

/-- Where the search on a line stands. -/
structure State where
  stack : RuleStack
  paint : Paint
  pos : Nat
  /-- The depths of the regions that were opened on this line, with the places where that was. -/
  entered : List (Nat × Nat) := []
  /-- How many regions began at this place. -/
  zeroWidth : Nat := 0

/-- What a step leads to. -/
inductive Outcome where
  | next (s : State)
  | done (s : State)

/-- The state after a match: the search goes on behind it, if it took any text. -/
def State.advance (s : State) (m : Match) : State :=
  if s.pos < m.stop then { s with pos := m.stop, zeroWidth := 0 } else s

/-- The state with the rest of the line painted as inside of a region. -/
def State.paintRest (s : State) (text : Array Char) (top : Frame) : State :=
  { s with paint := s.paint.fill top.contentScopes text.size }

/-- The names that a region has for the groups of what ends it. -/
def stopCaptures (g : Grammar) (f : Frame) : CaptureNames :=
  match (g.rule? f.rule).map Rule.kind with
  | some (.region _ _ _ captures _ _) => captures
  | _ => {}

/-- The innermost region ends. If it began at the same place on this line, it stays open and the
line ends. -/
def stopRegion (g : Grammar) (text : Array Char) (s : State) (top : Frame) (m : Match) : Outcome :=
  let paint := s.paint.fill top.contentScopes m.start
  let paint := paint.captures text top.nameScopes (stopCaptures g top) m
  let paint := paint.fill top.nameScopes m.stop
  let s' := { s with paint }
  if ¬ s.pos < m.stop ∧ s.entered.contains (s.stack.depth, s.pos) then
    .done (s'.paintRest text top)
  else .next ({ s' with stack := s.stack.pop }.advance m)

/-- The scopes of a name for what a match took, added to others. -/
def addScopes (scopes : List String) (text : Array Char) (m : Match) (name : Option String) :
    List String :=
  match name with
  | some name => scopes ++ ScopeName.expand (m.groupText text) name
  | none => scopes

/-- A region begins. -/
def beginRegion (text : Array Char) (s : State) (top : Frame) (rule : Rule) (m : Match)
    (captures : CaptureNames) (stop condition : Option FollowPattern) : Outcome :=
  let nameScopes := addScopes top.contentScopes text m rule.name
  let paint := s.paint.captures text nameScopes captures m
  let paint := paint.fill nameScopes m.stop
  let frame : Frame :=
    { rule := rule.id, stop, condition, nameScopes
      contentScopes := addScopes nameScopes text m rule.contentName }
  let stack := s.stack.push frame
  let depth := stack.depth
  let entered := (s.entered.filter fun e => e.1 < depth) ++ [(depth, s.pos)]
  if s.pos < m.stop then .next ({ s with stack, paint, entered }.advance m)
  else
    let zeroWidth := s.zeroWidth + 1
    if top.rule = rule.id ∨ maxZeroWidthPushes < zeroWidth then
      .done ({ s with paint, entered, zeroWidth }.paintRest text top)
    else .next { s with stack, paint, entered, zeroWidth }

/-- A rule applies. -/
def applyRule (g : Grammar) (text : Array Char) (s : State) (top : Frame) (rule : Rule)
    (m : Match) : Outcome :=
  let s := { s with paint := s.paint.fill top.contentScopes m.start }
  match rule.kind with
  | .single _ captures =>
    let nameScopes := addScopes top.contentScopes text m rule.name
    let paint := (s.paint.captures text nameScopes captures m).fill nameScopes m.stop
    let s := { s with paint }
    if s.pos < m.stop then .next (s.advance m) else .done (s.paintRest text top)
  | .region _ captures stop _ _ _ =>
    beginRegion text s top rule m captures (some (stop.resolve g.options (m.groupText text))) none
  | .whileRegion _ captures condition _ _ =>
    beginRegion text s top rule m captures none
      (some (condition.resolve g.options (m.groupText text)))
  | .group _ => .next (s.advance m)

/-- One step on a line. -/
def step (g : Grammar) (text : Array Char) (s : State) : Outcome :=
  match s.stack.top? with
  | none => .done s
  | some top =>
    match nextMatch? g text s.pos top with
    | none => .done (s.paintRest text top)
    | some (.stop, m) => stopRegion g text s top m
    | some (.rule id, m) =>
      match g.rule? id with
      | some rule => applyRule g text s top rule m
      | none => .done s

/-- Steps until the line ends. -/
def run (g : Grammar) (text : Array Char) : (fuel : Nat) → State → State
  | 0, s => s
  | fuel + 1, s => match step g text s with
    | .next s => run g text fuel s
    | .done s => s

/-- More steps than a line can take. At each place at most 65 regions begin, and after the first of
them none ends; so the regions that end are those that were open before the line or began at an
earlier place. -/
def fuel (text : Array Char) (stack : RuleStack) : Nat :=
  stack.depth + 132 * (text.size + 2)

end Tokenize

/-- The tokens of a line that starts with the given stack. -/
def tokenizeLine (g : Grammar) (line : List Char) (stack : RuleStack) : LineTokens :=
  let stack := if stack.isEmpty then [g.rootFrame] else stack
  let text := (line ++ ['\n']).toArray
  let c := (Tokenize.checkConditions g text stack).1
  let s := Tokenize.run g text (Tokenize.fuel text c.stack)
    { stack := c.stack, paint := c.paint, pos := c.pos }
  let scopes := match s.stack with
    | top :: _ => top.contentScopes
    | [] => []
  ⟨s.paint.finish line.length scopes, s.stack⟩

end Tincture
