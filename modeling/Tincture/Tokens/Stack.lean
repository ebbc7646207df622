import Tincture.Grammar.Rule
import Tincture.Text.Number

/-!
# Rule stacks

The regions that are open at a place, the innermost first. A stack is what one line hands on to the
next. Two stacks count as the same if they agree in everything but what was made of the patterns:
those are compared by their source (`RuleStack.same`).
-/

namespace Tincture

/-- The pattern that ends a region or keeps it open, completed for this region. -/
structure FollowPattern where
  source : String
  pattern : Option Pattern

/-- A region that is open. -/
structure Frame where
  rule : RuleId
  /-- The pattern that ends the region. -/
  stop : Option FollowPattern := none
  /-- The pattern that keeps the region open at the start of a line. -/
  condition : Option FollowPattern := none
  /-- The scopes of what begins and ends the region. -/
  nameScopes : List String
  /-- The scopes of what lies inside it. -/
  contentScopes : List String

/-- The open regions, the innermost first. -/
abbrev RuleStack := List Frame

/-- Whether two optional patterns have the same source. -/
def FollowPattern.same (a b : Option FollowPattern) : Bool :=
  a.map (·.source) == b.map (·.source)

/-- Whether two regions agree, their patterns being compared by source. -/
def Frame.same (a b : Frame) : Bool :=
  a.rule == b.rule && FollowPattern.same a.stop b.stop
    && FollowPattern.same a.condition b.condition
    && a.nameScopes == b.nameScopes && a.contentScopes == b.contentScopes

namespace RuleStack

/-- The stack before the first line. -/
def initial : RuleStack := []

/-- The number of open regions. -/
def depth (s : RuleStack) : Nat := s.length

/-- The innermost region. -/
def top? (s : RuleStack) : Option Frame := s.head?

/-- The stack with one more region. -/
def push (s : RuleStack) (f : Frame) : RuleStack := f :: s

/-- The stack without its innermost region, if it has one. -/
def pop (s : RuleStack) : RuleStack := s.tail

/-- Whether two stacks agree, their patterns being compared by source. -/
def same : RuleStack → RuleStack → Bool
  | [], [] => true
  | a :: as, b :: bs => a.same b && same as bs
  | _, _ => false

/-- Numbers in brackets, separated by commas. -/
def numberList (ns : List Nat) : String :=
  "[" ++ ", ".intercalate (ns.map fun n => String.ofList (Text.decimal n)) ++ "]"

/-- A stack as it is shown, by the rules of its regions from the outermost on. -/
def display (s : RuleStack) : String :=
  "RuleStack \x7b rules: " ++ numberList (s.reverse.map (·.rule)) ++ " \x7d"

end RuleStack

namespace Frame

theorem same_refl (a : Frame) : a.same a = true := by
  simp [Frame.same, FollowPattern.same]

end Frame

/-- Every stack agrees with itself. -/
theorem RuleStack.same_refl (s : RuleStack) : s.same s = true := by
  induction s with
  | nil => rfl
  | cons a s ih => simp [RuleStack.same, Frame.same_refl, ih]

end Tincture
