import Tincture.Grammar.Spec
import Tincture.Pattern.Scanner

/-!
# Rules

The rules of a grammar in a table, in which they refer to each other by their numbers. A pattern
that was refused leaves a rule that never matches.
-/

namespace Tincture

/-- The number of a rule in its grammar. -/
abbrev RuleId := Nat

/-- The names of captured groups, up to some number; a group may have none. -/
structure CaptureNames where
  size : Nat := 0
  /-- The names that were given, of which later ones replace earlier ones. -/
  given : List (Nat × Option String) := []
  deriving DecidableEq, Repr

namespace CaptureNames

/-- The most names that a table can have: each takes 24 bytes, and no table takes more bytes than a
signed word can count. Whether the memory at hand is enough for a table within this limit is left
aside. -/
def capacity : Nat := (UInt64.size / 2 - 1) / 24

/-- The name of a group. -/
def name? (c : CaptureNames) (n : Nat) : Option String :=
  ((c.given.reverse.lookup n)).join

/-- The names of all groups in their order. -/
def toList (c : CaptureNames) : List (Option String) :=
  (List.range c.size).map c.name?

/-- The names with one more group named. -/
def set (c : CaptureNames) (n : Nat) (name : Option String) : CaptureNames :=
  ⟨max c.size (n + 1), c.given ++ [(n, name)]⟩

end CaptureNames

/-- The pattern that ends a region or keeps it open, as a rule has it. -/
inductive FollowRule where
  /-- The same pattern for all regions. -/
  | fixed (source : String) (pattern : Option Pattern)
  /-- A pattern that refers to what began the region. -/
  | backReferenced (source : String)

/-- What a rule does. -/
inductive RuleKind where
  /-- Matches inside a line. -/
  | single (pattern : Option Pattern) (captures : CaptureNames)
  /-- Begins a region that goes on until its end pattern matches. -/
  | region (begins : Option Pattern) (beginCaptures : CaptureNames) (stop : FollowRule)
    (endCaptures : CaptureNames) (endLast : Bool) (patterns : List RuleId)
  /-- Begins a region that goes on as long as its condition matches at the start of a line. -/
  | whileRegion (begins : Option Pattern) (beginCaptures : CaptureNames) (condition : FollowRule)
    (whileCaptures : CaptureNames) (patterns : List RuleId)
  /-- Stands for other rules. -/
  | group (patterns : List RuleId)

/-- A rule of a grammar. -/
structure Rule where
  id : RuleId
  name : Option String := none
  contentName : Option String := none
  kind : RuleKind

namespace RuleKind

/-- The rules that a rule looks for inside its text. -/
def children : RuleKind → List RuleId
  | single .. => []
  | region _ _ _ _ _ patterns | whileRegion _ _ _ _ patterns | group patterns => patterns

/-- The pattern at which a rule starts to apply. -/
def entry : RuleKind → Option Pattern
  | single pattern _ => pattern
  | region begins .. | whileRegion begins .. => begins
  | group _ => none

/-- Whether a rule stands for other rules. -/
def isGroup : RuleKind → Bool
  | group _ => true
  | _ => false

end RuleKind

/-- The patterns that a rule looks for, searched together, and the rule of each slot. -/
structure RuleScanner where
  scanner : Scanner
  rules : List RuleId

/-- A grammar that is ready for use. -/
structure Grammar where
  scopeName : String
  name : Option String
  fileTypes : List String
  rules : Array Rule
  /-- For each rule that looks for others, its scanner. -/
  scanners : Array (Option RuleScanner)
  options : EngineOptions

namespace Grammar

/-- The rule that stands for the whole grammar. -/
def root : RuleId := 0

/-- The rule of a number. -/
def rule? (g : Grammar) (id : RuleId) : Option Rule :=
  g.rules[id]?

/-- What a rule looks for. -/
def scanner? (g : Grammar) (id : RuleId) : Option RuleScanner :=
  (g.scanners[id]?).join

end Grammar

end Tincture
