import Tincture.Grammar.BackReference
import Tincture.Grammar.Flatten
import Tincture.Grammar.ScopeName

/-!
# Compiling grammars

The rules of a grammar file are numbered in the order in which they are reached from its patterns.
A rule is known by its address, the way that leads to it through the file, so that it gets one
number however often it is included. An include by name looks through the repositories that are open
where it is followed, the innermost first, and is replaced by what it finds.

A rule that stands at the end of a chain of includes which comes back to itself is never reached;
such a chain is reported (`CompileError.endlessInclude`).
-/

namespace Tincture

/-- Why a grammar has no rule table. -/
inductive CompileError where
  /-- A rule begins a region, and neither ends it nor says how long it goes on. -/
  | noEnd (begins : String)
  /-- A rule got a number and no content. -/
  | undefined (id : RuleId)
  /-- Includes lead to each other and to nothing else. -/
  | endlessInclude
  /-- The names of captured groups are more than a table can have. -/
  | captureOverflow (index : Nat)
  deriving DecidableEq, Repr

/-- One step on the way to a rule. -/
inductive Step where
  | pattern (index : Nat)
  | named (name : String)
  deriving DecidableEq, Repr

/-- The way to a rule through a grammar file, the last step first. -/
abbrev Address := List Step

/-- A repository, with the address of the rule that holds it. -/
structure Repository where
  address : Address
  rules : List (String × RuleSpec)

namespace Compile

mutual

/-- The number of rules in a rule, itself included. -/
def ruleCount : RuleSpec → Nat
  | ⟨_, _, _, _, _, _, _, _, _, _, _, patterns, repository, _⟩ =>
    1 + (match patterns with
      | some rules => listCount rules
      | none => 0) + (match repository with
      | some rules => entriesCount rules
      | none => 0)

def listCount : List RuleSpec → Nat
  | [] => 0
  | r :: rest => ruleCount r + listCount rest

def entriesCount : List (String × RuleSpec) → Nat
  | [] => 0
  | (_, r) :: rest => ruleCount r + entriesCount rest

end

/-- The number of rules in a grammar file. -/
def specCount (g : GrammarSpec) : Nat :=
  listCount g.patterns + entriesCount g.repository

/-- What is known while rules are numbered: the rules so far, by number, and the numbers of
addresses. -/
structure State where
  rules : Array (Option Rule) := #[]
  numbers : List (Address × RuleId) := []

/-- A step that may fail. -/
abbrev Numbering := StateT State (Except CompileError)

/-- What does not change while rules are numbered. -/
structure Context where
  scopeName : String
  options : EngineOptions
  /-- The number of rules in the file. -/
  count : Nat

/-- Takes the next number. -/
def allocate : Numbering RuleId := do
  let s ← get
  set { s with rules := s.rules.push none }
  return s.rules.size

/-- The names of captured groups. A key that is no number is passed by, and of keys for the same
number the last one counts. The table has a place for each number up to the largest one, so that a
number may be too large for any table (`CaptureNames.capacity`). -/
def captureNames : Option CaptureSpecs → Except CompileError CaptureNames
  | none => .ok {}
  | some entries => entries.foldlM (fun names (key, capture) =>
      match Text.word? key.toList with
      | none => .ok names
      | some n =>
        if names.size ≤ n ∧ CaptureNames.capacity ≤ n then .error (.captureOverflow n)
        else .ok (names.set n capture.name)) {}

/-- The pattern that ends a region or keeps it open. -/
def followRule (options : EngineOptions) (source : String) : FollowRule :=
  if BackReference.occursIn source.toList then .backReferenced source
  else .fixed source (Pattern.compile? options source)

/-- The entry of a name in the innermost repository that has it. -/
def lookUp (name : String) : List Repository → Option (Address × RuleSpec)
  | [] => none
  | r :: rest => match r.rules.lookup name with
    | some rule => some (.named name :: r.address, rule)
    | none => lookUp name rest

/-- What an include leads to. -/
inductive Target where
  | root
  | rule (address : Address) (spec : RuleSpec)
  | nothing

/-- Where an include leads: to the grammar itself, to what a repository has under a name, which may
be an include again, or nowhere. The innermost repository comes first. -/
def follow (scopeName : String) (repositories : List Repository) :
    (fuel : Nat) → Address → RuleSpec → Except CompileError Target
  | 0, _, _ => .error .endlessInclude
  | fuel + 1, address, spec =>
    match spec.includeTarget with
    | none => .ok (.rule address spec)
    | some target =>
      if target = "$self" ∨ target = "$base" ∨ target = scopeName then .ok .root
      else match target.toList with
        | '#' :: name => match lookUp (String.ofList name) repositories with
          | some (address, spec) => follow scopeName repositories fuel address spec
          | none => .ok .nothing
        | _ => .ok .nothing

/-- The repositories inside a rule. -/
def openRepository (address : Address) (spec : RuleSpec) (repositories : List Repository) :
    List Repository :=
  match spec.repository with
  | some rules => ⟨address, rules⟩ :: repositories
  | none => repositories

/-- What a rule does, given the numbers of the rules it lists. -/
def kindOf (options : EngineOptions) (spec : RuleSpec) (children : List RuleId) :
    Except CompileError RuleKind := do
  let compile := Pattern.compile? options
  match spec.matchPattern, spec.beginPattern with
  | some source, _ => return .single (compile source) (← captureNames spec.captures)
  | none, some begins =>
    let beginCaptures := spec.beginCaptures.or spec.captures
    match spec.endPattern, spec.whilePattern with
    | some stop, _ =>
      return .region (compile begins) (← captureNames beginCaptures) (followRule options stop)
        (← captureNames (spec.endCaptures.or spec.captures))
        (spec.applyEndPatternLast.any Flag.isSet) children
    | none, some condition =>
      return .whileRegion (compile begins) (← captureNames beginCaptures)
        (followRule options condition)
        (← captureNames (spec.whileCaptures.or spec.captures)) children
    | none, none => .error (.noEnd begins)
  | none, none => return .group children

mutual

/-- Numbers a rule, unless its address has a number, and gives the number; an include gives the
number of what it leads to, if it leads anywhere. -/
def number (ctx : Context) (repositories : List Repository) :
    (fuel : Nat) → Address → RuleSpec → Numbering (Option RuleId)
  | 0, _, _ => throw .endlessInclude
  | fuel + 1, address, spec => do
    match ← follow ctx.scopeName repositories (ctx.count + 1) address spec with
    | .root => return some Grammar.root
    | .nothing => return none
    | .rule address spec =>
      match (← get).numbers.lookup address with
      | some id => return some id
      | none =>
        let id ← allocate
        modify fun s => { s with numbers := (address, id) :: s.numbers }
        let inner := openRepository address spec repositories
        let listed := if spec.matchPattern.isSome then [] else spec.patterns.getD []
        let children ← numberAll ctx inner fuel address 0 listed
        let kind ← kindOf ctx.options spec children
        let rule : Rule := { id, name := spec.name, contentName := spec.contentName, kind }
        modify fun s => { s with rules := s.rules.setIfInBounds id (some rule) }
        return some id
termination_by fuel => (fuel, 0)

/-- Numbers the rules of a list in their order; includes that lead nowhere are left out. -/
def numberAll (ctx : Context) (repositories : List Repository) :
    (fuel : Nat) → Address → (index : Nat) → List RuleSpec → Numbering (List RuleId)
  | _, _, _, [] => return []
  | fuel, parent, index, spec :: rest => do
    let id? ← number ctx repositories fuel (.pattern index :: parent) spec
    let ids ← numberAll ctx repositories fuel parent (index + 1) rest
    return id?.toList ++ ids
termination_by fuel _ _ rules => (fuel, rules.length + 1)

end

/-- Numbers the rules of a grammar; its own number is the first. -/
def numberGrammar (ctx : Context) (g : GrammarSpec) : Numbering Unit := do
  let root ← allocate
  let patterns ← numberAll ctx [⟨[], g.repository⟩] (ctx.count + 1) [] 0 g.patterns
  let rule : Rule := { id := root, kind := .group patterns }
  modify fun s => { s with rules := s.rules.setIfInBounds root (some rule) }

/-- The rule table, if every number has a rule. -/
def ruleTable (rules : Array (Option Rule)) : Except CompileError (List Rule) :=
  rules.toList.zipIdx.mapM fun (rule, id) => match rule with
    | some rule => .ok rule
    | none => .error (.undefined id)

end Compile

/-- The grammar that a file describes, with the patterns that are refused left out. -/
def Grammar.compile (options : EngineOptions) (g : GrammarSpec) : Except CompileError Grammar := do
  let ctx : Compile.Context := ⟨g.scopeName, options, Compile.specCount g⟩
  let ((), s) ← (Compile.numberGrammar ctx g).run {}
  let rules := (← Compile.ruleTable s.rules).toArray
  return {
    scopeName := g.scopeName
    name := g.name
    fileTypes := g.fileTypes
    rules
    scanners := rules.map (Flatten.scanner rules)
    options }

end Tincture
