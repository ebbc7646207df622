import Tincture.Data.Table
import Tincture.Grammar.Error

/-!
# Grammar registries

A registry hands out grammars by scope and keeps the outcome of each load: the grammar, its absence,
or what is wrong with it. The engine is started first; while it fails, nothing is loaded and nothing
kept.
-/

namespace Tincture

/-- The outcome of a load; there may be no grammar for a scope. -/
abbrev LoadOutcome := Except GrammarError (Option Grammar)

/-- The outcomes of loads by scope. -/
structure GrammarRegistry where
  outcomes : Table LoadOutcome := {}

namespace GrammarRegistry

/-- What is kept for a scope. -/
def outcome? (r : GrammarRegistry) (scope : String) : Option LoadOutcome :=
  r.outcomes.get? scope

/-- Whether a load of a scope came to its end. -/
def isCached (r : GrammarRegistry) (scope : String) : Bool :=
  (r.outcome? scope).isSome

/-- The registry with the outcome of a load. -/
def keep (r : GrammarRegistry) (scope : String) (outcome : LoadOutcome) : GrammarRegistry :=
  ⟨r.outcomes.set scope outcome⟩

/-- The outcome for the text that was found for a scope. -/
def outcomeOf (options : EngineOptions) (found : Option GrammarSource) : LoadOutcome :=
  match found with
  | none => .ok none
  | some source => (source.load options).map some

/-- A load in progress: the engine and the registry, and whether the loader was asked. -/
structure Load where
  engine : Engine
  registry : GrammarRegistry
  asked : Bool
  outcome : LoadOutcome

/-- The grammar of a scope. Only the first load of a scope asks the loader, whose answer is `found`;
the engine asks its source, whose answer is `source`, if it is not started. -/
def load (r : GrammarRegistry) (engine : Engine) (source : Except EngineError EngineOptions)
    (scope : String) (found : Option GrammarSource) : Load :=
  match engine.start source with
  | (engine, .error e) => ⟨engine, r, false, .error (.engine e)⟩
  | (engine, .ok options) =>
    match r.outcome? scope with
    | some outcome => ⟨engine, r, false, outcome⟩
    | none =>
      let outcome := outcomeOf options found
      ⟨engine, r.keep scope outcome, true, outcome⟩

/-- What was kept for a scope is found again, and nothing else changes. -/
theorem outcome?_keep (r : GrammarRegistry) (scope other : String) (outcome : LoadOutcome) :
    (r.keep scope outcome).outcome? other =
      if other = scope then some outcome else r.outcome? other :=
  Table.get?_set r.outcomes scope other outcome

end GrammarRegistry

end Tincture
