import Tincture.Data.Yaml.Node
import Tincture.Pattern.Scanner

/-!
# The pattern engine

Patterns are compiled with options that come from a source, which may fail. The engine asks its
source when it is first needed and keeps the answer, good or bad, until it is reset. New options are
tried on one pattern before they are accepted.
-/

namespace Tincture

/-- Why there are no options to compile patterns with. -/
inductive EngineError where
  | fetch (message : String)
  | decode
  | selfTest
  deriving DecidableEq, Repr

/-- The text that is shown for an engine error; what kept options from being read is not told. -/
def EngineError.message : EngineError → String
  | fetch message => s!"failed to fetch regex engine payload: {message}"
  | decode => "failed to decode regex engine payload"
  | selfTest => "regex engine self-test failed"

namespace EngineOptions

/-- The options that a document gives; those that it leaves out have their usual values. -/
def ofData? (d : Data) : Option EngineOptions := do
  let r ← d.record? ["backtrack_limit", "delegate_size_limit", "delegate_dfa_size_limit"]
  return {
    backtrackLimit := ← r.orDefault "backtrack_limit" Data.word? 1000000
    delegateSizeLimit := ← r.optional "delegate_size_limit" Data.word?
    delegateDfaSizeLimit := ← r.optional "delegate_dfa_size_limit" Data.word? }

/-- The options that a YAML text gives. -/
def ofYaml (text : String) : Except EngineError EngineOptions :=
  match (Data.Yaml.read? text.toList).bind ofData? with
  | some options => .ok options
  | none => .error .decode

/-- The pattern on which options are tried. -/
def trialPattern : String :=
  "(['\"])(?:(?!\\1).)*\\1"

/-- Options that were tried. -/
def trial (options : EngineOptions) : Except EngineError EngineOptions :=
  match Pattern.compile? options trialPattern with
  | some _ => .ok options
  | none => .error .selfTest

end EngineOptions

/-- The engine: the answer of its source, if it was asked, and how often it was asked in all. -/
structure Engine where
  answer : Option (Except EngineError EngineOptions) := none
  attempts : Nat := 0

namespace Engine

/-- Whether the source was asked since the last reset. -/
def isInitialized (e : Engine) : Bool :=
  e.answer.isSome

/-- The engine with its options, from `source` if it was not asked before. -/
def start (e : Engine) (source : Except EngineError EngineOptions) :
    Engine × Except EngineError EngineOptions :=
  match e.answer with
  | some answer => (e, answer)
  | none =>
    let answer := source.bind EngineOptions.trial
    ({ answer := some answer, attempts := e.attempts + 1 }, answer)

/-- The engine without the answer of its source. -/
def reset (e : Engine) : Engine :=
  { e with answer := none }

end Engine

end Tincture
