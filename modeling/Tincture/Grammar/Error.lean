import Tincture.Grammar.Compile
import Tincture.Pattern.Engine
import Tincture.Text.Quoted

/-!
# What can be wrong with a grammar
-/

namespace Tincture

/-- Why there is no grammar. -/
inductive GrammarError where
  | malformed (path : String)
  | noScopeName (path : String)
  | compile (scope : String) (cause : CompileError)
  | engine (cause : EngineError)
  deriving DecidableEq, Repr

/-- The text that is shown for a grammar that has no rule table. -/
def CompileError.message : CompileError → String
  | noEnd begins =>
    s!"rule with begin {String.ofList (Text.quote begins.toList)} has neither end nor while"
  | undefined id => s!"rule {id} was never defined"
  | endlessInclude => "includes lead to each other and to nothing else"
  | captureOverflow index => s!"capture {index} is beyond all tables of names"

/-- The text that is shown for a grammar error; where a text is malformed is not told. -/
def GrammarError.message : GrammarError → String
  | malformed path => s!"failed to parse grammar {path}"
  | noScopeName path => s!"failed to parse grammar {path}: grammar has no scopeName"
  | compile scope cause => s!"failed to compile grammar {scope}: {cause.message}"
  | engine cause => cause.message

/-- A grammar's text with the path under which it is declared. -/
structure GrammarSource where
  path : String
  text : String
  deriving DecidableEq, Repr

/-- The grammar file of a text. -/
def GrammarSource.read (s : GrammarSource) : Except GrammarError GrammarSpec :=
  match GrammarSpec.read s.path s.text.toList with
  | .ok spec => .ok spec
  | .error .malformed => .error (.malformed s.path)
  | .error .noScopeName => .error (.noScopeName s.path)

/-- The grammar of a text, ready for use. -/
def GrammarSource.load (s : GrammarSource) (options : EngineOptions) :
    Except GrammarError Grammar := do
  let spec ← s.read
  match Grammar.compile options spec with
  | .ok g => return g
  | .error e => throw (.compile spec.scopeName e)

end Tincture
