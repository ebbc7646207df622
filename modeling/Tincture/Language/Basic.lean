import Tincture.Grammar.Location
import Tincture.Language.Configuration

/-!
# Languages

A language joins a name, the scope of its grammar, the extensions of its files, the place of its
grammar and its configuration. The language of a file is the first one that has its extension.
-/

namespace Tincture

structure LanguageSpec where
  id : String
  scopeName : String
  extensions : List String
  grammar : GrammarLocation
  configuration : LanguageConfiguration
  deriving DecidableEq, Repr

/-- Whether a file is written in a language by its extension; case does not count in ASCII. -/
def LanguageSpec.matchesPath (l : LanguageSpec) (path : String) : Bool :=
  match Path.extension? path with
  | some e => l.extensions.any fun known => Text.eqIgnoringAsciiCase known.toList e
  | none => false

/-- The languages that are always at hand. -/
def builtinLanguages : List LanguageSpec :=
  [{ id := "typst"
     scopeName := "source.typst"
     extensions := ["typ"]
     grammar := .embedded ⟨Builtin.typstGrammarPath, Builtin.typstGrammar⟩
     configuration := (LanguageConfiguration.ofJson? Builtin.typstConfiguration).getD {} }]

/-- The language of a file. -/
def detectLanguage (path : String) (languages : List LanguageSpec) : Option LanguageSpec :=
  languages.find? (·.matchesPath path)

end Tincture
