import Tincture.Config.Languages
import Tincture.Editor.Basic
import Tincture.Grammar.Registry
import Tincture.Pattern.EngineSource

/-!
# Setting up an editor

A highlighter has a pattern engine, the grammars of languages and a place where themes are found. It
brings languages and themes into an editor. A language without a usable grammar still works, as
plain text; what is wrong with its grammar is reported.
-/

namespace Tincture

/-- The grammar of a language: its scope, its place, and what came of loading it. -/
structure LanguageGrammar where
  scopeName : String
  location : GrammarLocation
  registry : GrammarRegistry := {}

/-- The text of a grammar for a scope; a language has a grammar for its own scope only. -/
def LanguageGrammar.find (files : FileTree) (l : LanguageGrammar) (scope : String) :
    Option GrammarSource :=
  if scope = l.scopeName then l.location.fetch files else none

structure Highlighter where
  source : EngineSource := .usual
  engine : Engine := {}
  grammars : Table LanguageGrammar := {}
  /-- The directory from which the paths of themes are seen. -/
  themeRoot : Option String := none

/-- What provides the tokens of a language that was set up. -/
inductive ProviderKind where
  | textMate
  | plainText
  deriving DecidableEq, Repr

/-- A language that was set up. -/
structure LanguageRegistration where
  id : String
  scopeName : String
  configuration : LanguageConfiguration
  provider : ProviderKind
  deriving DecidableEq, Repr

/-- What can go wrong while an editor is set up. -/
inductive SetupError where
  | engine (cause : EngineError)
  | grammar (cause : GrammarError)
  | theme (cause : ThemeError)
  | editor (cause : EditorError)
  deriving DecidableEq, Repr

namespace SetupError

/-- A grammar error; one of the engine is reported as such. -/
def ofGrammarError : GrammarError → SetupError
  | .engine cause => engine cause
  | e => grammar e

/-- The text that is shown for a setup error. -/
def message : SetupError → String
  | engine cause => s!"regex engine unavailable: {cause.message}"
  | grammar cause => cause.message
  | theme cause => cause.message
  | editor cause => cause.message

end SetupError

namespace Highlighter

/-- The highlighter that a configuration asks for; paths are seen from the directory of the
configuration, if there is one. -/
def ofConfig (c : Config) (directory : Option String) : Highlighter :=
  { source := match c.engineOptions with
      | some path => .file (Path.within directory path)
      | none => .usual
    themeRoot := directory }

/-! ### Languages -/

/-- Loads the grammar of a scope for a language, and keeps what came of it. -/
def loadGrammar (h : Highlighter) (files : FileTree) (id : String) (l : LanguageGrammar)
    (scope : String) : Highlighter × LoadOutcome :=
  let r := l.registry.load h.engine (h.source.options files) scope (l.find files scope)
  ({ h with engine := r.engine, grammars := h.grammars.set id { l with registry := r.registry } },
    r.outcome)

/-- Installs the provider that a load leads to. -/
def install (editor : Editor) (spec : LanguageSpec) (outcome : LoadOutcome) :
    Editor × Except SetupError LanguageRegistration :=
  let registration (provider : ProviderKind) : LanguageRegistration :=
    ⟨spec.id, spec.scopeName, spec.configuration, provider⟩
  let (provider, result) : LanguageProvider × Except SetupError LanguageRegistration :=
    match outcome with
    | .ok (some g) => (.grammar g, .ok (registration .textMate))
    | .ok none => (.plain, .ok (registration .plainText))
    | .error e => (.plain, .error (.ofGrammarError e))
  match editor.setProvider spec.id provider with
  | .ok editor => (editor, result)
  | .error e => (editor, .error (.editor e))

/-- Sets up a language; what was set up for it before is replaced. -/
def setupLanguage (h : Highlighter) (editor : Editor) (files : FileTree) (spec : LanguageSpec) :
    Highlighter × Editor × Except SetupError LanguageRegistration :=
  let editor := editor.registerLanguage spec.id
  match editor.setConfiguration spec.id spec.configuration with
  | .error e => (h, editor, .error (.editor e))
  | .ok editor =>
    let (h, outcome) :=
      h.loadGrammar files spec.id ⟨spec.scopeName, spec.grammar, {}⟩ spec.scopeName
    (h, install editor spec outcome)

/-- Sets up languages one after the other; one that fails does not keep others from being set up. -/
def setupLanguages (h : Highlighter) (editor : Editor) (files : FileTree) :
    List LanguageSpec → Highlighter × Editor × List (Except SetupError LanguageRegistration)
  | [] => (h, editor, [])
  | spec :: rest =>
    let (h, editor, r) := h.setupLanguage editor files spec
    let (h, editor, rs) := setupLanguages h editor files rest
    (h, editor, r :: rs)

/-! ### Themes -/

/-- Loads a theme and defines it under a name. -/
def registerTheme (h : Highlighter) (editor : Editor) (files : FileTree) (entry : ThemeEntry) :
    Editor × Except SetupError Theme :=
  match ThemeData.load files h.themeRoot entry.name entry.url with
  | .ok data =>
    let theme := Theme.ofData entry.name data
    (editor.defineTheme entry.name theme, .ok theme)
  | .error e => (editor, .error (.theme e))

/-- Loads and defines themes, and gives the names of those that could be loaded. -/
def registerThemes (h : Highlighter) (editor : Editor) (files : FileTree) :
    List ThemeEntry → Editor × List String
  | [] => (editor, [])
  | entry :: rest =>
    let (editor, r) := h.registerTheme editor files entry
    let (editor, names) := registerThemes h editor files rest
    (editor, match r with
      | .ok _ => entry.name :: names
      | .error _ => names)

/-- Activates a theme. If it is not defined, the usual one is activated, and defined if need be. -/
def activateTheme (editor : Editor) (name : String) : Editor × Except SetupError Unit :=
  match editor.setTheme name with
  | .ok editor => (editor, .ok ())
  | .error e =>
    let editor := if (editor.theme? defaultThemeId).isSome then editor
      else editor.defineTheme defaultThemeId Theme.defaultDark
    match editor.setTheme defaultThemeId with
    | .ok editor => (editor, .error (.editor e))
    | .error e => (editor, .error (.editor e))

/-! ### Configurations -/

/-- Brings the themes and languages of a configuration into an editor, and gives the languages that
were set up. -/
def applyConfig (h : Highlighter) (editor : Editor) (files : FileTree) (c : Config)
    (directory : Option String) : Highlighter × Editor × List LanguageRegistration :=
  let (editor, _) := h.registerThemes editor files c.themeEntries
  let (editor, _) := activateTheme editor c.theme
  let (h, editor, rs) := h.setupLanguages editor files (c.languageSpecs files directory)
  (h, editor, rs.filterMap Except.toOption)

/-- A highlighter as it is shown, by the names of its languages. -/
def display (h : Highlighter) : String :=
  "Bridge \x7b languages: " ++ Editor.quotedList h.grammars.names ++ ", engine_initialized: "
    ++ (if h.engine.isInitialized then "true" else "false") ++ " \x7d"

end Highlighter

end Tincture
