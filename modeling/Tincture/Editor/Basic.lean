import Tincture.Data.Table
import Tincture.Language.Basic
import Tincture.Text.Quoted
import Tincture.Tokens.Provider

/-!
# Editors

An editor knows languages, each with its configuration and what provides its tokens, and themes, one
of which may be active. Providers colour by the theme that is shown: the active one, or before any
was activated the one that is always at hand.
-/

namespace Tincture

/-- What provides the tokens of a language. -/
inductive LanguageProvider where
  | grammar (g : Grammar)
  | plain

/-- What an editor knows of a language. -/
structure EditorLanguage where
  configuration : Option LanguageConfiguration := none
  provider : Option LanguageProvider := none

structure Editor where
  languages : Table EditorLanguage := {}
  themes : Table Theme := {}
  /-- The name of the active theme. -/
  active : Option String := none
  shown : Theme := Theme.defaultDark

/-- Why an editor refuses a call. -/
inductive EditorError where
  | unknownTheme (name : String)
  | unknownLanguage (id : String)
  deriving DecidableEq, Repr

/-- The text that is shown for an editor error. -/
def EditorError.message : EditorError → String
  | unknownTheme name => s!"theme {name} is not defined"
  | unknownLanguage id => s!"language {id} is not registered"

namespace Editor

/-- Whether a language is registered. -/
def isRegistered (e : Editor) (id : String) : Bool :=
  e.languages.contains id

/-- The configuration of a language. -/
def configuration? (e : Editor) (id : String) : Option LanguageConfiguration :=
  (e.languages.get? id).bind (·.configuration)

/-- What provides the tokens of a language, under the theme that is shown. -/
def provider? (e : Editor) (id : String) : Option TokensProvider :=
  (e.languages.get? id).bind fun l => l.provider.map fun p => match p with
    | .grammar g => .ofGrammar g (some e.shown)
    | .plain => .plain

/-- The theme of a name. -/
def theme? (e : Editor) (name : String) : Option Theme :=
  e.themes.get? name

/-! ### Languages -/

/-- The editor with a language registered; one that is registered stays as it is. -/
def registerLanguage (e : Editor) (id : String) : Editor :=
  if e.isRegistered id then e else { e with languages := e.languages.set id {} }

/-- The editor with a registered language changed. -/
def modifyLanguage (e : Editor) (id : String) (f : EditorLanguage → EditorLanguage) :
    Except EditorError Editor :=
  match e.languages.get? id with
  | some l => .ok { e with languages := e.languages.set id (f l) }
  | none => .error (.unknownLanguage id)

/-- The editor with the configuration of a language set. -/
def setConfiguration (e : Editor) (id : String) (c : LanguageConfiguration) :
    Except EditorError Editor :=
  e.modifyLanguage id fun l => { l with configuration := some c }

/-- The editor with the provider of a language set. -/
def setProvider (e : Editor) (id : String) (p : LanguageProvider) : Except EditorError Editor :=
  e.modifyLanguage id fun l => { l with provider := some p }

/-! ### Themes -/

/-- The editor with a theme defined; if it is the active one, it is shown at once. -/
def defineTheme (e : Editor) (name : String) (theme : Theme) : Editor :=
  { e with
    themes := e.themes.set name theme
    shown := if e.active = some name then theme else e.shown }

/-- The editor with a theme active. -/
def setTheme (e : Editor) (name : String) : Except EditorError Editor :=
  match e.theme? name with
  | some theme => .ok { e with active := some name, shown := theme }
  | none => .error (.unknownTheme name)

/-! ### Display -/

/-- Names between quotation marks, in brackets. -/
def quotedList (names : List String) : String :=
  "[" ++ ", ".intercalate (names.map fun n => String.ofList (Text.quote n.toList)) ++ "]"

/-- An editor as it is shown, by the names of its languages and of its active theme. -/
def display (e : Editor) : String :=
  let active := match e.active with
    | some name => "Some(" ++ String.ofList (Text.quote name.toList) ++ ")"
    | none => "None"
  "HeadlessHost \x7b languages: " ++ quotedList e.languages.names ++ ", active_theme: " ++ active
    ++ " \x7d"

end Editor

end Tincture
