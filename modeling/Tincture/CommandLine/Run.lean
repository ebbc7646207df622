import Tincture.CommandLine.Help
import Tincture.CommandLine.Terminal
import Tincture.Editor.Highlighter
import Tincture.Format.Session

/-!
# Running the program

A run takes the arguments and the files it can reach, and gives what is printed and how the program
ends: with 0 if all went well, with 1 if the command failed, and with 2 if the arguments lead to no
command. Failures are told with their causes; what the program can go on without is only warned of.
-/

namespace Tincture

/-- What a run can see besides its arguments. -/
structure Surroundings where
  files : FileTree
  /-- The directory that holds the configurations of all programs. -/
  configHome : Option String

/-- What a run leads to. -/
structure RunResult where
  code : UInt32
  output : List Char := []
  /-- The lines that are printed beside the output. -/
  messages : List String := []
  deriving DecidableEq, Repr

/-- Why a command failed: what could not be done, and the cause if there is one. -/
structure Failure where
  context : String
  cause : Option String := none
  deriving DecidableEq, Repr

namespace Failure

/-- The lines that tell of a failure; those of the cause are indented. -/
def lines (f : Failure) : List String :=
  ("Error: " ++ f.context) :: match f.cause with
    | some cause =>
      ["", "Caused by:"] ++ (Text.splitOn '\n' cause.toList).map fun l => "    " ++ String.ofList l
    | none => []

end Failure

namespace Run

/-- The text of a file that a command is about. -/
def readSource (files : FileTree) (path : String) : Except Failure String :=
  match files.read path with
  | .ok text => .ok text
  | .error e => .error ⟨s!"Failed to read {path}", some e.message⟩

/-! ### Themes -/

/-- The list of themes in three columns. -/
def themeList (s : Surroundings) : List Char :=
  (ThemeInfo.all s.files (s.configHome.map Config.themesDirectory)).flatMap fun t =>
    let origin := match t.origin with
      | .user => "user"
      | .builtin => "builtin"
    (Help.padRight 20 t.id ++ " " ++ Help.padRight 24 t.name ++ " " ++ origin ++ "\n").toList

/-! ### Formatting -/

/-- Formats a file, or checks that formatting it again changes nothing. -/
def format (files : FileTree) (config : FormatConfig) (file : String) (check : Bool) :
    Except Failure (List Char) := do
  let source ← readSource files file
  let formatter := Formatter.whitespace
  if check then
    match formatter.checkConvergence source.toList config with
    | .ok _ => return (file ++ ": ok\n").toList
    | .error e => throw ⟨s!"{file} does not format stably", some e.message⟩
  else
    match formatter.format source.toList config with
    | .ok text => return text
    | .error e => throw ⟨s!"Failed to format {file}", some e.message⟩

/-! ### Highlighting -/

/-- A language around a grammar file, named after the last part of its scope if it has no other
name. -/
def specOfGrammar (files : FileTree) (id : Option String) (grammar : String) :
    Except Failure LanguageSpec := do
  let text ← readSource files grammar
  match GrammarSource.read ⟨grammar, text⟩ with
  | .ok spec => return {
      id := id.getD (DisplayToken.baseLanguage [spec.scopeName])
      scopeName := spec.scopeName
      extensions := []
      grammar := .path grammar
      configuration := {} }
  | .error e => throw ⟨s!"Invalid grammar {grammar}", some e.message⟩

/-- The language of a file: the one that is asked for, else the one that its extension tells; a
grammar that is asked for replaces the one of the language, or makes a language of its own. -/
def resolveLanguage (s : Surroundings) (a : Arguments) (config : Config) (file : String) :
    Except Failure (Option LanguageSpec) := do
  let specs := config.languageSpecs s.files (s.configHome.map Config.directory)
  let spec ← match a.language with
    | some id => match specs.find? (·.id = id) with
      | some spec => pure (some spec)
      | none => if a.grammar.isNone then throw ⟨s!"Unknown language: {id}", none⟩ else pure none
    | none => pure (detectLanguage file specs)
  match a.grammar, spec with
  | none, spec => return spec
  | some grammar, some spec => return some { spec with grammar := .path grammar }
  | some grammar, none => return some (← specOfGrammar s.files a.language grammar)

/-- Activates the theme that is asked for, and warns if it is not defined. -/
def activate (editor : Editor) (name : String) : Editor × List String :=
  match Highlighter.activateTheme editor name with
  | (editor, .ok ()) => (editor, [])
  | (editor, .error e) => (editor, [s!"Warning: {e.message}"])

/-- The provider for a language, and a warning if its grammar is not used. -/
def provide (h : Highlighter) (editor : Editor) (files : FileTree) :
    Option LanguageSpec → TokensProvider × List String
  | none => (.plain, [])
  | some spec =>
    let (_, editor, r) := h.setupLanguage editor files spec
    ((editor.provider? spec.id).getD .plain, match r with
      | .ok _ => []
      | .error e => [s!"Warning: {e.message}; showing plain text"])

/-- The document of a file with all of its tokens, and warnings, which are told also if the command
fails. -/
def tokenize (s : Surroundings) (a : Arguments) (config : Config) (file : String) :
    Except Failure Document × List String :=
  match readSource s.files file with
  | .error e => (.error e, [])
  | .ok source =>
    let h := Highlighter.ofConfig config (s.configHome.map Config.directory)
    let (editor, _) := h.registerThemes {} s.files config.themeEntries
    let (editor, warnings) := activate editor (a.theme.getD config.theme)
    match resolveLanguage s a config file with
    | .error e => (.error e, warnings)
    | .ok spec =>
      let (provider, more) := provide h editor s.files spec
      let d := Document.ofText source.toList
      (.ok (d.ensureTokenized provider d.lineCount).1, warnings ++ more)

/-! ### The program -/

/-- Makes the directory for logs, and warns if that cannot be done. -/
def makeLogs (s : Surroundings) : Surroundings × List String :=
  let warning (cause : String) : String := s!"Warning: Could not initialize file logging: {cause}"
  match s.configHome with
  | none => (s, [warning "No config directory available"])
  | some home =>
    let path := Config.logsDirectory home
    match s.files.makeDirectory path with
    | .ok files => ({ s with files }, [])
    | .error e => (s, [warning s!"Failed to create directory {path}: {e.message}"])

/-- The configuration that is asked for. -/
def loadConfig (s : Surroundings) (a : Arguments) : Config :=
  match a.config.or (s.configHome.map Config.file) with
  | some path => Config.load s.files path
  | none => {}

/-- Runs a command. -/
def command (s : Surroundings) (a : Arguments) : Except Failure (List Char) × List String :=
  let config := loadConfig s a
  match a.command with
  | .themes => (.ok (themeList s), [])
  | .format file _ _ check =>
    (format s.files (a.command.formatConfig config.format) file check, [])
  | .tokens file =>
    let (d, warnings) := tokenize s a config file
    (d.map Terminal.tokenList, warnings)
  | .highlight file =>
    let (d, warnings) := tokenize s a config file
    (d.map Terminal.highlighted, warnings)

end Run

/-- Runs the program. -/
def run (s : Surroundings) (arguments : List String) : RunResult :=
  match Arguments.ofList arguments with
  | .error e =>
    if e.isAnswer then { code := 0, output := Text.unlines (e.message.map String.toList) }
    else { code := 2, messages := e.message }
  | .ok a =>
    let (s, warnings) := Run.makeLogs s
    match Run.command s a with
    | (.ok output, more) => { code := 0, output, messages := warnings ++ more }
    | (.error e, more) => { code := 1, messages := warnings ++ more ++ e.lines }

end Tincture
