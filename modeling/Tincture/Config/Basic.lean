import Tincture.Data.Yaml.Node
import Tincture.Data.Yaml.Writer
import Tincture.Files.Tree
import Tincture.Format.Config
import Tincture.Theme.Library

/-!
# Configuration

What a user has chosen: the theme, more themes and languages, the options of the pattern engine and
how documents are formatted. It is kept in a YAML file; what the file leaves out has its usual
value, and a file that cannot be read counts as one that leaves out everything.
-/

namespace Tincture

/-- A theme under the name by which it is chosen, with the place where it is loaded from. -/
structure ThemeEntry where
  name : String
  url : String
  deriving DecidableEq, Repr

/-- A language that a user adds. -/
structure LanguageEntry where
  id : String
  scopeName : String
  grammar : String
  configuration : Option String := none
  extensions : List String := []
  deriving DecidableEq, Repr

structure Config where
  theme : String := defaultThemeId
  themes : List ThemeEntry := []
  languages : List LanguageEntry := []
  /-- The file with the options of the pattern engine. -/
  engineOptions : Option String := none
  format : FormatConfig := {}
  deriving DecidableEq, Repr

/-! ### Decoding -/

def ThemeEntry.ofData? (d : Data) : Option ThemeEntry := do
  let r ← d.record? ["name", "url"]
  return ⟨← r.required "name" Data.string?, ← r.required "url" Data.string?⟩

def LanguageEntry.ofData? (d : Data) : Option LanguageEntry := do
  let r ← d.record? ["id", "scope_name", "grammar", "configuration", "extensions"]
  return {
    id := ← r.required "id" Data.string?
    scopeName := ← r.required "scope_name" Data.string?
    grammar := ← r.required "grammar" Data.string?
    configuration := ← r.optional "configuration" Data.string?
    extensions := ← r.orDefault "extensions" (·.list? Data.string?) [] }

def FormatConfig.ofData? (d : Data) : Option FormatConfig := do
  let r ← d.record? ["max_width", "tab_spaces", "blank_lines_upper_bound", "collapse_markup_spaces",
    "reorder_import_items", "wrap_text"]
  let usual : FormatConfig := {}
  return {
    maxWidth := ← r.orDefault "max_width" Data.word? usual.maxWidth
    tabSpaces := ← r.orDefault "tab_spaces" Data.word? usual.tabSpaces
    blankLinesUpperBound :=
      ← r.orDefault "blank_lines_upper_bound" Data.word? usual.blankLinesUpperBound
    collapseMarkupSpaces :=
      ← r.orDefault "collapse_markup_spaces" Data.bool? usual.collapseMarkupSpaces
    reorderImportItems := ← r.orDefault "reorder_import_items" Data.bool? usual.reorderImportItems
    wrapText := ← r.orDefault "wrap_text" Data.bool? usual.wrapText }

def Config.ofData? (d : Data) : Option Config := do
  let r ← d.record? ["theme", "themes", "languages", "engine_options", "format"]
  return {
    theme := ← r.orDefault "theme" Data.string? defaultThemeId
    themes := ← r.orDefault "themes" (·.list? ThemeEntry.ofData?) []
    languages := ← r.orDefault "languages" (·.list? LanguageEntry.ofData?) []
    engineOptions := ← r.optional "engine_options" Data.string?
    format := ← r.orDefault "format" FormatConfig.ofData? {} }

/-! ### Encoding -/

def ThemeEntry.toData (e : ThemeEntry) : Data :=
  .fields [("name", .string e.name), ("url", .string e.url)]

def LanguageEntry.toData (e : LanguageEntry) : Data :=
  .fields ([("id", .string e.id), ("scope_name", .string e.scopeName),
    ("grammar", .string e.grammar)] ++ Data.fieldOf "configuration" .string e.configuration
      ++ [("extensions", .strings e.extensions)])

def FormatConfig.toData (c : FormatConfig) : Data :=
  .fields [("max_width", .int c.maxWidth), ("tab_spaces", .int c.tabSpaces),
    ("blank_lines_upper_bound", .int c.blankLinesUpperBound),
    ("collapse_markup_spaces", .bool c.collapseMarkupSpaces),
    ("reorder_import_items", .bool c.reorderImportItems), ("wrap_text", .bool c.wrapText)]

def Config.toData (c : Config) : Data :=
  .fields ([("theme", .string c.theme), ("themes", .array (c.themes.map ThemeEntry.toData)),
    ("languages", .array (c.languages.map LanguageEntry.toData))]
      ++ Data.fieldOf "engine_options" .string c.engineOptions ++ [("format", c.format.toData)])

/-! ### The file -/

namespace Config

/-- The configuration that a YAML text gives. -/
def ofYaml? (text : String) : Option Config :=
  (Data.Yaml.read? text.toList).bind ofData?

/-- The configuration of a file. -/
def load (files : FileTree) (path : String) : Config :=
  match files.read path with
  | .ok text => (ofYaml? text).getD {}
  | .error _ => {}

/-- Why a configuration is not kept. -/
inductive SaveError where
  | noDirectory
  | directory (cause : FileError)
  | file (path : String) (cause : FileError)
  deriving DecidableEq, Repr

/-- The text that is shown when a configuration is not kept. -/
def SaveError.message : SaveError → String
  | noDirectory => "No config directory available"
  | directory cause => s!"Failed to create config directory: {cause.message}"
  | file path cause => s!"Failed to write config to {path}: {cause.message}"

/-- The files with the configuration written to a path. The directories that lead to it are made
first, and stay even if the file cannot be written. -/
def save (c : Config) (files : FileTree) (path : String) : FileTree × Except SaveError Unit :=
  match files.makeParent path with
  | .error e => (files, .error (.directory e))
  | .ok files => match files.write path (Data.Yaml.write c.toData) with
    | .error e => (files, .error (.file path e))
    | .ok files => (files, .ok ())

/-! ### Where things are kept -/

/-- The directory that holds the configuration of this program, in the one for all programs. -/
def directory (home : String) : String := Path.join home "tmbridge"

/-- The directory with themes that the user added. -/
def themesDirectory (home : String) : String := Path.join (directory home) "themes"

/-- The file that holds the configuration. -/
def file (home : String) : String := Path.join (directory home) "config.yaml"

/-- The directory with the logs. -/
def logsDirectory (home : String) : String := Path.join (directory home) "logs"

/-! ### Themes -/

/-- The built-in themes and after them the ones that were added. -/
def themeEntries (c : Config) : List ThemeEntry :=
  builtinThemes.map (fun t => ⟨t.id, builtinScheme ++ t.id⟩) ++ c.themes

end Config

end Tincture
