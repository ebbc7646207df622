import Tincture.Data.Json
import Tincture.Theme.Base
import Tincture.Theme.Builtin
import Tincture.Theme.Trie

/-!
# Themes

A theme file names a base theme, rules for scopes and colours for the editor. The rules in force are
those of the base theme, if they are inherited, then a rule for the empty scope with the colours of
the editor, then the rules of the file; a `Theme` keeps them together with their tree.
-/

namespace Tincture

/-- Why there is no theme. -/
inductive ThemeError where
  | fetch (name : String) (message : String)
  | parse (name : String)
  | invalidColor (text : String)
  | unknown (id : String)
  deriving DecidableEq, Repr

/-- What is said of a theme error; the cause of a file that cannot be read is not told. -/
def ThemeError.message : ThemeError → String
  | fetch name message => s!"failed to fetch theme {name}: {message}"
  | parse name => s!"failed to parse theme {name}"
  | invalidColor text => s!"invalid color: {text}"
  | unknown id => s!"unknown theme id: {id}"

/-- The colour of a text, or an error that shows the text. -/
def Color.ofHex (text : String) : Except ThemeError Color :=
  match Color.ofHex? text.toList with
  | some c => .ok c
  | none => .error (.invalidColor text)

/-- A rule as a theme file writes it. -/
structure ThemeRuleData where
  token : String
  foreground : Option String
  background : Option String
  fontStyle : Option String
  deriving DecidableEq, Repr

/-- The content of a theme file. -/
structure ThemeData where
  name : Option String
  base : BaseTheme
  inherit : Bool
  rules : List ThemeRuleData
  colors : List (String × String)

namespace ThemeData

/-- A base theme, by its name alone or as the one key of an object. -/
def base? : Data → Option BaseTheme
  | .string s => BaseTheme.ofId? s
  | .object [(some s, .null)] => BaseTheme.ofId? s
  | _ => none

def rule? (d : Data) : Option ThemeRuleData := do
  let r ← d.record? ["token", "foreground", "background", "fontStyle"]
  return {
    token := ← r.required "token" Data.string?
    foreground := ← r.optional "foreground" Data.string?
    background := ← r.optional "background" Data.string?
    fontStyle := ← r.optional "fontStyle" Data.string? }

def bare? (d : Data) : Option ThemeData := do
  let r ← d.record? ["name", "base", "inherit", "rules", "colors"]
  return {
    name := ← r.optional "name" Data.string?
    base := ← r.required "base" base?
    inherit := ← r.orDefault "inherit" Data.bool? true
    rules := ← r.orDefault "rules" (Data.list? rule?) []
    colors := ← r.orDefault "colors"
      (fun d => d.entries?.bind (·.mapM fun (k, v) => v.string?.map fun v => (k, v))) [] }

/-- The data under the key `data` of an object. -/
def wrapped? : Data → Option ThemeData
  | .object entries =>
    match entries.filter fun (k, _) => k == some "data" with
    | [(_, d)] => bare? d
    | _ => none
  | _ => none

/-- The data of a theme file, which may be wrapped. Every value in the file counts, also one in a
field that is not known. -/
def ofJson? (json : String) : Option ThemeData := do
  let d ← Data.Json.read? json.toList
  if !d.wellFormed || Data.Json.maxDepth < d.depth then none
  (wrapped? d).or (bare? d)

/-- The data of a theme file that is known by a name. -/
def ofJson (name json : String) : Except ThemeError ThemeData :=
  match ofJson? json with
  | some data => .ok data
  | none => .error (.parse name)

end ThemeData

/-- A theme that is ready for use. -/
structure Theme where
  name : String
  base : BaseTheme
  /-- The rules in force, in the order in which they are applied. -/
  rules : List StyleRule
  /-- The colours of the editor, as the theme writes them. -/
  colors : List (String × String)
  trie : StyleTrie
  trie_eq : trie = StyleTrie.ofRules rules

namespace Theme

/-- A colour that may be missing; one that is no colour counts as missing. -/
def lenientColor (text : Option String) : Option Color :=
  text.bind fun s => Color.ofHex? s.toList

/-- The rule that a theme file writes. -/
def ruleOfData (d : ThemeRuleData) : StyleRule :=
  { scope := d.token
    foreground := lenientColor d.foreground
    background := lenientColor d.background
    font := d.fontStyle.map fun s => FontStyle.ofWords s.toList }

/-- The rule for all text that the colours of the editor give. -/
def editorRule (colors : List (String × String)) : List StyleRule :=
  let fg := colors.lookup "editor.foreground"
  let bg := colors.lookup "editor.background"
  if fg.isSome || bg.isSome then
    [{ scope := "", foreground := lenientColor fg, background := lenientColor bg }]
  else []

/-- A theme from its rules. -/
def ofRules (name : String) (base : BaseTheme) (rules : List StyleRule)
    (colors : List (String × String)) : Theme :=
  { name, base, rules, colors, trie := StyleTrie.ofRules rules, trie_eq := rfl }

/-- The theme of a file's data; the name in the file goes before the one it is known by. -/
def ofData (name : String) (data : ThemeData) : Theme :=
  ofRules (data.name.getD name) data.base
    ((if data.inherit then data.base.rules else []) ++ editorRule data.colors
      ++ data.rules.map ruleOfData)
    data.colors

/-- The theme of a theme file. -/
def ofJson (name json : String) : Except ThemeError Theme :=
  (ThemeData.ofJson name json).map (ofData name)

/-- A built-in theme. -/
def builtin (id : String) : Except ThemeError Theme :=
  match builtinThemes.find? (·.id = id) with
  | some t => ofJson id t.json
  | none => .error (.unknown id)

/-- The theme that is always at hand. -/
def defaultDark : Theme :=
  match builtin defaultThemeId with
  | .ok t => t
  | .error _ => ofRules defaultThemeId .vsDark BaseTheme.vsDark.rules []

/-- The style of one scope. -/
def style (t : Theme) (scope : String) : Style :=
  t.trie.lookup scope

/-- The style of text that no rule is about. -/
def defaultStyle (t : Theme) : Style :=
  t.trie.style

end Theme

end Tincture
