/-!
# Built-in themes

The theme files that are always at hand, by the name under which they are asked for.
-/

namespace Tincture

/-- A theme file that is always at hand. -/
structure BuiltinTheme where
  id : String
  json : String

/-- The dark theme. -/
def playDarkJson : String := r##"{
  "name": "Play Dark",
  "base": "vs-dark",
  "inherit": true,
  "rules": [
    { "token": "comment", "foreground": "6A9955", "fontStyle": "italic" },
    { "token": "punctuation.definition.comment", "foreground": "6A9955" },
    { "token": "string", "foreground": "CE9178" },
    { "token": "constant.character.escape", "foreground": "D7BA7D" },
    { "token": "constant.numeric", "foreground": "B5CEA8" },
    { "token": "constant.language", "foreground": "569CD6" },
    { "token": "keyword", "foreground": "C586C0" },
    { "token": "keyword.operator", "foreground": "D4D4D4" },
    { "token": "storage.type", "foreground": "569CD6" },
    { "token": "entity.name.function", "foreground": "DCDCAA" },
    { "token": "entity.name.type", "foreground": "4EC9B0" },
    { "token": "entity.other.label", "foreground": "4FC1FF" },
    { "token": "variable", "foreground": "9CDCFE" },
    { "token": "variable.parameter", "foreground": "9CDCFE", "fontStyle": "italic" },
    { "token": "meta.function.parameters", "foreground": "9CDCFE" },
    { "token": "markup.heading", "foreground": "569CD6", "fontStyle": "bold" },
    { "token": "markup.bold", "foreground": "D4D4D4", "fontStyle": "bold" },
    { "token": "markup.italic", "foreground": "D4D4D4", "fontStyle": "italic" },
    { "token": "markup.raw", "foreground": "CE9178" },
    { "token": "markup.underline.link", "foreground": "3794FF", "fontStyle": "underline" },
    { "token": "markup.list", "foreground": "6796E6" },
    { "token": "markup.other.reference", "foreground": "4FC1FF" },
    { "token": "string.other.math", "foreground": "4EC9B0" },
    { "token": "punctuation.definition.math", "foreground": "D7BA7D" },
    { "token": "invalid", "foreground": "F44747" }
  ],
  "colors": {
    "editor.foreground": "#D4D4D4",
    "editor.background": "#1E1E1E",
    "editor.lineHighlightBackground": "#2A2A2A",
    "editorCursor.foreground": "#AEAFAD",
    "editor.selectionBackground": "#264F78"
  }
}
"##

/-- The light theme. -/
def playLightJson : String := r##"{
  "name": "Play Light",
  "base": "vs",
  "inherit": true,
  "rules": [
    { "token": "comment", "foreground": "A0A1A7", "fontStyle": "italic" },
    { "token": "punctuation.definition.comment", "foreground": "A0A1A7" },
    { "token": "string", "foreground": "50A14F" },
    { "token": "constant.character.escape", "foreground": "0184BC" },
    { "token": "constant.numeric", "foreground": "986801" },
    { "token": "constant.language", "foreground": "0184BC" },
    { "token": "keyword", "foreground": "A626A4" },
    { "token": "keyword.operator", "foreground": "383A42" },
    { "token": "storage.type", "foreground": "A626A4" },
    { "token": "entity.name.function", "foreground": "4078F2" },
    { "token": "entity.name.type", "foreground": "C18401" },
    { "token": "entity.other.label", "foreground": "E45649" },
    { "token": "variable", "foreground": "E45649" },
    { "token": "variable.parameter", "foreground": "383A42", "fontStyle": "italic" },
    { "token": "meta.function.parameters", "foreground": "383A42" },
    { "token": "markup.heading", "foreground": "E45649", "fontStyle": "bold" },
    { "token": "markup.bold", "foreground": "986801", "fontStyle": "bold" },
    { "token": "markup.italic", "foreground": "A626A4", "fontStyle": "italic" },
    { "token": "markup.raw", "foreground": "50A14F" },
    { "token": "markup.underline.link", "foreground": "4078F2", "fontStyle": "underline" },
    { "token": "markup.list", "foreground": "E45649" },
    { "token": "markup.other.reference", "foreground": "0184BC" },
    { "token": "string.other.math", "foreground": "0184BC" },
    { "token": "punctuation.definition.math", "foreground": "986801" },
    { "token": "invalid", "foreground": "CA1243" }
  ],
  "colors": {
    "editor.foreground": "#383A42",
    "editor.background": "#FAFAFA",
    "editor.lineHighlightBackground": "#F0F0F1",
    "editorCursor.foreground": "#526FFF",
    "editor.selectionBackground": "#E5E5E6"
  }
}
"##

/-- All built-in themes. -/
def builtinThemes : List BuiltinTheme :=
  [⟨"play-dark", playDarkJson⟩, ⟨"play-light", playLightJson⟩]

/-- The theme that is used when no other one is asked for or can be loaded. -/
def defaultThemeId : String := "play-dark"

end Tincture
