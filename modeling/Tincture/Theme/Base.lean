import Tincture.Theme.Style

/-!
# Base themes

The themes that others build on: their names and their rules.
-/

namespace Tincture

/-- A theme to build on. -/
inductive BaseTheme where
  | vs
  | vsDark
  | hcBlack
  | hcLight
  deriving DecidableEq, Repr

namespace BaseTheme

/-- All base themes. -/
def all : List BaseTheme :=
  [vs, vsDark, hcBlack, hcLight]

/-- The name by which a theme file asks for a base theme. -/
def id : BaseTheme → String
  | vs => "vs"
  | vsDark => "vs-dark"
  | hcBlack => "hc-black"
  | hcLight => "hc-light"

/-- The base theme of a name. -/
def ofId? (name : String) : Option BaseTheme :=
  all.find? (·.id = name)

/-- Whether light text stands on a dark ground. -/
def isDark : BaseTheme → Bool
  | vsDark | hcBlack => true
  | vs | hcLight => false

/-- A rule from its scope, its two colours and its font style; what is empty is not set. -/
def rule (scope foreground background font : String) : StyleRule :=
  { scope
    foreground := Color.ofHex? foreground.toList
    background := Color.ofHex? background.toList
    font := if font = "" then none else some (FontStyle.ofWords font.toList) }

/-- The rules of the light base theme. -/
def vsRules : List StyleRule := [
  rule "" "000000" "fffffe" "",
  rule "invalid" "cd3131" "" "",
  rule "emphasis" "" "" "italic",
  rule "strong" "" "" "bold",
  rule "variable" "001188" "" "",
  rule "variable.predefined" "4864AA" "" "",
  rule "constant" "dd0000" "" "",
  rule "comment" "008000" "" "",
  rule "number" "098658" "" "",
  rule "number.hex" "3030c0" "" "",
  rule "regexp" "800000" "" "",
  rule "annotation" "808080" "" "",
  rule "type" "008080" "" "",
  rule "delimiter" "000000" "" "",
  rule "tag" "800000" "" "",
  rule "metatag" "e00000" "" "",
  rule "key" "863B00" "" "",
  rule "string" "A31515" "" "",
  rule "keyword" "0000FF" "" "",
  rule "operator" "000000" "" ""]

/-- The rules of the dark base theme. -/
def vsDarkRules : List StyleRule := [
  rule "" "D4D4D4" "1E1E1E" "",
  rule "invalid" "f44747" "" "",
  rule "emphasis" "" "" "italic",
  rule "strong" "" "" "bold",
  rule "variable" "74B0DF" "" "",
  rule "variable.predefined" "4864AA" "" "",
  rule "variable.parameter" "9CDCFE" "" "",
  rule "constant" "569CD6" "" "",
  rule "comment" "608B4E" "" "",
  rule "number" "B5CEA8" "" "",
  rule "number.hex" "5BB498" "" "",
  rule "regexp" "B46695" "" "",
  rule "annotation" "cc6666" "" "",
  rule "type" "3DC9B0" "" "",
  rule "delimiter" "DCDCDC" "" "",
  rule "tag" "569CD6" "" "",
  rule "metatag" "DD6A6F" "" "",
  rule "key" "9CDCFE" "" "",
  rule "string" "CE9178" "" "",
  rule "keyword" "569CD6" "" "",
  rule "operator" "D4D4D4" "" ""]

/-- The rules of the high-contrast dark base theme. -/
def hcBlackRules : List StyleRule := [
  rule "" "FFFFFF" "000000" "",
  rule "invalid" "f44747" "" "",
  rule "emphasis" "" "" "italic",
  rule "strong" "" "" "bold",
  rule "variable" "1AEBFF" "" "",
  rule "constant" "569CD6" "" "",
  rule "comment" "608B4E" "" "",
  rule "number" "FFFFFF" "" "",
  rule "regexp" "C0C0C0" "" "",
  rule "type" "3DC9B0" "" "",
  rule "delimiter" "FFFF00" "" "",
  rule "tag" "569CD6" "" "",
  rule "key" "9CDCFE" "" "",
  rule "string" "CE9178" "" "",
  rule "keyword" "569CD6" "" "",
  rule "operator" "D4D4D4" "" ""]

/-- The rules of the high-contrast light base theme. -/
def hcLightRules : List StyleRule := [
  rule "" "292929" "FFFFFF" "",
  rule "invalid" "B5200D" "" "",
  rule "emphasis" "" "" "italic",
  rule "strong" "" "" "bold",
  rule "variable" "264F70" "" "",
  rule "constant" "7F0000" "" "",
  rule "comment" "515151" "" "",
  rule "number" "096D48" "" "",
  rule "regexp" "811F3F" "" "",
  rule "type" "0F4A85" "" "",
  rule "delimiter" "292929" "" "",
  rule "tag" "0F4A85" "" "",
  rule "key" "0F4A85" "" "",
  rule "string" "0F4A85" "" "",
  rule "keyword" "0F4A85" "" "",
  rule "operator" "292929" "" ""]

/-- The rules that a theme takes over from a base theme. -/
def rules : BaseTheme → List StyleRule
  | vs => vsRules
  | vsDark => vsDarkRules
  | hcBlack => hcBlackRules
  | hcLight => hcLightRules

end BaseTheme

end Tincture
