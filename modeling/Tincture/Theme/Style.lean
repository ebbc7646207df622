import Tincture.Theme.Color

/-!
# Styles

A `Style` says how a token looks: its two colours and its font style. A `StyleRule` gives some of
these attributes to a scope, and leaves the others as they are (`Style.apply`).
-/

namespace Tincture

open Text

/-- Slant, weight and lines of a font. -/
structure FontStyle where
  italic : Bool := false
  bold : Bool := false
  underline : Bool := false
  strikethrough : Bool := false
  deriving DecidableEq, Repr, Inhabited

namespace FontStyle

/-- A font style with what one word adds to it; other words add nothing. -/
def addWord (f : FontStyle) (word : List Char) : FontStyle :=
  if word = "italic".toList then { f with italic := true }
  else if word = "bold".toList then { f with bold := true }
  else if word = "underline".toList then { f with underline := true }
  else if word = "strikethrough".toList then { f with strikethrough := true }
  else f

/-- The font style that the words of a text name. -/
def ofWords (s : List Char) : FontStyle :=
  (words s).foldl addWord {}

/-- The font style as a number, one bit for each attribute. -/
def bits (f : FontStyle) : Nat :=
  f.italic.toNat + 2 * f.bold.toNat + 4 * f.underline.toNat + 8 * f.strikethrough.toNat

end FontStyle

/-- How a token looks. -/
structure Style where
  foreground : Color
  background : Color
  font : FontStyle
  deriving DecidableEq, Repr, Inhabited

/-- Black on white. -/
def Style.plain : Style :=
  ⟨⟨0, 0, 0, 255⟩, ⟨255, 255, 255, 255⟩, {}⟩

/-- The attributes that a theme gives to a scope. -/
structure StyleRule where
  scope : String
  foreground : Option Color := none
  background : Option Color := none
  font : Option FontStyle := none
  deriving DecidableEq, Repr

/-- A style with the attributes that a rule sets. -/
def Style.apply (s : Style) (r : StyleRule) : Style :=
  ⟨r.foreground.getD s.foreground, r.background.getD s.background, r.font.getD s.font⟩

end Tincture
