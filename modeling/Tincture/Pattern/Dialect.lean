/-!
# The grammar dialect of patterns

Grammars write patterns in a dialect with a few escapes of its own. `expand` spells them out and
tells whether the pattern may only match where the search starts, which is written `\G`. A line
start never matches at the very end of the text, so that it cannot hold after the line break that
ends a line.

The expansion goes through the text once and only has to know how many brackets are open
(`expandFrom`).
-/

namespace Tincture.Pattern.Dialect

/-- A text with its escapes spelt out, and whether it held the mark of an anchored pattern. -/
structure Expansion where
  text : List Char
  anchored : Bool
  deriving DecidableEq

namespace Expansion

/-- Text put before an expansion. -/
def after (text : String) (t : Expansion) : Expansion :=
  { t with text := text.toList ++ t.text }

/-- Two expansions one after the other. -/
def append (t u : Expansion) : Expansion :=
  ⟨t.text ++ u.text, t.anchored || u.anchored⟩

end Expansion

/-- The escape of one character, with `depth` brackets open. -/
def escape (depth : Nat) (c : Char) : Expansion :=
  if c = 'G' ∧ depth = 0 then ⟨[], true⟩
  else if c = 'h' then ⟨"[0-9a-fA-F]".toList, false⟩
  else if c = 'H' then ⟨"[^0-9a-fA-F]".toList, false⟩
  else if c = 'Z' ∧ depth = 0 then ⟨"(?=\\n?\\z)".toList, false⟩
  else ⟨['\\', c], false⟩

/-- The expansion of the rest of a pattern, inside `depth` brackets. After an opening bracket, a
`^` and then a closing bracket belong to it. -/
def expandFrom : Nat → List Char → Expansion
  | _, [] => ⟨[], false⟩
  | depth, '\\' :: c :: rest => (escape depth c).append (expandFrom depth rest)
  | depth, '[' :: '^' :: ']' :: rest => (expandFrom (depth + 1) rest).after "[^]"
  | depth, '[' :: '^' :: rest => (expandFrom (depth + 1) rest).after "[^"
  | depth, '[' :: ']' :: rest => (expandFrom (depth + 1) rest).after "[]"
  | depth, '[' :: rest => (expandFrom (depth + 1) rest).after "["
  | depth, c :: rest =>
    if c = ']' then (expandFrom (depth - 1) rest).after "]"
    else if c = '^' ∧ depth = 0 then (expandFrom depth rest).after "(?:^(?!\\z))"
    else
      let t := expandFrom depth rest
      { t with text := c :: t.text }

/-- The expansion of a pattern. -/
def expand (source : List Char) : Expansion :=
  expandFrom 0 source

end Tincture.Pattern.Dialect
