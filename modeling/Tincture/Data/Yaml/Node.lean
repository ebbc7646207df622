import Tincture.Data.Basic
import Tincture.Data.Yaml.Token

/-!
# Reading YAML

The value of a document is read from its tokens. A scalar without quotes is kept as its text, since
what it stands for depends on its place; a value that is left out is an empty one. A text holds at
most one document, and an empty text holds an empty value.
-/

namespace Tincture.Data.Yaml

/-- The values of anchors, the latest first. -/
abbrev Anchors := List (List Char × Data)

/-- What is left to read. -/
structure Reading where
  tokens : List Token
  anchors : Anchors := []

abbrev Reader := StateT Reading Option

namespace Reader

def peek : Reader (Option Token) := return (← get).tokens.head?

def skip : Reader Unit := modify fun s => { s with tokens := s.tokens.drop 1 }

/-- The text of a key; a collection has none. -/
def keyText : Data → Option String
  | .plain s | .string s => some s
  | _ => none

/-- A value that was left out. -/
def empty : Data := .plain ""

/-- The anchors and tags before a value; gives the last anchor and whether there were any. -/
def properties : Nat → Option (List Char) → Bool → Reader (Option (List Char) × Bool)
  | 0, _, _ => failure
  | fuel + 1, anchor, found => do
    match ← peek with
    | some (.anchor name) =>
      if anchor.isSome then failure
      skip
      properties fuel (some name) true
    | some .tag =>
      skip
      properties fuel anchor true
    | _ => return (anchor, found)

mutual

/-- The next value. In a block context block collections may start; where `bare` is set, a sequence
may also stand at the indentation of the mapping around it. -/
def node : Nat → (block bare : Bool) → Reader Data
  | 0, _, _ => failure
  | fuel + 1, block, bare => do
    match ← peek with
    | some (.alias name) =>
      skip
      match (← get).anchors.lookup name with
      | some d => return d
      | none => failure
    | _ =>
      let (anchor, found) ← properties 3 none false
      let d ← match ← peek with
        | some (.scalar style text) =>
          skip
          pure (match style with
            | .plain => .plain (String.ofList text)
            | .quoted => .string (String.ofList text))
        | some .flowSequenceStart =>
          skip
          pure (.sequence (← flowItems fuel true))
        | some .flowMappingStart =>
          skip
          pure (.object (← flowEntries fuel true))
        | some .blockEntry =>
          if bare then pure (.sequence (← bareItems fuel))
          else if found then pure empty
          else failure
        | some .blockSequenceStart =>
          if !block then failure
          skip
          pure (.sequence (← blockItems fuel))
        | some .blockMappingStart =>
          if !block then failure
          skip
          pure (.object (← blockEntries fuel))
        | _ => if found then pure empty else failure
      match anchor with
      | some name => modify fun s => { s with anchors := (name, d) :: s.anchors }
      | none => pure ()
      return d

/-- The items of a block sequence, up to its end. -/
def blockItems : Nat → Reader (List Data)
  | 0 => failure
  | fuel + 1 => do
    match ← peek with
    | some .blockEntry =>
      skip
      let d ← match ← peek with
        | some .blockEntry | some .blockEnd => pure empty
        | _ => node fuel true false
      return d :: (← blockItems fuel)
    | some .blockEnd =>
      skip
      return []
    | _ => failure

/-- The items of a sequence at the indentation of the mapping around it. -/
def bareItems : Nat → Reader (List Data)
  | 0 => failure
  | fuel + 1 => do
    match ← peek with
    | some .blockEntry =>
      skip
      let d ← match ← peek with
        | some .blockEntry | some .key | some .value | some .blockEnd => pure empty
        | _ => node fuel true false
      return d :: (← bareItems fuel)
    | _ => return []

/-- The entries of a block mapping, up to its end. -/
def blockEntries : Nat → Reader (List (Option String × Data))
  | 0 => failure
  | fuel + 1 => do
    match ← peek with
    | some .blockEnd =>
      skip
      return []
    | some .key | some .value =>
      let part (mark : Token → Bool) : Reader Data := do
        if (← peek).any mark then
          skip
          match ← peek with
          | some .key | some .value | some .blockEnd => pure empty
          | _ => node fuel true true
        else pure empty
      let k ← part (· matches .key)
      let v ← part (· matches .value)
      return (keyText k, v) :: (← blockEntries fuel)
    | _ => failure

/-- The items of a flow sequence, up to its end; a pair of key and value is a mapping. -/
def flowItems : Nat → (first : Bool) → Reader (List Data)
  | 0, _ => failure
  | fuel + 1, first => do
    match ← peek with
    | some .flowSequenceEnd =>
      skip
      return []
    | t =>
      if !first then
        if !(t matches some .flowEntry) then failure
        skip
      match ← peek with
      | some .flowSequenceEnd =>
        skip
        return []
      | some .key =>
        skip
        let k ← match ← peek with
          | some .value | some .flowEntry | some .flowSequenceEnd => pure empty
          | _ => node fuel false false
        let v ← flowValue fuel (· matches .flowEntry | .flowSequenceEnd)
        return .object [(keyText k, v)] :: (← flowItems fuel false)
      | _ =>
        let d ← node fuel false false
        return d :: (← flowItems fuel false)

/-- The value after a colon in a flow collection, empty if it or the colon is left out. -/
def flowValue : Nat → (Token → Bool) → Reader Data
  | 0, _ => failure
  | fuel + 1, ends => do
    if (← peek).any (· matches .value) then
      skip
      if (← peek).any ends then return empty
      node fuel false false
    else return empty

/-- The entries of a flow mapping, up to its end. -/
def flowEntries : Nat → (first : Bool) → Reader (List (Option String × Data))
  | 0, _ => failure
  | fuel + 1, first => do
    match ← peek with
    | some .flowMappingEnd =>
      skip
      return []
    | t =>
      if !first then
        if !(t matches some .flowEntry) then failure
        skip
      match ← peek with
      | some .flowMappingEnd =>
        skip
        return []
      | some .key =>
        skip
        let k ← match ← peek with
          | some .value | some .flowEntry | some .flowMappingEnd => pure empty
          | _ => node fuel false false
        let v ← flowValue fuel (· matches .flowEntry | .flowMappingEnd)
        return (keyText k, v) :: (← flowEntries fuel false)
      | _ =>
        let k ← node fuel false false
        return (keyText k, empty) :: (← flowEntries fuel false)

end

/-- Skips the directives before a document, which has to be marked if there are any. -/
def documentHead : Nat → (found : Bool) → Reader Unit
  | 0, _ => failure
  | fuel + 1, found => do
    match ← peek with
    | some .directive =>
      skip
      documentHead fuel true
    | some .documentStart => skip
    | _ => if found then failure

def skipDocumentEnds : Nat → Reader Unit
  | 0 => failure
  | fuel + 1 => do
    match ← peek with
    | some .documentEnd =>
      skip
      skipDocumentEnds fuel
    | _ => return

/-- The one document of a text. -/
def document (fuel : Nat) : Reader Data := do
  skipDocumentEnds fuel
  documentHead fuel false
  let d ← match ← peek with
    | none | some .documentStart | some .documentEnd | some .directive => pure empty
    | _ => node fuel true false
  skipDocumentEnds fuel
  if (← peek).isSome then failure
  return d

end Reader

/-- The value that a text stands for. -/
def read? (text : List Char) : Option Data := do
  let tokens ← tokens? text
  let (d, _) ← (Reader.document (4 * tokens.size + 8)).run { tokens := tokens.toList }
  return d

/-- How deep a document may be nested. -/
def maxDepth : Nat := 128

end Tincture.Data.Yaml
