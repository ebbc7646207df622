import Tincture.Data.Json
import Tincture.Data.Yaml.Node
import Tincture.Files.Path
import Tincture.Text.Blank

/-!
# Grammars as they are written

A grammar file lists rules: a rule matches a pattern, spans a region from one pattern to another, or
groups other rules, which it holds itself, includes by name, or keeps in a repository. `GrammarSpec`
is what such a file says, before its rules are numbered and its patterns compiled. It is read from
JSON or YAML, and written as a document value with every field in its place.
-/

namespace Tincture

open Text

/-- A switch, written as a truth value or as a number other than zero. -/
inductive Flag where
  | bool (b : Bool)
  | int (n : Int)
  deriving DecidableEq, Repr

/-- Whether a switch is on. -/
def Flag.isSet : Flag → Bool
  | bool b => b
  | int n => n != 0

/-- What a captured group is called. -/
structure CaptureSpec where
  name : Option String
  deriving DecidableEq, Repr

/-- The names of captured groups, by the text of the group's number, in the order of that text. -/
abbrev CaptureSpecs := List (String × CaptureSpec)

/-- A rule as it is written. -/
structure RuleSpec where
  includeTarget : Option String := none
  name : Option String := none
  contentName : Option String := none
  matchPattern : Option String := none
  beginPattern : Option String := none
  endPattern : Option String := none
  whilePattern : Option String := none
  captures : Option CaptureSpecs := none
  beginCaptures : Option CaptureSpecs := none
  endCaptures : Option CaptureSpecs := none
  whileCaptures : Option CaptureSpecs := none
  patterns : Option (List RuleSpec) := none
  repository : Option (List (String × RuleSpec)) := none
  applyEndPatternLast : Option Flag := none

/-- A grammar as it is written. -/
structure GrammarSpec where
  scopeName : String
  name : Option String := none
  fileTypes : List String := []
  patterns : List RuleSpec := []
  repository : List (String × RuleSpec) := []

/-! ### Decoding -/

/-- A switch; a number has to fit into 64 bits. -/
def Flag.ofData? (d : Data) : Option Flag :=
  (d.bool?.map bool).or ((d.intIn? (-Int.pow 2 63) (Int.pow 2 63 - 1)).map int)

/-- A decoder that opens one more level of nesting. -/
def nested {α : Type} (decode : Nat → Data → Option α) : Nat → Data → Option α
  | 0, _ => none
  | depth + 1, d => decode depth d

namespace CaptureSpec

def ofData? (d : Data) : Option CaptureSpec := do
  let r ← d.record? ["name"]
  return ⟨← r.optional "name" Data.string?⟩

/-- The captures of a rule, at most `depth` levels deep. -/
def all? : (depth : Nat) → Data → Option CaptureSpecs :=
  nested fun depth d => do
    let entries ← d.entries?
    let captures ← entries.mapM fun (k, v) =>
      (nested (fun _ => ofData?) depth v).map fun c => (k, c)
    return captures.mergeSort fun a b => !(b.1 < a.1)

end CaptureSpec

namespace RuleSpec

/-- The fields of a rule, in their order. -/
def fieldNames : List String :=
  ["include", "name", "contentName", "match", "begin", "end", "while", "captures",
    "beginCaptures", "endCaptures", "whileCaptures", "patterns", "repository",
    "applyEndPatternLast"]

/-- A rule that is nested at most `depth` levels deep. -/
def ofData? : Nat → Data → Option RuleSpec
  | 0, _ => none
  | depth + 1, d => do
    let r ← d.record? fieldNames
    let rules (d : Data) : Option (List RuleSpec) := match depth with
      | 0 => none
      | n + 1 => d.list? (ofData? n)
    let named (d : Data) : Option (List (String × RuleSpec)) := match depth with
      | 0 => none
      | n + 1 => d.entries?.bind (·.mapM fun (k, v) => (ofData? n v).map fun rule => (k, rule))
    return {
      includeTarget := ← r.optional "include" Data.string?
      name := ← r.optional "name" Data.string?
      contentName := ← r.optional "contentName" Data.string?
      matchPattern := ← r.optional "match" Data.string?
      beginPattern := ← r.optional "begin" Data.string?
      endPattern := ← r.optional "end" Data.string?
      whilePattern := ← r.optional "while" Data.string?
      captures := ← r.optional "captures" (CaptureSpec.all? depth)
      beginCaptures := ← r.optional "beginCaptures" (CaptureSpec.all? depth)
      endCaptures := ← r.optional "endCaptures" (CaptureSpec.all? depth)
      whileCaptures := ← r.optional "whileCaptures" (CaptureSpec.all? depth)
      patterns := ← r.optional "patterns" rules
      repository := ← r.optional "repository" named
      applyEndPatternLast := ← r.optional "applyEndPatternLast" Flag.ofData? }

end RuleSpec

namespace GrammarSpec

/-- A grammar that is nested at most `depth` levels deep. -/
def ofData? : Nat → Data → Option GrammarSpec
  | 0, _ => none
  | depth + 1, d => do
    let r ← d.record? ["scopeName", "name", "fileTypes", "patterns", "repository"]
    let inside {α : Type} (decode : Nat → Data → Option α) (d : Data) : Option α :=
      nested decode depth d
    return {
      scopeName := ← r.required "scopeName" Data.string?
      name := ← r.optional "name" Data.string?
      fileTypes := ← r.orDefault "fileTypes" (inside fun _ d => d.list? Data.string?) []
      patterns := ← r.orDefault "patterns" (inside fun n d => d.list? (RuleSpec.ofData? n)) []
      repository := ← r.orDefault "repository" (inside fun n d =>
        d.entries?.bind (·.mapM fun (k, v) =>
          (RuleSpec.ofData? n v).map fun rule => (k, rule))) [] }

end GrammarSpec

/-! ### Encoding -/

/-- An optional value, absent as `null`. -/
def Data.orNull {α : Type} (encode : α → Data) : Option α → Data
  | some a => encode a
  | none => null

def Flag.toData : Flag → Data
  | bool b => .bool b
  | int n => .int n

def CaptureSpec.toData (c : CaptureSpec) : Data :=
  .fields [("name", .stringOrNull c.name)]

def CaptureSpec.allToData (cs : CaptureSpecs) : Data :=
  .fields (cs.map fun (k, c) => (k, c.toData))

mutual

/-- A rule with all its fields. -/
def RuleSpec.toData : RuleSpec → Data
  | ⟨includeTarget, name, contentName, matchPattern, beginPattern, endPattern, whilePattern,
      captures, beginCaptures, endCaptures, whileCaptures, patterns, repository, flag⟩ =>
    .fields [("include", .stringOrNull includeTarget), ("name", .stringOrNull name),
      ("contentName", .stringOrNull contentName), ("match", .stringOrNull matchPattern),
      ("begin", .stringOrNull beginPattern), ("end", .stringOrNull endPattern),
      ("while", .stringOrNull whilePattern),
      ("captures", .orNull CaptureSpec.allToData captures),
      ("beginCaptures", .orNull CaptureSpec.allToData beginCaptures),
      ("endCaptures", .orNull CaptureSpec.allToData endCaptures),
      ("whileCaptures", .orNull CaptureSpec.allToData whileCaptures),
      ("patterns", match patterns with
        | some rules => .array (RuleSpec.listToData rules)
        | none => .null),
      ("repository", match repository with
        | some rules => .object (RuleSpec.entriesToData rules)
        | none => .null),
      ("applyEndPatternLast", .orNull Flag.toData flag)]

def RuleSpec.listToData : List RuleSpec → List Data
  | [] => []
  | r :: rest => r.toData :: RuleSpec.listToData rest

def RuleSpec.entriesToData : List (String × RuleSpec) → List (Option String × Data)
  | [] => []
  | (k, r) :: rest => (some k, r.toData) :: RuleSpec.entriesToData rest

end

/-- A grammar with all its fields. -/
def GrammarSpec.toData (g : GrammarSpec) : Data :=
  .fields [("scopeName", .string g.scopeName), ("name", .stringOrNull g.name),
    ("fileTypes", .strings g.fileTypes), ("patterns", .array (RuleSpec.listToData g.patterns)),
    ("repository", .object (RuleSpec.entriesToData g.repository))]

/-! ### Reading a file -/

/-- The format of a grammar file. -/
inductive GrammarFormat where
  | json
  | yaml
  deriving DecidableEq, Repr

/-- The format that the extension of a path declares; without one that does, a text that starts with
a brace is JSON. -/
def GrammarFormat.detect (path : String) (text : List Char) : GrammarFormat :=
  let byContent := if (trimStart text).head? = some '\x7b' then json else yaml
  match (Path.extension? path).map (String.ofList <| Text.lower ·) with
  | some "json" => json
  | some "yaml" | some "yml" => yaml
  | _ => byContent

/-- Why a text is no grammar. -/
inductive GrammarReadError where
  | malformed
  | noScopeName
  deriving DecidableEq, Repr

/-- The grammar that a text declared under a path says; it has to have a scope name. -/
def GrammarSpec.read (path : String) (text : List Char) : Except GrammarReadError GrammarSpec :=
  let spec := match GrammarFormat.detect path text with
    | .json => (Data.Json.read? text).bind (GrammarSpec.ofData? Data.Json.maxDepth)
    | .yaml => (Data.Yaml.read? text).bind (GrammarSpec.ofData? Data.Yaml.maxDepth)
  match spec with
  | none => .error .malformed
  | some g => if (trim g.scopeName.toList).isEmpty then .error .noScopeName else .ok g

end Tincture
