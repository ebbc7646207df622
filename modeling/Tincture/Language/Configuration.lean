import Tincture.Data.Json
import Tincture.Language.Builtin

/-!
# Language configurations

What an editor knows of a language besides its grammar: comments, brackets, the pairs that are
closed when they are opened, and what a word is. A pair is written as a list of two texts or as an
object; it keeps the form in which it was written. Absent and empty fields are left out.
-/

namespace Tincture

/-- How comments are written. -/
structure CommentRule where
  lineComment : Option String := none
  blockComment : Option (String × String) := none
  deriving DecidableEq, Repr

/-- A pair of an opening and a closing text. -/
inductive CharacterPair where
  | tuple (opening closing : String)
  /-- A pair that is not closed inside tokens of some kinds. -/
  | record (opening closing : String) (notIn : List String)
  deriving DecidableEq, Repr

namespace CharacterPair

/-- The text that opens a pair. -/
def opening : CharacterPair → String
  | tuple o _ | record o _ _ => o

/-- The text that closes a pair. -/
def closing : CharacterPair → String
  | tuple _ c | record _ c _ => c

/-- The kinds of tokens in which a pair is not closed. -/
def notIn : CharacterPair → List String
  | tuple .. => []
  | record _ _ kinds => kinds

end CharacterPair

/-- What an editor knows of a language. -/
structure LanguageConfiguration where
  comments : Option CommentRule := none
  brackets : List (String × String) := []
  autoClosingPairs : List CharacterPair := []
  surroundingPairs : List CharacterPair := []
  wordPattern : Option String := none
  deriving DecidableEq, Repr

/-- The text that closes what a text opened. -/
def LanguageConfiguration.closingFor? (c : LanguageConfiguration) (opening : String) :
    Option String :=
  (c.autoClosingPairs.find? fun p => p.opening == opening).map CharacterPair.closing

/-! ### Decoding -/

/-- The form of a pair is known only when all of it was read, so that nothing in it may be malformed
or nested too deep. -/
def CharacterPair.ofData? (d : Data) : Option CharacterPair :=
  if !d.wellFormed || Data.Json.maxDepth - 2 < d.depth then none
  else match d with
    | .array _ => d.pair?.map fun (o, c) => tuple o c
    | .object _ => do
      let r ← d.record? ["open", "close", "notIn"]
      return record (← r.required "open" Data.string?) (← r.required "close" Data.string?)
        (← r.orDefault "notIn" (·.list? Data.string?) [])
    | _ => none

def CommentRule.ofData? (d : Data) : Option CommentRule := do
  let r ← d.record? ["lineComment", "blockComment"]
  return {
    lineComment := ← r.optional "lineComment" Data.string?
    blockComment := ← r.optional "blockComment" Data.pair? }

namespace LanguageConfiguration

def ofData? (d : Data) : Option LanguageConfiguration := do
  let r ← d.record? ["comments", "brackets", "autoClosingPairs", "surroundingPairs", "wordPattern"]
  return {
    comments := ← r.optional "comments" CommentRule.ofData?
    brackets := ← r.orDefault "brackets" (·.list? Data.pair?) []
    autoClosingPairs := ← r.orDefault "autoClosingPairs" (·.list? CharacterPair.ofData?) []
    surroundingPairs := ← r.orDefault "surroundingPairs" (·.list? CharacterPair.ofData?) []
    wordPattern := ← r.optional "wordPattern" Data.string? }

/-- The configuration that a JSON text gives. -/
def ofJson? (text : String) : Option LanguageConfiguration :=
  (Data.Json.read? text.toList).bind ofData?

end LanguageConfiguration

/-! ### Encoding -/

def CharacterPair.toData : CharacterPair → Data
  | tuple o c => .pair (o, c)
  | record o c kinds =>
    .fields ([("open", .string o), ("close", .string c)] ++ Data.listField "notIn" .string kinds)

def CommentRule.toData (c : CommentRule) : Data :=
  .fields (Data.fieldOf "lineComment" .string c.lineComment
    ++ Data.fieldOf "blockComment" .pair c.blockComment)

def LanguageConfiguration.toData (c : LanguageConfiguration) : Data :=
  .fields (Data.fieldOf "comments" CommentRule.toData c.comments
    ++ Data.listField "brackets" .pair c.brackets
    ++ Data.listField "autoClosingPairs" CharacterPair.toData c.autoClosingPairs
    ++ Data.listField "surroundingPairs" CharacterPair.toData c.surroundingPairs
    ++ Data.fieldOf "wordPattern" .string c.wordPattern)

end Tincture
