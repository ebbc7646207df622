import Tincture.Text.LineBreak
import Tincture.Tokens.Provider

/-!
# Documents

A document is a text that is edited, with the tokens of its lines as far as they are known. An edit
drops what is known of the lines that it touches. Tokens are then computed anew from the first line
that is not known to be right, up to where a line ends with the stack that it ended with before: the
lines after it begin as they did when their tokens were computed.
-/

namespace Tincture

/-- What is known of a line. -/
structure CachedLine where
  tokens : List StyledToken
  /-- The stack that the line ends with. -/
  stack : RuleStack
  /-- Whether the line was edited since; only its stack counts then, to be compared with the new
  one. -/
  stale : Bool := false

/-- What remains known of a line that was edited. -/
def CachedLine.carried (c : CachedLine) : CachedLine :=
  { c with tokens := [], stale := true }

/-- A text with the tokens of its lines. -/
structure Document where
  text : List Char
  /-- For each line what is known of it. -/
  slots : List (Option CachedLine)
  /-- All lines before this one have the right tokens. -/
  firstInvalid : Nat

namespace Document

/-- A document of which only the text is known. -/
def ofText (text : List Char) : Document :=
  ⟨text, List.replicate (Text.brokenLines text).length none, 0⟩

/-- The document without text. -/
def empty : Document :=
  ofText []

/-- The number of lines. -/
def lineCount (d : Document) : Nat :=
  (Text.brokenLines d.text).length

/-- The text of a line, without the line feed at its end. -/
def line? (d : Document) (i : Nat) : Option (List Char) :=
  (Text.brokenLines d.text)[i]?.map Text.trimLineFeed

/-- The place of a column in a line; a column behind the end stands for the end, and a line behind
the last one for the end of the text. -/
def offset (d : Document) (line column : Nat) : Nat :=
  match d.line? line with
  | some l => Text.lineStart d.text line + min column l.length
  | none => d.text.length

/-! ### Edits -/

/-- The text from one place to another replaced. Places behind the end of the text stand for its
end, and a range that ends before it starts is empty. The last of the lines that come in keeps the
stack of the last one that goes out. -/
def replace (d : Document) (start stop : Nat) (text : List Char) : Document :=
  let start := min start d.text.length
  let stop := max start (min stop d.text.length)
  let first := Text.lineAt d.text start
  let last := Text.lineAt d.text stop
  let after := d.text.take start ++ text ++ d.text.drop stop
  let size := (last - first + 1) + (Text.brokenLines after).length - d.lineCount
  let carried := (d.slots[last]?).join.map CachedLine.carried
  let fresh := List.replicate (size - 1) none ++ if size = 0 then [] else [carried]
  { text := after
    slots := d.slots.take first ++ fresh ++ d.slots.drop (last + 1)
    firstInvalid := min d.firstInvalid first }

/-- Text put in at a place. -/
def insert (d : Document) (place : Nat) (text : List Char) : Document :=
  d.replace place place text

/-- The text from one place to another taken out. -/
def delete (d : Document) (start stop : Nat) : Document :=
  d.replace start stop []

/-- The document with nothing known but its text. -/
def invalidateAll (d : Document) : Document :=
  ⟨d.text, d.slots.map fun _ => none, 0⟩

/-! ### Tokens -/

/-- What a pass over lines leads to: what is known of them, how many of them got tokens, and how
many of them are known to be right. -/
structure Pass where
  slots : List (Option CachedLine)
  tokenized : Nat
  reached : Nat

namespace Pass

/-- A pass with one more line before it, whose tokens were computed. -/
def computed (c : CachedLine) (p : Pass) : Pass :=
  ⟨some c :: p.slots, p.tokenized + 1, p.reached + 1⟩

/-- A pass with one more line before it, whose tokens were right. -/
def kept (c : CachedLine) (p : Pass) : Pass :=
  ⟨some c :: p.slots, p.tokenized, p.reached + 1⟩

end Pass

/-- Computes tokens for the next `todo` lines, the first of which begins with `stack`. When the
line before is `settled`, that is, ended as it did before, the lines whose tokens are known are
right. -/
def pass (p : TokensProvider) : (todo : Nat) → (settled : Bool) → (stack : RuleStack) →
    List (List Char) → List (Option CachedLine) → Pass
  | todo, settled, stack, line :: lines, slot :: slots =>
    let compute (todo : Nat) : Pass :=
      let out := p.tokenize (Text.trimLineFeed line) stack
      let settled := slot.any fun old => old.stack.same out.stack
      (pass p todo settled out.stack lines slots).computed ⟨out.tokens, out.stack, false⟩
    match slot with
    | some c =>
      if settled && !c.stale then (pass p (todo - 1) true c.stack lines slots).kept c
      else match todo with
        | 0 => ⟨slot :: slots, 0, 0⟩
        | todo + 1 => compute todo
    | none => match todo with
      | 0 => ⟨slot :: slots, 0, 0⟩
      | todo + 1 => compute todo
  | _, _, _, _, slots => ⟨slots, 0, 0⟩

/-- The stack that a line begins with. -/
def stackBefore (d : Document) (p : TokensProvider) (i : Nat) : RuleStack :=
  match i with
  | 0 => p.initial
  | i + 1 => match (d.slots[i]?).join with
    | some c => c.stack
    | none => p.initial

/-- Computes tokens until those of the line `upTo` are right, and says for how many lines that had
to be done. -/
def ensureTokenized (d : Document) (p : TokensProvider) (upTo : Nat) : Document × Nat :=
  let i := d.firstInvalid
  let last := min upTo (d.slots.length - 1)
  let r := pass p (last + 1 - i) false (d.stackBefore p i) ((Text.brokenLines d.text).drop i)
    (d.slots.drop i)
  ({ d with slots := d.slots.take i ++ r.slots, firstInvalid := i + r.reached }, r.tokenized)

/-- What is known of a line, if its tokens are right. -/
def cached? (d : Document) (i : Nat) : Option CachedLine :=
  if i < d.firstInvalid then (d.slots[i]?).join else none

/-- The tokens of a line, if they are known to be right. -/
def tokens? (d : Document) (i : Nat) : Option (List StyledToken) :=
  (d.cached? i).map (·.tokens)

/-- The stack that a line ends with, if it is known. -/
def endStack? (d : Document) (i : Nat) : Option RuleStack :=
  (d.cached? i).map (·.stack)

end Document

end Tincture
