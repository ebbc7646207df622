import Tincture.Unicode.CharTable

/-!
# Tokens of YAML

A YAML text is first cut into tokens. Block collections are told by their indentation: a token
says where one starts and where it ends. That a scalar was a key is only known at the colon after
it, so the place of a possible key is kept and its token put in later.
-/

namespace Tincture.Data.Yaml

open Unicode

/-- How a scalar was written. -/
inductive ScalarStyle where
  | plain
  | quoted
  deriving DecidableEq

/-- A token. -/
inductive Token where
  | directive
  | documentStart
  | documentEnd
  | blockSequenceStart
  | blockMappingStart
  | blockEnd
  | flowSequenceStart
  | flowSequenceEnd
  | flowMappingStart
  | flowMappingEnd
  | blockEntry
  | flowEntry
  | key
  | value
  | alias (name : List Char)
  | anchor (name : List Char)
  | tag
  | scalar (style : ScalarStyle) (text : List Char)

/-- A place in a text: what is left of it, and how much was passed. -/
structure Cursor where
  rest : List Char
  index : Nat := 0
  line : Nat := 0
  column : Nat := 0

/-- A place where a key may have started. -/
structure PossibleKey where
  /-- Nothing but a key can stand there. -/
  required : Bool
  /-- The number of tokens before it. -/
  token : Nat
  index : Nat
  line : Nat
  column : Nat

/-- The state of cutting a text into tokens. -/
structure Scan where
  cursor : Cursor
  tokens : Array Token := #[]
  /-- The column of the innermost block collection; before any, it is -1. -/
  indent : Int := -1
  /-- The columns of the block collections around it. -/
  outer : List Int := []
  /-- Whether a key may start here. -/
  keyAllowed : Bool := true
  /-- The possible key of the block context and of each open flow collection, innermost first. -/
  keys : List (Option PossibleKey) := [none]
  flow : Nat := 0

/-! ### Characters -/

def isBlank (c : Char) : Bool := c == ' ' || c == '\t'

def isBreak (c : Char) : Bool :=
  c == '\n' || c == '\r' || c == '\u0085' || c == '\u2028' || c == '\u2029'

/-- A blank, a line break or the end of the text. -/
def isGap : Option Char → Bool
  | none => true
  | some c => isBlank c || isBreak c

/-- Whether a character may occur in a text at all. -/
def isAllowed (c : Char) : Bool :=
  let n := c.toNat
  n == 9 || n == 10 || n == 13 || (0x20 ≤ n && n ≤ 0x7E) || n == 0x85
    || (0xA0 ≤ n && n ≤ 0xFFFD && n != 0xFEFF) || 0x10000 ≤ n

namespace Cursor

def peek (c : Cursor) : Option Char := c.rest.head?

def peekAt (c : Cursor) (n : Nat) : Option Char := c.rest[n]?

/-- The place after a number of characters of the same line. -/
def skip (c : Cursor) (n : Nat) : Cursor :=
  { c with rest := c.rest.drop n, index := c.index + n, column := c.column + n }

/-- The place after a line break, and the character that stands for it. -/
def skipBreak (c : Cursor) : List Char × Cursor :=
  match c.rest with
  | '\r' :: '\n' :: rest => (['\n'], ⟨rest, c.index + 2, c.line + 1, 0⟩)
  | d :: rest =>
    (if d == '\u2028' || d == '\u2029' then [d] else ['\n'], ⟨rest, c.index + 1, c.line + 1, 0⟩)
  | [] => ([], c)

/-- Whether a line starts here with a mark between documents. -/
def atDocumentMark (c : Cursor) : Bool :=
  c.column == 0 && ("---".toList.isPrefixOf c.rest || "...".toList.isPrefixOf c.rest)
    && isGap (c.peekAt 3)

/-- The place after all characters of a kind, on the same line. -/
def skipWhile (c : Cursor) (p : Char → Bool) : Cursor :=
  c.skip (c.rest.takeWhile p).length

end Cursor

/-! ### Scalars -/

/-- The text of a scalar so far, with the white space after it that may still become part of it. -/
structure Folding where
  text : List Char := []
  blanks : List Char := []
  lead : List Char := []
  trail : List Char := []
  /-- Whether a line break was passed since the last character. -/
  broken : Bool := false

namespace Folding

/-- White space becomes part of the text: a single line break as a blank, of several all but the
first, and other white space as it is. -/
def join (f : Folding) : Folding :=
  if f.broken then
    let gap := if f.lead == ['\n'] then (if f.trail.isEmpty then [' '] else f.trail)
      else f.lead ++ f.trail
    { text := f.text ++ gap }
  else { text := f.text ++ f.blanks }

def push (f : Folding) (c : Char) : Folding :=
  { f with text := f.text ++ [c] }

/-- One blank or line break is passed. -/
def pass (f : Folding) (c : Cursor) : Folding × Cursor :=
  match c.peek with
  | some d =>
    if isBreak d then
      let (b, c) := c.skipBreak
      if f.broken then ({ f with trail := f.trail ++ b }, c)
      else ({ f with blanks := [], lead := b, broken := true }, c)
    else (if f.broken then f else { f with blanks := f.blanks ++ [d] }, c.skip 1)
  | none => (f, c)

end Folding

/-- Passes blanks and line breaks inside a quoted scalar. -/
def passGaps : Nat → Folding → Cursor → Folding × Cursor
  | 0, f, c => (f, c)
  | fuel + 1, f, c =>
    if c.peek.any fun d => isBlank d || isBreak d then
      let (f, c) := f.pass c
      passGaps fuel f c
    else (f, c)

/-- Passes blanks and line breaks after a plain scalar; a tab must not stand for indentation. -/
def passPlainGaps (indent : Int) : Nat → Folding → Cursor → Option (Folding × Cursor)
  | 0, _, _ => none
  | fuel + 1, f, c =>
    match c.peek with
    | some d =>
      if isBlank d || isBreak d then
        if d == '\t' && f.broken && (c.column : Int) < indent then none
        else
          let (f, c) := f.pass c
          passPlainGaps indent fuel f c
      else some (f, c)
    | none => some (f, c)

def isFlowIndicator (c : Char) : Bool :=
  c == ',' || c == '[' || c == ']' || c == '\x7b' || c == '\x7d'

/-- The characters of a plain scalar up to the next white space or to its end; none if a colon
stands where it cannot. -/
def plainWord (inFlow : Bool) : Nat → Folding → Cursor → Option (Folding × Cursor)
  | 0, _, _ => none
  | fuel + 1, f, c =>
    match c.peek with
    | none => some (f, c)
    | some d =>
      if isBlank d || isBreak d then some (f, c)
      else if inFlow && d == ':' && (c.peekAt 1).any (fun e => isFlowIndicator e || e == '?') then
        none
      else if d == ':' && isGap (c.peekAt 1) || inFlow && isFlowIndicator d then some (f, c)
      else
        let f := if f.broken || !f.blanks.isEmpty then f.join else f
        plainWord inFlow fuel (f.push d) (c.skip 1)

/-- The text of a plain scalar inside a collection at column `indent - 1`, the place after it, and
whether it ended with a line. -/
def plainScalar (inFlow : Bool) (indent : Int) :
    Nat → Folding → Cursor → Option (List Char × Bool × Cursor)
  | 0, _, _ => none
  | fuel + 1, f, c =>
    if c.atDocumentMark || c.peek == some '#' then some (f.text, f.broken, c)
    else do
      let (f, c) ← plainWord inFlow (fuel + 1) f c
      if c.peek.any fun d => isBlank d || isBreak d then
        let (f, c) ← passPlainGaps indent (fuel + 1) f c
        if !inFlow && (c.column : Int) < indent then return (f.text, f.broken, c)
        plainScalar inFlow indent fuel f c
      else return (f.text, f.broken, c)

/-- The character that an escape in double quotes stands for, and the place after it. -/
def escape? (c : Cursor) : Option (Char × Cursor) :=
  let hex (n : Nat) : Option (Char × Cursor) :=
    let digits := (c.rest.drop 1).take n
    if digits.length = n ∧ digits.all fun d => (hexValue? d).isSome then
      let v := hexNat digits
      if v.isValidChar then some (Char.ofNat v, c.skip (n + 1)) else none
    else none
  let one (d : Char) : Option (Char × Cursor) := some (d, c.skip 1)
  match c.peek with
  | some '0' => one '\x00'
  | some 'a' => one '\x07'
  | some 'b' => one '\x08'
  | some 't' => one '\t'
  | some '\t' => one '\t'
  | some 'n' => one '\n'
  | some 'v' => one '\x0b'
  | some 'f' => one '\x0c'
  | some 'r' => one '\r'
  | some 'e' => one '\x1b'
  | some ' ' => one ' '
  | some '"' => one '"'
  | some '/' => one '/'
  | some '\\' => one '\\'
  | some 'N' => one '\u0085'
  | some '_' => one '\u00a0'
  | some 'L' => one '\u2028'
  | some 'P' => one '\u2029'
  | some 'x' => hex 2
  | some 'u' => hex 4
  | some 'U' => hex 8
  | _ => none

/-- The characters of a quoted scalar up to white space or to the closing quote. -/
def quotedWord (single : Bool) : Nat → Folding → Cursor → Option (Folding × Cursor)
  | 0, _, _ => none
  | fuel + 1, f, c =>
    match c.peek with
    | none => none
    | some d =>
      if isBlank d || isBreak d then some (f, c)
      else if single && d == '\'' then
        if c.peekAt 1 == some '\'' then quotedWord single fuel (f.push '\'') (c.skip 2)
        else some (f, c)
      else if !single && d == '"' then some (f, c)
      else if !single && d == '\\' then
        if (c.peekAt 1).any isBreak then
          let (_, c) := (c.skip 1).skipBreak
          some ({ f with broken := true }, c)
        else do
          let (e, c) ← escape? (c.skip 1)
          quotedWord single fuel (f.push e) c
      else quotedWord single fuel (f.push d) (c.skip 1)

/-- The text of a quoted scalar from after its opening quote, and the place after its closing
one. -/
def quotedScalar (single : Bool) : Nat → Folding → Cursor → Option (List Char × Cursor)
  | 0, _, _ => none
  | fuel + 1, f, c => do
    if c.atDocumentMark || c.rest.isEmpty then none
    let (f, c) ← quotedWord single (fuel + 1) f c
    if !f.broken && c.peek == some (if single then '\'' else '"') then return (f.text, c.skip 1)
    let (f, c) := passGaps (fuel + 1) f c
    quotedScalar single fuel f.join c

/-- The line breaks before a line of a block scalar, and the place where its text starts. An indent
of 0 is not known yet; `widest` is the widest one seen. A tab must not stand for indentation. -/
def blockBreaks (indent : Nat) :
    Nat → (widest : Nat) → (breaks : List Char) → Cursor → Option (Nat × List Char × Cursor)
  | 0, _, _, _ => none
  | fuel + 1, widest, breaks, c =>
    let blanks := c.rest.takeWhile (· == ' ')
    let n := if indent = 0 then blanks.length else min blanks.length (indent - c.column)
    let c := c.skip n
    let widest := max widest c.column
    if (indent = 0 || c.column < indent) && c.peek == some '\t' then none
    else if c.peek.any isBreak then
      let (b, c) := c.skipBreak
      blockBreaks indent fuel widest (breaks ++ b) c
    else some (widest, breaks, c)

/-- The lines of a block scalar. `lead` is the break before the line, `breaks` the empty lines
before it, and `afterBlank` tells whether the line before started with a blank. -/
def blockLines (literal : Bool) (indent : Nat) :
    Nat → (text lead breaks : List Char) → (afterBlank : Bool) → Cursor →
    Option (List Char × List Char × List Char × Cursor)
  | 0, _, _, _, _, _ => none
  | fuel + 1, text, lead, breaks, afterBlank, c =>
    if c.column = indent ∧ !c.rest.isEmpty then do
      let blank := c.peek.any isBlank
      let gap :=
        if !literal && lead == ['\n'] && !afterBlank && !blank then
          if breaks.isEmpty then [' '] else []
        else lead
      let line := c.rest.takeWhile (!isBreak ·)
      let (lead, c) := (c.skip line.length).skipBreak
      let (_, next, c) ← blockBreaks indent (c.rest.length + 1) 0 [] c
      blockLines literal indent fuel (text ++ gap ++ breaks ++ line) lead next blank c
    else some (text, lead, breaks, c)

/-- What is kept of the line breaks at the end of a block scalar. -/
inductive Chomping where
  | strip
  | clip
  | keep

/-- The chomping and the indentation that the head of a block scalar gives. -/
def blockHead (c : Cursor) : Option (Chomping × Nat × Cursor) :=
  let chomp (c : Cursor) : Option (Chomping × Cursor) := match c.peek with
    | some '+' => some (.keep, c.skip 1)
    | some '-' => some (.strip, c.skip 1)
    | _ => none
  let width (c : Cursor) : Option (Nat × Cursor) := match c.peek with
    | some d => if d.isDigit then some (d.toNat - '0'.toNat, c.skip 1) else none
    | none => none
  let (chomping, increment, c) := match chomp c with
    | some (k, c) => match width c with
      | some (n, c) => (k, some n, c)
      | none => (k, none, c)
    | none => match width c with
      | some (n, c) => match chomp c with
        | some (k, c) => (k, some n, c)
        | none => (.clip, some n, c)
      | none => (.clip, none, c)
  if increment = some 0 then none else some (chomping, increment.getD 0, c)

/-- A block scalar from after its indicator, in a collection at column `parent`. -/
def blockScalar (literal : Bool) (parent : Int) (c : Cursor) : Option (List Char × Cursor) := do
  let (chomping, increment, c) ← blockHead c
  let c := c.skipWhile isBlank
  let c := if c.peek == some '#' then c.skipWhile (!isBreak ·) else c
  if c.peek.any (!isBreak ·) then none
  let (_, c) := c.skipBreak
  let fuel := c.rest.length + 1
  let given := if increment = 0 then 0 else (max parent 0).toNat + increment
  let (widest, breaks, c) ← blockBreaks given fuel 0 [] c
  let indent := if given = 0 then max (max widest (parent + 1).toNat) 1 else given
  let (text, lead, breaks, c) ← blockLines literal indent fuel [] [] breaks false c
  return (match chomping with
    | .strip => text
    | .clip => text ++ lead
    | .keep => text ++ lead ++ breaks, c)

/-! ### Structure -/

namespace Scan

def push (s : Scan) (t : Token) : Scan :=
  { s with tokens := s.tokens.push t }

/-- Block collections deeper than a column end. -/
def unroll (column : Int) (s : Scan) : Scan :=
  if s.flow ≠ 0 then s else go s.outer s
where
  go : List Int → Scan → Scan
    | [], s => s
    | i :: outer, s =>
      if column < s.indent then go outer { s.push .blockEnd with indent := i, outer }
      else s

/-- A block collection starts at a column, before the token of the given number, if the column is
deeper than the collection around it. -/
def roll (column : Nat) (at? : Nat) (t : Token) (s : Scan) : Scan :=
  if s.flow = 0 ∧ s.indent < (column : Int) then
    { s with
      outer := s.indent :: s.outer, indent := column
      tokens := s.tokens.insertIdxIfInBounds at? t }
  else s

/-- Forgets the possible key; a required one must not be forgotten. -/
def dropKey (s : Scan) : Option Scan :=
  match s.keys with
  | some k :: rest => if k.required then none else some { s with keys := none :: rest }
  | _ => some s

/-- Notes that a key may start here. -/
def noteKey (s : Scan) : Option Scan :=
  if s.keyAllowed then do
    let required := s.flow = 0 ∧ s.indent = (s.cursor.column : Int)
    let s ← s.dropKey
    let k : PossibleKey :=
      ⟨required, s.tokens.size, s.cursor.index, s.cursor.line, s.cursor.column⟩
    return { s with keys := some k :: s.keys.drop 1 }
  else some s

/-- Forgets the possible keys that are on another line or too far away. -/
def dropStale (s : Scan) : Option Scan := do
  let keys ← s.keys.mapM fun k => match k with
    | none => some none
    | some k =>
      if k.line < s.cursor.line || k.index + 1024 < s.cursor.index then
        if k.required then none else some none
      else some (some k)
  return { s with keys }

/-- Skips blanks, comments and line breaks before a token. -/
def skipGaps : Nat → Scan → Scan
  | 0, s => s
  | fuel + 1, s =>
    let c := s.cursor.skipWhile fun d => d == ' ' || (d == '\t' && (s.flow ≠ 0 || !s.keyAllowed))
    let c := if c.peek == some '#' then c.skipWhile (!isBreak ·) else c
    if c.peek.any isBreak then
      let (_, c) := c.skipBreak
      skipGaps fuel { s with cursor := c, keyAllowed := s.keyAllowed || s.flow = 0 }
    else { s with cursor := c }

/-- A token of some characters. -/
def punctuation (s : Scan) (size : Nat) (t : Token) : Scan :=
  { s.push t with cursor := s.cursor.skip size }

def openFlow (s : Scan) (t : Token) : Option Scan := do
  let s ← s.noteKey
  return { s.punctuation 1 t with keys := none :: s.keys, flow := s.flow + 1, keyAllowed := true }

def closeFlow (s : Scan) (t : Token) : Option Scan := do
  let s ← s.dropKey
  let keys := if s.flow = 0 then s.keys else s.keys.drop 1
  return { s.punctuation 1 t with keys, flow := s.flow - 1, keyAllowed := false }

/-- An entry, `-`, or a key, `?`, of a block collection. -/
def entry (s : Scan) (start t : Token) (allowed : Bool) : Option Scan := do
  if s.flow = 0 ∧ !s.keyAllowed then none
  let s := s.roll s.cursor.column s.tokens.size start
  let s ← s.dropKey
  return { s.punctuation 1 t with keyAllowed := allowed }

/-- A colon, which shows that a key stood before it or is left out. -/
def colon (s : Scan) : Option Scan :=
  match s.keys with
  | some k :: rest =>
    let s := { s with tokens := s.tokens.insertIdxIfInBounds k.token .key, keys := none :: rest }
    let s := s.roll k.column k.token .blockMappingStart
    some { s.punctuation 1 .value with keyAllowed := false }
  | _ =>
    if s.flow = 0 ∧ !s.keyAllowed then none
    else
      let s := s.roll s.cursor.column s.tokens.size .blockMappingStart
      some { s.punctuation 1 .value with keyAllowed := s.flow = 0 }

/-- The name of an anchor or alias. -/
def named (s : Scan) (t : List Char → Token) : Option Scan := do
  let s ← s.noteKey
  let c := s.cursor.skip 1
  let name := c.rest.takeWhile fun d => d.isAlphanum || d == '_' || d == '-'
  let c := c.skip name.length
  if name.isEmpty then none
  else if isGap c.peek || c.peek.any fun d =>
      d == '?' || d == ':' || d == ',' || d == ']' || d == '\x7d' || d == '%' || d == '@'
        || d == Char.ofNat 96 then
    some { s.push (t name) with cursor := c, keyAllowed := false }
  else none

/-- A tag, which has no meaning here. -/
def tagged (s : Scan) : Option Scan := do
  let s ← s.noteKey
  let c := s.cursor.skipWhile fun d => !(isBlank d || isBreak d || s.flow ≠ 0 && isFlowIndicator d)
  return { s.push .tag with cursor := c, keyAllowed := false }

/-- A mark between documents. -/
def documentMark (s : Scan) (t : Token) : Option Scan := do
  let s ← (s.unroll (-1)).dropKey
  return { s.punctuation 3 t with keyAllowed := false }

/-- A line that says something about the document after it. -/
def directive (s : Scan) : Option Scan := do
  let s ← (s.unroll (-1)).dropKey
  let line := s.cursor.rest.takeWhile (!isBreak ·)
  let known := "%YAML 1.".toList.isPrefixOf line || "%TAG ".toList.isPrefixOf line
  if !known then none
  return { s.push .directive with cursor := s.cursor.skip line.length, keyAllowed := false }

/-- A scalar in quotes. -/
def quotedToken (s : Scan) (single : Bool) : Option Scan := do
  let s ← s.noteKey
  let (text, c) ← quotedScalar single (s.cursor.rest.length + 1) {} (s.cursor.skip 1)
  return { s.push (.scalar .quoted text) with cursor := c, keyAllowed := false }

/-- A scalar that takes whole lines. -/
def blockToken (s : Scan) (literal : Bool) : Option Scan := do
  let s ← s.dropKey
  let (text, c) ← blockScalar literal s.indent (s.cursor.skip 1)
  return { s.push (.scalar .quoted text) with cursor := c, keyAllowed := true }

/-- A scalar without quotes. -/
def plainToken (s : Scan) : Option Scan := do
  let s ← s.noteKey
  let (text, broken, c) ←
    plainScalar (s.flow ≠ 0) (s.indent + 1) (s.cursor.rest.length + 1) {} s.cursor
  return { s.push (.scalar .plain text) with cursor := c, keyAllowed := broken }

/-- The token that starts with a character, when white space before it was skipped. -/
def token (s : Scan) (d : Char) : Option Scan :=
  let c := s.cursor
  let inFlow := s.flow ≠ 0
  if c.column == 0 && d == '%' then s.directive
  else if c.atDocumentMark then
    s.documentMark (if d == '-' then .documentStart else .documentEnd)
  else if d == '[' then s.openFlow .flowSequenceStart
  else if d == '\x7b' then s.openFlow .flowMappingStart
  else if d == ']' then s.closeFlow .flowSequenceEnd
  else if d == '\x7d' then s.closeFlow .flowMappingEnd
  else if d == ',' then do
    let s ← s.dropKey
    return { s.punctuation 1 .flowEntry with keyAllowed := true }
  else if d == '-' && isGap (c.peekAt 1) then s.entry .blockSequenceStart .blockEntry true
  else if d == '?' && (inFlow || isGap (c.peekAt 1)) then
    s.entry .blockMappingStart .key (!inFlow)
  else if d == ':' && (inFlow || isGap (c.peekAt 1)) then s.colon
  else if d == '*' then s.named .alias
  else if d == '&' then s.named .anchor
  else if d == '!' then s.tagged
  else if d == '|' && !inFlow then s.blockToken true
  else if d == '>' && !inFlow then s.blockToken false
  else if d == '\'' then s.quotedToken true
  else if d == '"' then s.quotedToken false
  else if d == '-' && !(c.peekAt 1).any isBlank
      || !inFlow && (d == '?' || d == ':') && !isGap (c.peekAt 1)
      || !(d == '\t' || d == '-' || d == '?' || d == ':' || isFlowIndicator d || d == '#'
        || d == '|' || d == '>' || d == '%' || d == '@' || d == Char.ofNat 96) then s.plainToken
  else none

/-- All tokens that are left. -/
def run : Nat → Scan → Option (Array Token)
  | 0, _ => none
  | fuel + 1, s => do
    let s := s.skipGaps (s.cursor.rest.length + 1)
    let s ← s.dropStale
    let s := s.unroll s.cursor.column
    match s.cursor.peek with
    | none =>
      let s ← (s.unroll (-1)).dropKey
      return s.tokens
    | some d =>
      let s ← s.token d
      run fuel s

end Scan

/-- The tokens of a text; none if it holds a character or an indicator where it cannot stand. -/
def tokens? (text : List Char) : Option (Array Token) :=
  let text := match text with
    | '\ufeff' :: rest => rest
    | text => text
  if text.all isAllowed then Scan.run (text.length + 1) { cursor := { rest := text } } else none

end Tincture.Data.Yaml
