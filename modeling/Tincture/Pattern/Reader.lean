import Tincture.Pattern.Bracket
import Tincture.Pattern.Expr
import Tincture.Text.Alphanumeric

/-!
# Reading a pattern

The reader turns the text of a pattern into an `Expr`, or refuses it. Options such as `(?i)` hold
from where they stand on; those of `(?i:…)` end with their group. A reference back has to name a
group that was opened before it.
-/

namespace Tincture.Pattern

open Text Unicode

/-- The options that a pattern can switch on and off. -/
structure Flags where
  anyCase : Bool := false
  multiLine : Bool := false
  dotNewline : Bool := false
  swapGreed : Bool := false
  spaced : Bool := false

/-- What the reader knows: the text that is left, the options in force, the number of groups
opened, the names of groups, and whether a group was referred to by its number. -/
structure ReadState where
  rest : List Char
  flags : Flags := {}
  groups : Nat := 0
  names : List (List Char × Nat) := []
  numbered : Bool := false

/-- A step of the reader; it fails on a pattern that is refused. -/
abbrev Reader := StateT ReadState Option

namespace Reader

/-- Where the skipping of blanks and comments stands. -/
inductive Gap where
  | between
  | lineComment
  | groupComment
  | escaped

/-- The text after the comments `(?#…)` at its start and, if blanks do not count, after blanks and
comments from `#` to the line end. A comment group that is not closed is refused. -/
def skipGap (spaced : Bool) : Gap → List Char → Option (List Char)
  | .between, [] => some []
  | .between, c :: rest =>
    if spaced && (c == ' ' || c == '\t' || c == '\n' || c == '\r') then skipGap spaced .between rest
    else if spaced && c == '#' then skipGap spaced .lineComment rest
    else match c, rest with
      | '(', '?' :: '#' :: rest => skipGap spaced .groupComment rest
      | _, _ => some (c :: rest)
  | .lineComment, [] => some []
  | .lineComment, c :: rest =>
    if c = '\n' then skipGap spaced .between rest else skipGap spaced .lineComment rest
  | .groupComment, [] => none
  | .groupComment, c :: rest =>
    if c = ')' then skipGap spaced .between rest
    else if c = '\\' then skipGap spaced .escaped rest
    else skipGap spaced .groupComment rest
  | .escaped, [] => none
  | .escaped, _ :: rest => skipGap spaced .groupComment rest

def skip : Reader Unit := do
  let s ← get
  match skipGap s.flags.spaced .between s.rest with
  | some rest => set { s with rest }
  | none => failure

def rest : Reader (List Char) := return (← get).rest

def setRest (rest : List Char) : Reader Unit := modify fun s => { s with rest }

/-- Takes the given text, if it comes next. -/
def accept (text : String) : Reader Bool := do
  let s ← get
  if text.toList.isPrefixOf s.rest then
    set { s with rest := s.rest.drop text.length }
    return true
  else return false

/-- Takes the closing parenthesis, after blanks and comments. -/
def close : Reader Unit := do
  skip
  if !(← accept ")") then failure

/-- The largest number that can be written in a pattern. -/
def wordMax : Nat := 18446744073709551615

/-- The value of decimal digits. -/
def decimalValue (digits : List Char) : Nat :=
  digits.foldl (fun n c => n * 10 + (c.toNat - '0'.toNat)) 0

/-- The number that comes next, unless it is too large. -/
def decimal? : List Char → Option (Nat × List Char) := fun s =>
  let digits := s.takeWhile Char.isDigit
  let n := decimalValue digits
  if digits.isEmpty || wordMax < n then none else some (n, s.dropWhile Char.isDigit)

/-- The bounds of a counted loop, from after its opening brace to after the closing one. -/
def bounds? (spaced : Bool) (s : List Char) : Option (Nat × Option Nat × List Char) := do
  let s ← skipGap spaced .between s
  let (lo, s) ← match s with
    | ',' :: _ => some (0, s)
    | _ => decimal? s
  let s ← skipGap spaced .between s
  let (hi, s) ← match s with
    | '\x7d' :: _ => some (some lo, s)
    | ',' :: rest => do
      let rest ← skipGap spaced .between rest
      match decimal? rest with
      | some (n, after) => some (some n, after)
      | none => some (none, rest)
    | _ => none
  let s ← skipGap spaced .between s
  match s with
  | '\x7d' :: rest => some (lo, hi.filter (· != wordMax), rest)
  | _ => none

/-- Whether a character can stand in the name of a group. -/
def isNameChar (c : Char) : Bool :=
  c == '_' || isAlphanumeric c

/-- The name of a group, up to and with its closing delimiter. -/
def name (stop : String) : Reader (List Char) := do
  let s ← rest
  let n := s.takeWhile isNameChar
  if n.isEmpty then failure
  setRest (s.dropWhile isNameChar)
  if !(← accept stop) then failure
  return n

/-- A reference to a group by number; the group has to be open already. -/
def reference (n : Nat) : Reader Nat := do
  let s ← get
  if n = 0 || s.groups < n then failure
  return n

/-- A reference to a group by number, written without delimiters. -/
def numberedReference : Reader Nat := do
  match decimal? (← rest) with
  | none => failure
  | some (n, after) =>
    setRest after
    modify fun s => { s with numbered := true }
    reference n

/-- A reference to a group by its name, by its number, or by how many groups back it was opened. -/
def namedReference (stop : String) : Reader Nat := do
  if ← accept "-" then
    let n ← name stop
    let s ← get
    if n.all Char.isDigit && decimalValue n ≤ s.groups then
      reference (s.groups + 1 - decimalValue n)
    else failure
  else
    let n ← name stop
    match (← get).names.lookup n with
    | some index => reference index
    | none => if n.all Char.isDigit then reference (decimalValue n) else failure

/-- The character of a hexadecimal escape with a fixed number of digits, or between braces. -/
def hexEscape (digits : Nat) : Reader Char := do
  let s ← rest
  let fixed := s.take digits
  let (code, after) ←
    if fixed.length = digits ∧ fixed.all fun c => (hexValue? c).isSome then
      pure (fixed, s.drop digits)
    else match s with
      | '\x7b' :: s =>
        let inner := s.takeWhile fun c => (hexValue? c).isSome
        match s.drop inner.length with
        | '\x7d' :: after =>
          if inner.isEmpty || 8 < inner.length then failure else pure (inner, after)
        | _ => failure
      | _ => failure
  setRest after
  let n := hexNat code
  if n.isValidChar then return Char.ofNat n else failure

/-- What an escape stands for. -/
inductive Escape where
  | char (c : Char)
  | set (a : CharClass)
  | expr (e : Expr)

/-- A property class, closed under changes of case if case does not count, or its complement. -/
def propertyClass (negated : Bool) (a : CharClass) : Reader CharClass :=
  return CharClass.complIf negated (CharClass.foldIf (← get).flags.anyCase a)

/-- The class of a property escape; the text stands after its `p`. -/
def propertyEscape (negated : Bool) : Reader CharClass := do
  match ← rest with
  | [] => failure
  | '\x7b' :: s =>
    match s.dropWhile (· != '\x7d') with
    | [] => failure
    | _ :: after =>
      setRest after
      match CharClass.ofQuery? (s.takeWhile (· != '\x7d')) with
      | some a => propertyClass negated a
      | none => failure
  | c :: after =>
    setRest after
    match CharClass.named? [c] with
    | some a => propertyClass negated a
    | none => failure

/-- The boundary that an escape `\b` stands for, which may be named in braces. -/
def boundary : Reader Anchor := do
  match ← rest with
  | '\x7b' :: _ =>
    if ← accept "\x7bstart\x7d" then return .wordStart
    else if ← accept "\x7bend\x7d" then return .wordEnd
    else failure
  | _ => return .wordBoundary

def hexClass : CharClass := .unionAll [.range '0' '9', .range 'A' 'F', .range 'a' 'f']

/-- The control characters that have letters. -/
def control? (c : Char) : Option Char :=
  match c with
  | 'a' => some '\x07'
  | 'e' => some '\x1b'
  | 'f' => some '\x0c'
  | 'n' => some '\n'
  | 'r' => some '\r'
  | 't' => some '\t'
  | 'v' => some '\x0b'
  | _ => none

/-- What stands after a backslash, the same inside brackets and outside. -/
def commonEscape? (c : Char) : Option (Reader Escape) :=
  match c with
  | 'd' => some (return .set .digit)
  | 'D' => some (return .set (.compl .digit))
  | 's' => some (return .set .space)
  | 'S' => some (return .set (.compl .space))
  | 'w' => some (return .set .word)
  | 'W' => some (return .set (.compl .word))
  | 'h' => some (return .set hexClass)
  | 'H' => some (return .set (.compl hexClass))
  | 'x' => some (return .char (← hexEscape 2))
  | 'u' => some (return .char (← hexEscape 4))
  | 'U' => some (return .char (← hexEscape 8))
  | 'p' => some (return .set (← propertyEscape false))
  | 'P' => some (return .set (← propertyEscape true))
  | _ => (control? c).map fun d => return .char d

/-- An escape outside brackets; the text stands after the backslash. -/
def escape : Reader Escape := do
  match ← rest with
  | [] => failure
  | c :: after =>
    if c.isDigit then return .expr (.backref (← numberedReference) (← get).flags.anyCase)
    setRest after
    match c with
    | 'k' =>
      if ← accept "'" then return .expr (.backref (← namedReference "'") (← get).flags.anyCase)
      else if ← accept "<" then return .expr (.backref (← namedReference ">") (← get).flags.anyCase)
      else failure
    | 'A' => return .expr (.anchor .textStart)
    | 'z' => return .expr (.anchor .textEnd)
    | 'b' => return .expr (.anchor (← boundary))
    | 'B' => return .expr (.anchor .notWordBoundary)
    | '<' => return .expr (.anchor .wordStart)
    | '>' => return .expr (.anchor .wordEnd)
    | 'K' => return .expr .keepOut
    | 'O' => return .set .any
    | _ => match commonEscape? c with
      | some read => read
      | none => if c.isAlpha then failure else return .char c

/-- An escape inside brackets; the text stands after the backslash. -/
def bracketEscape : Reader BracketToken := do
  match ← rest with
  | [] => failure
  | c :: after =>
    if c.isDigit then failure
    setRest after
    if c = 'b' then return .literal '\x08'
    match commonEscape? c with
    | some read => match ← read with
      | .char d => return .literal d
      | .set a => return .set a
      | .expr _ => failure
    | none => return .literal c

/-- The tokens of a bracket expression from after its opening bracket to its closing one.
Brackets inside have to be balanced; `depth` of them are open. -/
def bracketTokens : Nat → Nat → Reader (List BracketToken)
  | 0, _ => failure
  | fuel + 1, depth => do
    match ← rest with
    | [] => failure
    | '\\' :: after =>
      setRest after
      let token ← bracketEscape
      return token :: (← bracketTokens fuel depth)
    | '[' :: after =>
      setRest after
      return .raw '[' :: (← bracketTokens fuel (depth + 1))
    | ']' :: after =>
      setRest after
      if depth = 0 then return [.raw ']']
      return .raw ']' :: (← bracketTokens fuel (depth - 1))
    | c :: after =>
      setRest after
      return .raw c :: (← bracketTokens fuel depth)

/-- A bracket expression, from after its opening bracket. -/
def bracket : Reader CharClass := do
  let caret : List BracketToken := if ← accept "^" then [.raw '^'] else []
  let first : List BracketToken := if ← accept "]" then [.raw ']'] else []
  let tokens ← bracketTokens ((← rest).length + 1) 0
  match Bracket.read? (← get).flags.anyCase (caret ++ first ++ tokens) with
  | some a => return a
  | none => failure

/-- One option, switched on or off. -/
def setFlag (c : Char) (on : Bool) (f : Flags) : Option Flags :=
  match c with
  | 'i' => some { f with anyCase := on }
  | 'm' => some { f with multiLine := on }
  | 's' => some { f with dotNewline := on }
  | 'U' => some { f with swapGreed := on }
  | 'x' => some { f with spaced := on }
  | 'u' => if on then some f else none
  | _ => none

/-- Options up to `)` or `:`; tells whether a group follows. `last` is the character before. -/
def flags : Nat → Bool → Option Char → Reader Bool
  | 0, _, _ => failure
  | fuel + 1, negated, last => do
    skip
    match ← rest with
    | [] => failure
    | c :: after =>
      setRest after
      let open? := last == some '-'
      if c = ')' then
        if last.isNone || open? then failure
        return false
      else if c = ':' then
        if open? then failure
        return true
      else if c = '-' then
        if negated then failure
        flags fuel true (some c)
      else
        match setFlag c (!negated) (← get).flags with
        | some f =>
          modify fun s => { s with flags := f }
          flags fuel negated (some c)
        | none => failure

/-- Groups may be nested less deep than this. -/
def maxDepth : Nat := 64

/-- Opens the next group and gives its index. -/
def openGroup : Reader Nat := do
  modify fun s => { s with groups := s.groups + 1 }
  return (← get).groups

/-- Opens the next group under a name. -/
def openNamed (stop : String) : Reader Nat := do
  let index ← openGroup
  let n ← name stop
  modify fun s => { s with names := (n, index) :: s.names }
  return index

/-- A condition before its two branches: a test for a group where a reference is written. -/
def asTest : Expr → Expr
  | .backref n _ => .ifGroup n
  | e => e

/-- The branches of a conditional: the first alternative, and all others. -/
def branches : Expr → Expr × Expr
  | .alt (yes :: [no]) => (yes, no)
  | .alt (yes :: no) => (yes, .alt no)
  | e => (e, .empty)

mutual

/-- Alternatives, up to the end or a closing parenthesis. -/
def alternatives : Nat → Nat → Reader Expr
  | 0, _ => failure
  | fuel + 1, depth => do
    let first ← branch fuel depth
    skip
    match ← rest with
    | '|' :: _ => return .alt (first :: (← moreAlternatives fuel depth))
    | _ =>
      let s ← get
      if s.numbered && !s.names.isEmpty then failure
      return first

def moreAlternatives : Nat → Nat → Reader (List Expr)
  | 0, _ => failure
  | fuel + 1, depth => do
    if ← accept "|" then
      let e ← branch fuel depth
      skip
      return e :: (← moreAlternatives fuel depth)
    else return []

/-- The pieces side by side in one alternative. -/
def branch : Nat → Nat → Reader Expr
  | 0, _ => failure
  | fuel + 1, depth => do
    match ← pieces fuel depth with
    | [] => return .empty
    | [e] => return e
    | es => return .concat es

def pieces : Nat → Nat → Reader (List Expr)
  | 0, _ => failure
  | fuel + 1, depth => do
    let before := (← rest).length
    if before = 0 then return []
    let e ← piece fuel depth
    if (← rest).length = before then return []
    let more ← pieces fuel depth
    return if e.isEmpty then more else e :: more

/-- An atom with the quantifier after it, if there is one. -/
def piece : Nat → Nat → Reader Expr
  | 0, _ => failure
  | fuel + 1, depth => do
    let e ← atom fuel depth
    skip
    let s ← get
    let quantifier : Option (Nat × Option Nat × List Char) := match s.rest with
      | '?' :: after => some (0, some 1, after)
      | '*' :: after => some (0, none, after)
      | '+' :: after => some (1, none, after)
      | '\x7b' :: after => bounds? s.flags.spaced after
      | _ => none
    match quantifier with
    | none => return e
    | some (lo, hi, after) =>
      if !e.isRepeatable then failure
      setRest after
      skip
      let lazily ← accept "?"
      let looped := Expr.loop e lo hi (lazily == s.flags.swapGreed)
      if ← accept "+" then return .atomic looped
      return looped

def atom : Nat → Nat → Reader Expr
  | 0, _ => failure
  | fuel + 1, depth => do
    skip
    let s ← get
    match s.rest with
    | [] => return .empty
    | c :: after =>
      match c with
      | '.' =>
        setRest after
        return .char (if s.flags.dotNewline then .any else .notNewline)
      | '^' =>
        setRest after
        return .anchor (if s.flags.multiLine then .lineStart else .textStart)
      | '$' =>
        setRest after
        return .anchor (if s.flags.multiLine then .lineEnd else .textEnd)
      | '(' =>
        setRest after
        group fuel (depth + 1)
      | '\\' =>
        setRest after
        match ← escape with
        | .char d => return .char (.literal s.flags.anyCase d)
        | .set a => return .char a
        | .expr e => return e
      | '[' =>
        setRest after
        return .char (← bracket)
      | '?' | '*' | '+' | '|' | ')' => return .empty
      | _ =>
        setRest after
        return .char (.literal s.flags.anyCase c)

/-- A group, from after its opening parenthesis. -/
def group : Nat → Nat → Reader Expr
  | 0, _ => failure
  | fuel + 1, depth => do
    if maxDepth ≤ depth then failure
    skip
    let inside (wrap : Expr → Expr) : Reader Expr := do
      let e ← alternatives fuel depth
      close
      return wrap e
    if ← accept "?=" then inside (.look false false)
    else if ← accept "?!" then inside (.look false true)
    else if ← accept "?<=" then inside (.look true false)
    else if ← accept "?<!" then inside (.look true true)
    else if ← accept "?<" then inside (.group (← openNamed ">"))
    else if ← accept "?'" then inside (.group (← openNamed "'"))
    else if ← accept "?P<" then inside (.group (← openNamed ">"))
    else if ← accept "?P=" then return .backref (← namedReference ")") (← get).flags.anyCase
    else if ← accept "?>" then inside .atomic
    else if ← accept "?(" then conditional fuel depth
    else if ← accept "?" then
      let before := (← get).flags
      if ← flags ((← rest).length + 1) false none then
        let e ← alternatives fuel depth
        if !(← accept ")") then failure
        modify fun s => { s with flags := before }
        return e
      else return .empty
    else inside (.group (← openGroup))

/-- A conditional, from after the parenthesis that opens its condition. -/
def conditional : Nat → Nat → Reader Expr
  | 0, _ => failure
  | fuel + 1, depth => do
    let test ← match ← rest with
      | [] => failure
      | c :: after =>
        if c.isDigit then pure (Expr.backref (← numberedReference) false)
        else if c = '\'' then
          setRest after
          pure (Expr.backref (← namedReference "'") false)
        else if c = '<' then
          setRest after
          pure (Expr.backref (← namedReference ">") false)
        else alternatives fuel depth
    close
    let before := (← rest).length
    let e ← alternatives fuel depth
    if (← rest).length = before then
      close
      match test with
      | .backref n _ => return .ifGroup n
      | _ => failure
    else
      let (yes, no) := branches e
      close
      if yes.isEmpty && no.isEmpty then return asTest test
      return .conditional (asTest test) yes no

end

end Reader

/-- The expression of a pattern and the number of its groups, with the given options in force at
its start; none if the pattern is refused. -/
def Expr.read? (flags : Flags) (source : List Char) : Option (Expr × Nat) :=
  match (Reader.alternatives (8 * source.length + 8) 0).run { rest := source, flags } with
  | some (e, s) => if s.rest.isEmpty then some (e, s.groups) else none
  | none => none

end Tincture.Pattern
