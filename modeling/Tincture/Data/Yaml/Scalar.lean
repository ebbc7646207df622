import Tincture.Data.Basic
import Tincture.Data.Yaml.Token
import Tincture.Text.Number

/-!
# Writing texts in YAML

A text is written without quotes where it then reads as that text and nothing else. Else it is put
between single quotes, or between double ones if some of its characters cannot be seen. A text with
line feeds is written line by line below its key.
-/

namespace Tincture.Data.Yaml

open Text

/-! ### What a text without quotes would be read as -/

/-- Whether a text is written like a number with a fraction or an exponent that double precision
can hold. -/
def isDecimalWord (s : List Char) : Bool :=
  let s := match s with
    | '-' :: rest => rest
    | s => s
  let whole := s.takeWhile Char.isDigit
  let s := s.drop whole.length
  let (fraction, s) := match s with
    | '.' :: rest => (rest.takeWhile Char.isDigit, rest.dropWhile Char.isDigit)
    | s => ([], s)
  let digits := whole ++ fraction
  if digits.isEmpty then false
  else match s with
    | [] => fitsDouble digits (-fraction.length)
    | c :: rest =>
      let (sign, rest) : Int × List Char := match rest with
        | '-' :: rest => (-1, rest)
        | '+' :: rest => (1, rest)
        | rest => (1, rest)
      (c == 'e' || c == 'E') && !rest.isEmpty && rest.all Char.isDigit
        && fitsDouble digits (sign * exponentValue rest - fraction.length)

/-- Whether a text is written like a number that is no integer. -/
def isFloatWord (s : List Char) : Bool :=
  let positive := match s with
    | '+' :: rest => rest
    | s => s
  [".inf", ".Inf", ".INF"].contains (String.ofList positive)
    || ["-.inf", "-.Inf", "-.INF", ".nan", ".NaN", ".NAN"].contains (String.ofList s)
    || (isDecimalWord positive && !(s.head? == some '+' && positive.head? == some '-'))

/-- Whether a text is made of digits that no number starts with. -/
def isPaddedDigits (s : List Char) : Bool :=
  match (match s with
    | '+' :: rest | '-' :: rest => rest
    | s => s) with
  | '0' :: d :: rest => (d :: rest).all Char.isDigit
  | _ => false

/-- Whether a text without quotes would not be read as a text. -/
def isWord (s : List Char) : Bool :=
  let t := String.ofList s
  isNullWord t || (boolWord? t).isSome || isPaddedDigits s || isFloatWord s
    || (intWord? t).any fun n => -Int.pow 2 127 ≤ n && n < Int.pow 2 128

/-! ### What a text can be written in -/

/-- Whether a character is written as it is. -/
def isVisible (c : Char) : Bool :=
  isAllowed c && c != '\t' && c != '\r' && c != '\u0085'

/-- Whether two characters that satisfy conditions follow each other in a text. -/
def hasAdjacent (p q : Char → Bool) : List Char → Bool
  | a :: b :: rest => (p a && q b) || hasAdjacent p q (b :: rest)
  | _ => false

/-- Whether a character after the first one, whose neighbours are given, starts something else than
a text. -/
def isInnerIndicator (before : Option Char) (c : Char) (after : Option Char) : Bool :=
  (c == ':' && isGap after) || (c == '#' && isGap before)

/-- Whether one of the characters after the first one starts something else than a text. -/
def hasInnerIndicator : List Char → Bool
  | a :: b :: rest => isInnerIndicator (some a) b rest.head? || hasInnerIndicator (b :: rest)
  | _ => false

/-- Whether a text starts or contains something else than a text. -/
def hasIndicator (s : List Char) : Bool :=
  match s with
  | [] => false
  | c :: rest =>
    ['-', '-', '-'].isPrefixOf s || ['.', '.', '.'].isPrefixOf s
      || "#,[]\x7b\x7d&*!|>'\"%@`".toList.contains c
      || ((c == '?' || c == ':' || c == '-') && isGap rest.head?)
      || hasInnerIndicator s

/-- How a text is written. -/
inductive QuoteStyle where
  | plain
  | single
  | double
  | literal
  deriving DecidableEq, Repr

/-- The style of a text. -/
def QuoteStyle.of (s : List Char) : QuoteStyle :=
  let isSpace (c : Char) : Bool := c == ' '
  let isEdge (c : Option Char) : Bool := c.any fun c => isSpace c || isBreak c
  let quotedOnly := s.any (!isVisible ·) || hasAdjacent isSpace isBreak s
  if s.contains '\n' then
    if quotedOnly || s.getLast? == some ' ' then double else literal
  else if quotedOnly || hasAdjacent isBreak isSpace s then double
  else if isWord s || isEdge s.head? || isEdge s.getLast? || s.any isBreak || hasIndicator s then
    single
  else plain

/-! ### Writing -/

/-- Blanks. -/
def blanks (n : Nat) : List Char :=
  List.replicate n ' '

/-- A text between single quotes, where a quote is written twice and each line after the first one
is indented. -/
def singleQuoted (indent : Nat) : (lineStart : Bool) → List Char → List Char
  | lineStart, [] => (if lineStart then blanks indent else []) ++ ['\'']
  | lineStart, c :: rest =>
    if isBreak c then c :: singleQuoted indent true rest
    else (if lineStart then blanks indent else []) ++ (if c = '\'' then ['\'', '\''] else [c])
      ++ singleQuoted indent false rest

/-- Hexadecimal digits up to a width. -/
def hexDigits (width n : Nat) : List Char :=
  let digits := (Nat.toDigits 16 n).map Char.toUpper
  List.replicate (width - digits.length) '0' ++ digits

/-- A character between double quotes. -/
def doubleQuotedChar (c : Char) : List Char :=
  if isVisible c && !isBreak c && c != '"' && c != '\\' then [c]
  else '\\' :: match c with
    | '\x00' => ['0']
    | '\x07' => ['a']
    | '\x08' => ['b']
    | '\t' => ['t']
    | '\n' => ['n']
    | '\x0b' => ['v']
    | '\x0c' => ['f']
    | '\r' => ['r']
    | '\x1b' => ['e']
    | '"' => ['"']
    | '\\' => ['\\']
    | '\u0085' => ['N']
    | '\u2028' => ['L']
    | '\u2029' => ['P']
    | c =>
      if c.toNat ≤ 0xFF then 'x' :: hexDigits 2 c.toNat
      else if c.toNat ≤ 0xFFFF then 'u' :: hexDigits 4 c.toNat
      else 'U' :: hexDigits 8 c.toNat

/-- The lines of a text, each of them indented unless it is empty. -/
def literalBody (indent : Nat) : (lineStart : Bool) → List Char → List Char
  | _, [] => []
  | lineStart, c :: rest =>
    if isBreak c then c :: literalBody indent true rest
    else (if lineStart then blanks indent else []) ++ c :: literalBody indent false rest

/-- What says how a text below its key is indented and which of its last line breaks count. -/
def literalHeader (s : List Char) : List Char :=
  let hint := if s.head?.any fun c => c == ' ' || isBreak c then ['2'] else []
  let ends := match s.reverse with
    | a :: b :: _ => if !isBreak a then ['-'] else if isBreak b then ['+'] else []
    | [a] => if isBreak a then ['+'] else ['-']
    | [] => ['-']
  '|' :: hint ++ ends

/-- A text up to the end of its line; what goes on below is indented. -/
def scalarLine (indent : Nat) (s : List Char) : List Char :=
  match QuoteStyle.of s with
  | .plain => s ++ ['\n']
  | .single => '\'' :: singleQuoted indent false s ++ ['\n']
  | .double => '"' :: s.flatMap doubleQuotedChar ++ ['"', '\n']
  | .literal =>
    literalHeader s ++ '\n' :: literalBody indent true s
      ++ if s.getLast?.any isBreak then [] else ['\n']

end Tincture.Data.Yaml
