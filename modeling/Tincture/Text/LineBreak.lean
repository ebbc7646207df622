/-!
# Line breaks

A text that is edited is cut into lines at every line break of Unicode: line feed, carriage return,
both together, vertical tab, form feed, next line, and the line and paragraph separators. Each line
keeps the break that ends it, so that the lines together are the text (`flatten_brokenLines`), and
after the last break there is one more line, which may be empty.
-/

namespace Tincture.Text

/-- Whether a character ends a line. A carriage return does so together with a line feed that
follows it. -/
def isLineBreak (c : Char) : Bool :=
  c == '\n' || c == '\x0b' || c == '\x0c' || c == '\r' || c == '\u0085' || c == '\u2028'
    || c == '\u2029'

/-- A character put before the first line. -/
def consLine (c : Char) : List (List Char) → List (List Char)
  | [] => [[c]]
  | l :: rest => (c :: l) :: rest

/-- The lines of a text, with the breaks that end them. -/
def brokenLines : List Char → List (List Char)
  | [] => [[]]
  | '\r' :: '\n' :: rest => ['\r', '\n'] :: brokenLines rest
  | c :: rest => if isLineBreak c then [c] :: brokenLines rest else consLine c (brokenLines rest)

/-- The number of breaks that end at or before a place, counted in characters. A place between a
carriage return and its line feed is before their break. -/
def lineAt : List Char → Nat → Nat
  | [], _ => 0
  | _, 0 => 0
  | '\r' :: '\n' :: _, 1 => 0
  | '\r' :: '\n' :: rest, n + 2 => lineAt rest n + 1
  | c :: rest, n + 1 => lineAt rest n + if isLineBreak c then 1 else 0

/-- The place where a line starts. -/
def lineStart (s : List Char) (line : Nat) : Nat :=
  ((brokenLines s).take line).flatten.length

/-- A line without the line feed at its end and a carriage return before that; other breaks stay. -/
def trimLineFeed (line : List Char) : List Char :=
  match line.reverse with
  | '\n' :: '\r' :: rest => rest.reverse
  | '\n' :: rest => rest.reverse
  | _ => line

theorem flatten_consLine (c : Char) (ls : List (List Char)) :
    (consLine c ls).flatten = c :: ls.flatten := by
  cases ls <;> simp [consLine]

/-- The lines of a text together are the text. -/
theorem flatten_brokenLines (s : List Char) : (brokenLines s).flatten = s := by
  fun_induction brokenLines s with
  | case1 => rfl
  | case2 rest ih => simp [ih]
  | case3 c rest _ h ih => simp [ih]
  | case4 c rest _ h ih => rw [flatten_consLine, ih]

theorem brokenLines_ne_nil (s : List Char) : brokenLines s ≠ [] := by
  fun_cases brokenLines s with
  | case1 => simp
  | case2 => simp
  | case3 => simp
  | case4 c rest => cases h : brokenLines rest <;> simp [consLine]

end Tincture.Text
