/-!
# Byte offsets

Text is addressed from outside by offsets in its UTF-8 form, and inside by the number of
characters before a place. This module measures a text in bytes and cuts it at byte offsets;
a cut inside a character is refused.
-/

namespace Tincture.Text

/-- The length of a text in UTF-8. -/
def byteLength : List Char → Nat
  | [] => 0
  | c :: rest => c.utf8Size + byteLength rest

@[simp] theorem byteLength_nil : byteLength [] = 0 := rfl

@[simp] theorem byteLength_cons (c : Char) (s : List Char) :
    byteLength (c :: s) = c.utf8Size + byteLength s := rfl

@[simp] theorem byteLength_append (s t : List Char) :
    byteLength (s ++ t) = byteLength s + byteLength t := by
  induction s with
  | nil => simp
  | cons c s ih => simp [ih, Nat.add_assoc]

/-- The text after the first `n` bytes, if no character is cut. -/
def dropBytes? : List Char → Nat → Option (List Char)
  | s, 0 => some s
  | [], _ + 1 => none
  | c :: rest, n + 1 => if c.utf8Size ≤ n + 1 then dropBytes? rest (n + 1 - c.utf8Size) else none

/-- The first `n` bytes of a text, if no character is cut. -/
def takeBytes? : List Char → Nat → Option (List Char)
  | _, 0 => some []
  | [], _ + 1 => none
  | c :: rest, n + 1 =>
    if c.utf8Size ≤ n + 1 then (takeBytes? rest (n + 1 - c.utf8Size)).map (c :: ·) else none

/-- The text between two byte offsets, if they are in order, inside the text, and cut no
character. -/
def sliceBytes? (s : List Char) (start stop : Nat) : Option (List Char) :=
  if start ≤ stop then (dropBytes? s start).bind (takeBytes? · (stop - start)) else none

/-- How many characters lie wholly in the first `n` bytes. -/
def wholeCharsBefore : List Char → Nat → Nat
  | [], _ => 0
  | c :: rest, n => if c.utf8Size ≤ n then 1 + wholeCharsBefore rest (n - c.utf8Size) else 0

/-- How many characters start in the first `n` bytes: the whole ones and the one that is cut. -/
def charsBefore : List Char → Nat → Nat
  | [], _ => 0
  | c :: rest, n => if n = 0 then 0 else 1 + charsBefore rest (n - c.utf8Size)

end Tincture.Text
