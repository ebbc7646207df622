/-!
# References back from an end pattern

The pattern that ends a region may refer to what the pattern that began it captured: `\1` stands for
the text of group 1. Such a pattern is completed when the region begins, with the captured text
escaped so that it stands for itself.
-/

namespace Tincture.BackReference

/-- The group that a character after a backslash refers to. -/
def group? (c : Char) : Option Nat :=
  if c.isDigit ∧ c ≠ '0' then some (c.toNat - '0'.toNat) else none

/-- Whether a pattern refers to a group. -/
def occursIn : List Char → Bool
  | [] => false
  | '\\' :: c :: rest => (group? c).isSome || occursIn rest
  | _ :: rest => occursIn rest

/-- The characters that mean something in a pattern. -/
def isMeta (c : Char) : Bool :=
  "\\.+*?()|[]\x7b\x7d^$#".toList.contains c

/-- A text as a pattern that matches exactly it. -/
def escape (s : List Char) : List Char :=
  s.flatMap fun c => if isMeta c then ['\\', c] else [c]

/-- A pattern in which the references are replaced by the texts of the groups. -/
def substitute (group : Nat → List Char) : List Char → List Char
  | [] => []
  | '\\' :: c :: rest =>
    match group? c with
    | some n => escape (group n) ++ substitute group rest
    | none => '\\' :: c :: substitute group rest
  | c :: rest => c :: substitute group rest

/-- Nothing is replaced in a pattern that refers to no group. -/
theorem substitute_of_not_occursIn (group : Nat → List Char) (s : List Char)
    (h : occursIn s = false) : substitute group s = s := by
  fun_induction substitute group s with
  | case1 => rfl
  | case2 c rest n hn ih => simp [occursIn, hn] at h
  | case3 c rest hn ih =>
    simp only [occursIn, hn, Option.isSome_none, Bool.false_or] at h
    rw [ih h]
  | case4 c rest hc ih =>
    rw [ih]
    cases rest with
    | nil => rfl
    | cons d rest =>
      rw [occursIn] at h
      · exact h
      · intro e rest' hc' heq
        exact hc e rest' hc' heq

end Tincture.BackReference
