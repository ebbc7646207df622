/-!
# Splitting a text

Text is a list of characters throughout. Splitting cuts it at every character that satisfies a
condition; no piece holds such a character (`not_of_mem_splitWhen`), and there is always at least
one piece.
-/

namespace Tincture.Text

/-- The pieces of a text between the characters at which it is split, the empty ones included. -/
def splitWhen (p : Char → Bool) : List Char → List (List Char)
  | [] => [[]]
  | c :: rest =>
    if p c then [] :: splitWhen p rest
    else match splitWhen p rest with
      | [] => [[c]]
      | piece :: more => (c :: piece) :: more

/-- The pieces of a text between the occurrences of one character. -/
def splitOn (sep : Char) (s : List Char) : List (List Char) :=
  splitWhen (· == sep) s

theorem splitWhen_ne_nil (p : Char → Bool) (s : List Char) : splitWhen p s ≠ [] := by
  cases s with
  | nil => simp [splitWhen]
  | cons c rest =>
    rw [splitWhen]
    split
    · simp
    · split <;> simp

/-- No piece holds a character at which the text was split. -/
theorem not_of_mem_splitWhen {p : Char → Bool} {s piece : List Char} (h : piece ∈ splitWhen p s)
    {c : Char} (hc : c ∈ piece) : p c = false := by
  induction s generalizing piece with
  | nil => simp_all [splitWhen]
  | cons x rest ih =>
    rw [splitWhen] at h
    split at h
    · rcases List.mem_cons.1 h with rfl | h
      · simp at hc
      · exact ih h hc
    · rename_i hx
      have hx' : p x = false := by simpa using hx
      split at h
      · rename_i hs
        exact absurd hs (splitWhen_ne_nil p rest)
      · rename_i first more hs
        rcases List.mem_cons.1 h with rfl | h
        · rcases List.mem_cons.1 hc with rfl | hc
          · exact hx'
          · exact ih (by simp [hs]) hc
        · exact ih (by simp [hs, h]) hc

/-! ### Separators -/

theorem splitOn_cons_self (sep : Char) (s : List Char) :
    splitOn sep (sep :: s) = [] :: splitOn sep s := by
  rw [splitOn, splitWhen, if_pos (beq_self_eq_true sep)]
  rfl

/-- A character that is no separator goes to the first piece. -/
theorem exists_splitOn_cons_of_ne {sep c : Char} (h : c ≠ sep) (s : List Char) :
    ∃ piece more, splitOn sep s = piece :: more ∧
      splitOn sep (c :: s) = (c :: piece) :: more := by
  obtain ⟨piece, more, hs⟩ := List.exists_cons_of_ne_nil (splitWhen_ne_nil (· == sep) s)
  refine ⟨piece, more, hs, ?_⟩
  rw [splitOn, splitWhen, if_neg (by simpa using h), hs]

theorem splitOn_ne_nil (sep : Char) (s : List Char) : splitOn sep s ≠ [] :=
  splitWhen_ne_nil _ s

end Tincture.Text
