import Mathlib.Algebra.Group.Nat.Even
import Mathlib.Data.List.DropRight

/-!
# Texts that leave nothing escaped

In a pattern a backslash stands together with the character after it, so that of a run of
backslashes every second one is escaped itself. A text that ends with an even number of them leaves
what follows it alone (`EscapeClosed`), and a reader that comes to its end has read whole pairs. The
laws of one character at the front are those by which such a reader goes.
-/

namespace Tincture.Text

/-- What follows the text is not escaped by it: an even number of backslashes stands at its end. -/
def EscapeClosed (s : List Char) : Prop :=
  Even (s.rtakeWhile (· = '\\')).length

@[simp] theorem escapeClosed_nil : EscapeClosed [] := by
  simp [EscapeClosed]

/-- Only a backslash that is not escaped itself escapes what follows. -/
theorem escapeClosed_concat (s : List Char) (c : Char) :
    EscapeClosed (s ++ [c]) ↔ (c = '\\' → ¬ EscapeClosed s) := by
  by_cases hc : c = '\\'
  · simp [EscapeClosed, hc, Nat.even_add_one]
  · simp [EscapeClosed, hc]

theorem not_escapeClosed_backslash : ¬ EscapeClosed ['\\'] := by
  simp [EscapeClosed, List.rtakeWhile]

/-- A pair at the front is read as a whole, whatever its second character is. -/
@[simp] theorem escapeClosed_pair (c : Char) (s : List Char) :
    EscapeClosed ('\\' :: c :: s) ↔ EscapeClosed s := by
  -- both sides look at the end of the text, so the induction is from there
  induction s using List.reverseRecOn with
  | nil =>
    rw [show ['\\', c] = ['\\'] ++ [c] from rfl, escapeClosed_concat]
    simp [not_escapeClosed_backslash]
  | append_singleton s d ih =>
    rw [show '\\' :: c :: (s ++ [d]) = ('\\' :: c :: s) ++ [d] from rfl, escapeClosed_concat,
      escapeClosed_concat, ih]

/-- A character at the front that is no backslash is read by itself. -/
theorem escapeClosed_cons {c : Char} (hc : c ≠ '\\') (s : List Char) :
    EscapeClosed (c :: s) ↔ EscapeClosed s := by
  induction s using List.reverseRecOn with
  | nil => simp [EscapeClosed, List.rtakeWhile, hc]
  | append_singleton s d ih =>
    rw [← List.cons_append, escapeClosed_concat, escapeClosed_concat, ih]

/-- A closed text with no pair at the front has no backslash there. -/
theorem EscapeClosed.ne_backslash {c : Char} {s : List Char} (h : EscapeClosed (c :: s))
    (hpair : ∀ d t, c = '\\' → s = d :: t → False) : c ≠ '\\' := by
  rintro rfl
  cases s with
  | nil => exact not_escapeClosed_backslash h
  | cons d t => exact hpair d t rfl rfl

/-- A text that leaves the next character escaped is closed but for its last backslash. -/
theorem exists_of_not_escapeClosed {s : List Char} (h : ¬ EscapeClosed s) :
    ∃ a, s = a ++ ['\\'] ∧ EscapeClosed a := by
  induction s using List.reverseRecOn with
  | nil => simp at h
  | append_singleton a c ih =>
    rw [escapeClosed_concat] at h
    push Not at h
    exact ⟨a, by rw [h.1], h.2⟩

end Tincture.Text
