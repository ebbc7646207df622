import Tincture.Proofs.Document.Edit
import Tincture.Proofs.Text.LineEndings

/-!
# Columns

A column of a line is a place as many characters behind the start of the line, or the end of what is
shown of the line if that is nearer. That place is on the line if the ending of the line is not shown
with it. But of the line breaks only the line feed is left out (`IsTrimmed`); any other one is a part
of what is shown, and the column behind it is the start of the next line (`column_in_line`).
-/

namespace Tincture.Document

open Text

theorem offset_of_line? {d : Document} {line : Nat} {l : List Char} (h : d.line? line = some l)
    (column : Nat) : d.offset line column = lineStart d.text line + min column l.length := by
  rw [offset, h]

/-- **A column** of a line is that many characters behind the start of the line, or at the end of what
is shown of it; it is on the line, unless one of the breaks that stay ends the line and the column is
behind it: then it is the start of the next line. -/
theorem column_in_line (d : Document) {line : Nat} (hline : line < d.lineCount) (column : Nat) :
    ∃ content ending, (brokenLines d.text)[line]? = some (content ++ ending) ∧
      (∀ c ∈ content, isLineBreak c = false) ∧ LineEnding ending ∧
      d.line? line = some (if IsTrimmed ending then content else content ++ ending) ∧
      d.offset line column = lineStart d.text line +
        min column (if IsTrimmed ending then content.length else content.length + 1) ∧
      lineAt d.text (d.offset line column) =
        if IsTrimmed ending ∨ column ≤ content.length then line else line + 1 := by
  obtain ⟨content, ending, hget, hplain, hending, hon, hbehind⟩ := exists_line hline
  have hshown : d.line? line = some (if IsTrimmed ending then content else content ++ ending) := by
    rw [line?, hget, Option.map_some, trimLineFeed_append hplain hending]
  have hoffset := offset_of_line? hshown column
  refine ⟨content, ending, hget, hplain, hending, hshown, ?_⟩
  by_cases htrimmed : IsTrimmed ending
  · rw [if_pos htrimmed] at hoffset
    rw [hoffset, if_pos htrimmed, if_pos (.inl htrimmed)]
    exact ⟨rfl, hon _ (Nat.min_le_right _ _)⟩
  · -- an ending that stays is one character
    obtain ⟨c, rfl⟩ : ∃ c, ending = [c] := by
      cases hending with
      | none => exact absurd (.inl rfl) htrimmed
      | returnFeed => exact absurd (.inr (.inr rfl)) htrimmed
      | single => exact ⟨_, rfl⟩
    rw [if_neg htrimmed, List.length_append, List.length_singleton] at hoffset
    rw [hoffset, if_neg htrimmed]
    refine ⟨rfl, ?_⟩
    by_cases hcolumn : column ≤ content.length
    · rw [if_pos (.inr hcolumn), Nat.min_eq_left (by omega)]
      exact hon column hcolumn
    · rw [if_neg (not_or.mpr ⟨htrimmed, hcolumn⟩), Nat.min_eq_right (by omega)]
      simpa using hbehind (List.cons_ne_nil c [])

/-- A form feed is shown with the line that it ends, and behind it is the next line. -/
theorem column_in_line_formFeed :
    let d := ofText "a\r\nbc\x0cd".toList
    1 < d.lineCount ∧ ∃ content ending, d.line? 1 = some (content ++ ending) ∧
      LineEnding ending ∧ ¬ IsTrimmed ending ∧ lineAt d.text (d.offset 1 9) = 2 := by
  intro d
  have hline : 1 < d.lineCount := by decide
  obtain ⟨content, ending, -, -, hending, hshown, -, hat⟩ := column_in_line d hline 9
  have hplace : lineAt d.text (d.offset 1 9) = 2 := by decide
  have hstays : ¬ IsTrimmed ending := by
    intro htrimmed
    rw [if_pos (.inl htrimmed), hplace] at hat
    exact absurd hat (by decide)
  rw [if_neg hstays] at hshown
  exact ⟨hline, content, ending, hshown, hending, hstays, hplace⟩

/-- A column can be on the next line, and a line be shown with the break that ends it. -/
theorem not_always_in_line : ¬ ∀ (d : Document) (line column : Nat), line < d.lineCount →
    (∀ l, d.line? line = some l → ∀ c, l.getLast? = some c → isLineBreak c = false) ∧
      lineAt d.text (d.offset line column) = line := by
  intro h
  obtain ⟨-, hline⟩ := h (ofText "a\rb".toList) 0 9 (by decide)
  exact absurd hline (by decide)

end Tincture.Document
