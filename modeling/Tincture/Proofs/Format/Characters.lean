import Tincture.Proofs.Format.Printed

/-!
# The characters of a formatted document

Unless the items of imports are sorted, formatting changes white space only
(`filter_format_of_unsorted`): each line keeps its other characters in their order
(`filter_flatten_layOut`), and so do the lines of a document together.
-/

namespace Tincture.Format

open Text

variable {config : FormatConfig} {source out : List Char}

theorem filter_of_forall_isBlank {s : List Char} (h : ∀ c ∈ s, isBlank c = true) :
    s.filter (!isBlank ·) = [] :=
  List.filter_eq_nil_iff.mpr fun c hc => by simp [h c hc]

theorem filter_trim (s : List Char) : (trim s).filter (!isBlank ·) = s.filter (!isBlank ·) := by
  obtain ⟨lead, trail, hlead, htrail, hs⟩ := exists_eq_append_trim s
  conv_rhs => rw [hs]
  rw [List.filter_append, List.filter_append, filter_of_forall_isBlank hlead,
    filter_of_forall_isBlank htrail, List.nil_append, List.append_nil]

/-- Lines behind white space hold what the lines hold. -/
theorem filter_flatten_map_append {lead : List Char} (h : ∀ c ∈ lead, isBlank c = true)
    (texts : List (List Char)) : (texts.map (lead ++ ·)).flatten.filter (!isBlank ·) =
      texts.flatten.filter (!isBlank ·) := by
  induction texts with
  | nil => rfl
  | cons t texts ih =>
    rw [List.map_cons, List.flatten_cons, List.flatten_cons, List.filter_append, List.filter_append,
      List.filter_append, filter_of_forall_isBlank h, ih, List.nil_append]

/-- A line keeps its characters, unless it is an import and sorted. -/
theorem filter_flatten_layOut {tabSpaces number depth : Nat} {text : List Char}
    (hsort : config.reorderImportItems = false ∨
      (Line.ofText tabSpaces number depth text).kind ≠ .importLine) :
    ((Line.ofText tabSpaces number depth text).layOut config).flatten.filter (!isBlank ·) =
      text.filter (!isBlank ·) := by
  set line := Line.ofText tabSpaces number depth text with hline
  have hindent : ∀ c ∈ line.indent, isBlank c = true := fun c hc => (isBlank_of_mem_indent hc).1
  have hsettled : (line.settled config).filter (!isBlank ·) = text.filter (!isBlank ·) :=
    (filter_settled (by decide) hsort).trans (filter_trim text)
  rw [hline, layOut_ofText, ← hline]
  split_ifs with hnil hwrap
  · rw [filter_of_forall_isBlank (trim_eq_nil_iff.mp hnil)]
    rfl
  · rw [filter_flatten_map_append hindent, filter_flatten_pieces (by decide), hsettled]
  · rw [← List.map_singleton (f := (line.indent ++ ·)), filter_flatten_map_append hindent,
      List.flatten_singleton, hsettled]

/-- So do the lines of a document. -/
theorem filter_flatten_flatMap_layOut (hsort : config.reorderImportItems = false)
    (tabSpaces number depth : Nat) (inRaw : Bool) (texts : List (List Char)) :
    ((readLines tabSpaces number inRaw depth texts).flatMap
      (Line.layOut config)).flatten.filter (!isBlank ·) = texts.flatten.filter (!isBlank ·) := by
  induction texts generalizing number inRaw depth with
  | nil => rfl
  | cons text texts ih =>
    rw [readLines, List.flatMap_cons, List.flatten_append, List.flatten_cons, List.filter_append,
      List.filter_append, ih]
    cases inRaw with
    | true => rw [layOut_read_true, List.flatten_singleton]
    | false => rw [read_false, filter_flatten_layOut (.inl hsort)]

theorem filter_flatten_sourceLines (source : List Char) :
    (sourceLines source).flatten.filter (!isBlank ·) = source.filter (!isBlank ·) := by
  rw [← filter_flatten_lines (s := source) (by decide) (by decide), sourceLines]
  induction lines source with
  | nil => rfl
  | cons l ls ih =>
    rw [List.map_cons, List.flatten_cons, List.flatten_cons, List.filter_append,
      List.filter_append, filter_stripReturn (by decide), ih]

/-- **Formatting loses and invents nothing**: without the sorting of imports, a formatted document
holds the characters of the source that are no white space, in their order. -/
theorem filter_format_of_unsorted (hformat : format config source = .ok out)
    (hsort : config.reorderImportItems = false) :
    out.filter (!isBlank ·) = source.filter (!isBlank ·) := by
  obtain ⟨-, ls, hlines, rfl⟩ := format_eq_ok_iff.mp hformat
  obtain ⟨-, rfl⟩ := documentLines_eq_ok_iff.mp hlines
  rw [filter_unlines (by decide), flatten_formattedLines, filter_flatten_flatMap_layOut hsort,
    filter_flatten_sourceLines]

/-- A paragraph is collapsed and wrapped, four blank lines become two, and all words are there. -/
theorem filter_format_of_unsorted_wrapped :
    let config : FormatConfig :=
      { maxWidth := 12, reorderImportItems := false, collapseMarkupSpaces := true, wrapText := true }
    let source := "\n\tone  two three four\n\n\n\n\n```\n a\n```\nx: [ ] \n".toList
    let out := "  one two\n  three four\n\n\n```\n a\n```\nx: [ ]\n".toList
    format config source = .ok out ∧
      out.filter (!isBlank ·) = source.filter (!isBlank ·) := by
  intro config source out
  have hformat : format config source = .ok out := by decide +kernel
  exact ⟨hformat, filter_format_of_unsorted hformat rfl⟩

end Tincture.Format
