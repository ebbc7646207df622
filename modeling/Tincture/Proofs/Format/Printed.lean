import Tincture.Proofs.Format.LaidOut
import Tincture.Proofs.Text.WrittenLines

/-!
# Printed documents

A document is formatted just if the settings are in order and it has lines (`format_eq_ok_iff`). What is
printed is what its lines give, but for some of the empty lines (`filter_formattedLines`), and it is read
line by line as it was written (`lines_printed`), and has lines again (`documentLines_printed`).
-/

namespace Tincture.Format

open Text

variable {config : FormatConfig} {source out : List Char} {ls : List Line}

theorem format_eq_ok_iff :
    format config source = .ok out ↔ config.check = .ok () ∧
      ∃ ls, documentLines config.tabSpaces source = .ok ls ∧
        out = unlines (formattedLines config ls) := by
  cases hcheck : config.check with
  | error e => simp [format, hcheck, bind, Except.bind]
  | ok u =>
    cases hlines : documentLines config.tabSpaces source with
    | error e => simp [format, hcheck, hlines, bind, Except.bind]
    | ok ls => simp [format, hcheck, hlines, bind, Except.bind, pure, Except.pure, eq_comm]

/-! ### What is left out -/

/-- Only empty lines are left out. -/
theorem filter_formattedLines (config : FormatConfig) (ls : List Line) :
    (formattedLines config ls).filter (· ≠ []) =
      (ls.flatMap (Line.layOut config)).filter (· ≠ []) := by
  rw [formattedLines, filter_dropEmptyEnd, filter_capBlanks]

theorem flatten_formattedLines (config : FormatConfig) (ls : List Line) :
    (formattedLines config ls).flatten = (ls.flatMap (Line.layOut config)).flatten := by
  rw [← List.flatten_filter_ne_nil (L := formattedLines config ls), filter_formattedLines,
    List.flatten_filter_ne_nil]

theorem mem_layOut_of_mem_formattedLines {u : List Char} (hu : u ∈ formattedLines config ls)
    (hne : u ≠ []) : u ∈ ls.flatMap (Line.layOut config) :=
  mem_of_filter_eq (filter_formattedLines config ls) hu hne

/-! ### Reading it again -/

/-- What a written line is read as. -/
def readBack (text : List Char) : List Char :=
  stripReturn (stripReturn text)

theorem readBack_of_getLast?_ne {text : List Char} (h : text.getLast? ≠ some '\r') :
    readBack text = text := by
  rw [readBack, stripReturn_of_getLast?_ne h, stripReturn_of_getLast?_ne h]

theorem rawAfter_readBack (inRaw : Bool) (text : List Char) :
    rawAfter inRaw (readBack text) = rawAfter inRaw text := by
  rw [readBack, rawAfter_stripReturn, rawAfter_stripReturn]

theorem ofText_readBack (tabSpaces number depth : Nat) (text : List Char) :
    Line.ofText tabSpaces number depth (readBack text) =
      Line.ofText tabSpaces number depth text := by
  simp only [Line.ofText, readBack, trimEnd_stripReturn]

theorem mem_of_mem_sourceLines {text : List Char} (h : text ∈ sourceLines source) {c : Char}
    (hc : c ∈ text) : c ∈ source ∧ c ≠ '\n' := by
  obtain ⟨l, hl, rfl⟩ := List.mem_map.mp h
  have hc : c ∈ l := (stripReturn_prefix_self l).subset hc
  refine ⟨mem_of_mem_lines hl hc, ?_⟩
  rintro rfl
  exact not_mem_of_mem_lines hl hc

/-- The characters of what is printed, line by line. -/
theorem mem_of_mem_formattedLines (h : documentLines config.tabSpaces source = .ok ls)
    {u : List Char} (hu : u ∈ formattedLines config ls) {c : Char} (hc : c ∈ u) :
    c ≠ '\n' ∧ (c ∈ source ∨ c = ',' ∨ c = ' ') := by
  obtain ⟨line, hline, hu⟩ := List.mem_flatMap.mp
    (mem_layOut_of_mem_formattedLines hu (List.ne_nil_of_mem hc))
  obtain ⟨-, rfl⟩ := documentLines_eq_ok_iff.mp h
  obtain ⟨number, inRaw, depth, text, htext, rfl⟩ := exists_read_of_mem_readLines _ hline
  have hmem : c ∈ text ∨ c = ',' ∨ c = ' ' := by
    cases inRaw with
    | true =>
      rw [layOut_read_true, List.mem_singleton] at hu
      exact .inl (hu ▸ hc)
    | false => exact mem_of_mem_layOut hu hc
  rcases hmem with hc | rfl | rfl
  · obtain ⟨hsource, hne⟩ := mem_of_mem_sourceLines htext hc
    exact ⟨hne, .inl hsource⟩
  · simp
  · simp

/-- **What is printed** is read line by line as it was written. -/
theorem lines_printed (h : documentLines config.tabSpaces source = .ok ls) :
    lines (unlines (formattedLines config ls)) = (formattedLines config ls).map stripReturn :=
  lines_unlines fun _ hu hc => (mem_of_mem_formattedLines h hu hc).1 rfl

theorem sourceLines_printed (h : documentLines config.tabSpaces source = .ok ls) :
    sourceLines (unlines (formattedLines config ls)) = (formattedLines config ls).map readBack := by
  rw [sourceLines, lines_printed h, List.map_map]
  rfl

theorem not_mem_of_mem_formattedLines (h : documentLines config.tabSpaces source = .ok ls)
    (hreturn : '\r' ∉ source) {u : List Char} (hu : u ∈ formattedLines config ls) : '\r' ∉ u := by
  intro hc
  rcases (mem_of_mem_formattedLines h hu hc).2 with hsource | hcomma | hblank
  · exact hreturn hsource
  · exact absurd hcomma (by decide)
  · exact absurd hblank (by decide)

theorem lines_printed_of_not_mem (h : documentLines config.tabSpaces source = .ok ls)
    (hreturn : '\r' ∉ source) :
    lines (unlines (formattedLines config ls)) = formattedLines config ls := by
  rw [lines_printed h, List.map_congr_left fun u hu =>
    stripReturn_of_not_mem (not_mem_of_mem_formattedLines h hreturn hu), List.map_id']

/-! ### Its lines -/

/-- What is printed leaves no raw block open. -/
theorem foldl_rawAfter_formattedLines (h : documentLines config.tabSpaces source = .ok ls) :
    (formattedLines config ls).foldl rawAfter false = false := by
  obtain ⟨hclosed, rfl⟩ := documentLines_eq_ok_iff.mp h
  rw [← foldl_rawAfter_filter, filter_formattedLines, foldl_rawAfter_filter,
    foldl_rawAfter_flatMap, hclosed]

/-- **What is printed** has lines of its own, those of its texts without carriage returns at the end. -/
theorem documentLines_printed (h : documentLines config.tabSpaces source = .ok ls) :
    documentLines config.tabSpaces (unlines (formattedLines config ls)) =
      .ok (readLines config.tabSpaces 1 false 0 ((formattedLines config ls).map readBack)) := by
  rw [documentLines_eq_ok_iff, sourceLines_printed h]
  refine ⟨?_, rfl⟩
  rw [List.foldl_map]
  simp only [rawAfter_readBack]
  exact foldl_rawAfter_formattedLines h

end Tincture.Format
