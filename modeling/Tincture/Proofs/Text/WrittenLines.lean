import Mathlib.Data.List.Basic
import Tincture.Text.Blank
import Tincture.Text.Lines

/-!
# Lines that are written and read

Lines without line feeds, each ended by one, are read as they were written, up to one carriage return
at the end of each (`lines_unlines`). The lines of a text hold all its characters but line feeds and
those carriage returns, in their order (`filter_flatten_lines`).
-/

namespace Tincture.Text

/-! ### What texts share -/

/-- What is kept of two texts alike, but for one element, is in both. -/
theorem mem_of_filter_eq {α : Type} [DecidableEq α] {s t : List α} {a b : α}
    (h : s.filter (· ≠ b) = t.filter (· ≠ b)) (ha : a ∈ s) (hne : a ≠ b) : a ∈ t := by
  have hmem : a ∈ s.filter (· ≠ b) := List.mem_filter.mpr ⟨ha, by simpa using hne⟩
  rw [h] at hmem
  exact List.mem_of_mem_filter hmem

/-! ### Pieces -/

theorem splitOn_of_not_mem {sep : Char} {s : List Char} (h : sep ∉ s) : splitOn sep s = [s] := by
  induction s with
  | nil => rfl
  | cons c s ih =>
    obtain ⟨hc, hs⟩ := List.ne_and_not_mem_of_not_mem_cons h
    obtain ⟨piece, more, hsplit, hcons⟩ := exists_splitOn_cons_of_ne hc.symm s
    rw [ih hs] at hsplit
    obtain ⟨rfl, rfl⟩ := List.cons_eq_cons.mp hsplit
    exact hcons

/-- The pieces on both sides of a separator. -/
theorem splitOn_append_sep (sep : Char) (s t : List Char) :
    splitOn sep (s ++ sep :: t) = splitOn sep s ++ splitOn sep t := by
  induction s with
  | nil => exact splitOn_cons_self sep t
  | cons c s ih =>
    by_cases hc : c = sep
    · rw [hc, List.cons_append, splitOn_cons_self, splitOn_cons_self, ih, List.cons_append]
    · obtain ⟨piece, more, hs, hcons⟩ := exists_splitOn_cons_of_ne hc s
      obtain ⟨piece', more', hs', hcons'⟩ := exists_splitOn_cons_of_ne hc (s ++ sep :: t)
      rw [ih, hs, List.cons_append] at hs'
      obtain ⟨rfl, rfl⟩ := List.cons_eq_cons.mp hs'
      rw [List.cons_append, hcons', hcons, List.cons_append]

/-- A piece ends at the first separator. -/
theorem splitOn_append_cons {sep : Char} {s : List Char} (h : sep ∉ s) (t : List Char) :
    splitOn sep (s ++ sep :: t) = s :: splitOn sep t := by
  rw [splitOn_append_sep, splitOn_of_not_mem h, List.singleton_append]

/-- The pieces together are the text without its separators. -/
theorem flatten_splitOn (sep : Char) (s : List Char) :
    (splitOn sep s).flatten = s.filter (· ≠ sep) := by
  induction s with
  | nil => rfl
  | cons c s ih =>
    by_cases hc : c = sep
    · subst hc
      simp [splitOn_cons_self, ih]
    · obtain ⟨piece, more, hsplit, hcons⟩ := exists_splitOn_cons_of_ne hc s
      calc (splitOn sep (c :: s)).flatten = c :: (splitOn sep s).flatten := by
            rw [hcons, hsplit, List.flatten_cons, List.flatten_cons, List.cons_append]
        _ = (c :: s).filter (· ≠ sep) := by rw [ih, List.filter_cons_of_pos (by simpa using hc)]

/-- What stands before a text goes to its first piece. -/
theorem exists_splitOn_append_left {sep : Char} {t : List Char} (h : sep ∉ t) (s : List Char) :
    ∃ piece more, splitOn sep s = piece :: more ∧ splitOn sep (t ++ s) = (t ++ piece) :: more := by
  induction t with
  | nil =>
    obtain ⟨piece, more, hs⟩ := List.exists_cons_of_ne_nil (splitOn_ne_nil sep s)
    exact ⟨piece, more, hs, hs⟩
  | cons c t ih =>
    obtain ⟨hc, ht⟩ := List.ne_and_not_mem_of_not_mem_cons h
    obtain ⟨piece, more, hs, hts⟩ := ih ht
    obtain ⟨piece', more', hsplit, hcons⟩ := exists_splitOn_cons_of_ne hc.symm (t ++ s)
    rw [hts] at hsplit
    obtain ⟨rfl, rfl⟩ := List.cons_eq_cons.mp hsplit
    exact ⟨piece, more, hs, hcons⟩

/-- What stands behind a text goes to its last piece. -/
theorem exists_splitOn_append_right {sep : Char} {t : List Char} (h : sep ∉ t) (s : List Char) :
    ∃ front last, splitOn sep s = front ++ [last] ∧ splitOn sep (s ++ t) = front ++ [last ++ t] := by
  induction s with
  | nil => exact ⟨[], [], rfl, splitOn_of_not_mem h⟩
  | cons c s ih =>
    obtain ⟨front, last, hs, hst⟩ := ih
    by_cases hc : c = sep
    · subst hc
      refine ⟨[] :: front, last, ?_, ?_⟩
      · rw [splitOn_cons_self, hs, List.cons_append]
      · rw [List.cons_append, splitOn_cons_self, hst, List.cons_append]
    · obtain ⟨piece, more, hsplit, hcons⟩ := exists_splitOn_cons_of_ne hc s
      obtain ⟨piece', more', hsplit', hcons'⟩ := exists_splitOn_cons_of_ne hc (s ++ t)
      rw [hs] at hsplit
      rw [hst] at hsplit'
      rw [List.cons_append, hcons, hcons']
      -- the first piece is the last one too, or it stays
      rcases front with _ | ⟨first, front⟩
      · obtain ⟨rfl, rfl⟩ := List.cons_eq_cons.mp hsplit
        obtain ⟨rfl, rfl⟩ := List.cons_eq_cons.mp hsplit'
        exact ⟨[], c :: last, rfl, rfl⟩
      · obtain ⟨rfl, rfl⟩ := List.cons_eq_cons.mp hsplit
        obtain ⟨rfl, rfl⟩ := List.cons_eq_cons.mp hsplit'
        exact ⟨(c :: first) :: front, last, rfl, rfl⟩

theorem mem_of_mem_splitOn {sep : Char} {s piece : List Char} (h : piece ∈ splitOn sep s) {c : Char}
    (hc : c ∈ piece) : c ∈ s := by
  have hmem : c ∈ (splitOn sep s).flatten := List.mem_flatten_of_mem h hc
  rw [flatten_splitOn] at hmem
  exact List.mem_of_mem_filter hmem

/-! ### Lines -/

theorem stripReturn_of_getLast?_ne {s : List Char} (h : s.getLast? ≠ some '\r') :
    stripReturn s = s := by
  rw [stripReturn, if_neg h]

theorem stripReturn_of_not_mem {s : List Char} (h : '\r' ∉ s) : stripReturn s = s :=
  stripReturn_of_getLast?_ne fun hlast => h (List.mem_of_getLast? hlast)

theorem stripReturn_prefix_self (s : List Char) : stripReturn s <+: s := by
  rw [stripReturn]
  split
  · exact List.dropLast_prefix s
  · exact List.prefix_refl s

/-- The first line ends at the first line feed. -/
theorem lines_append_cons {s : List Char} (h : '\n' ∉ s) (t : List Char) :
    lines (s ++ '\n' :: t) = stripReturn s :: lines t := by
  obtain ⟨piece, more, ht⟩ := List.exists_cons_of_ne_nil (splitOn_ne_nil '\n' t)
  rw [lines, splitOn_append_cons h, lines, ht, linesOfPieces]
  simp

@[simp] theorem unlines_nil : unlines [] = [] := rfl

@[simp] theorem unlines_cons (l : List Char) (ls : List (List Char)) :
    unlines (l :: ls) = l ++ '\n' :: unlines ls := by
  simp [unlines]

/-- **Written lines** are read again, each without a carriage return at its end. -/
theorem lines_unlines {ls : List (List Char)} (h : ∀ l ∈ ls, '\n' ∉ l) :
    lines (unlines ls) = ls.map stripReturn := by
  induction ls with
  | nil => rfl
  | cons l ls ih =>
    obtain ⟨hl, hls⟩ := List.forall_mem_cons.mp h
    rw [unlines_cons, lines_append_cons hl, ih hls, List.map_cons]

theorem splitOn_unlines {ls : List (List Char)} (h : ∀ l ∈ ls, '\n' ∉ l) :
    splitOn '\n' (unlines ls) = ls ++ [[]] := by
  induction ls with
  | nil => rfl
  | cons l ls ih =>
    obtain ⟨hl, hls⟩ := List.forall_mem_cons.mp h
    rw [unlines_cons, splitOn_append_cons hl, ih hls, List.cons_append]

/-- Lines are told apart by how they are written. -/
theorem unlines_inj {ls ls' : List (List Char)} (h : ∀ l ∈ ls, '\n' ∉ l) (h' : ∀ l ∈ ls', '\n' ∉ l) :
    unlines ls = unlines ls' ↔ ls = ls' := by
  refine ⟨fun heq => ?_, fun heq => heq ▸ rfl⟩
  have hsplit := congrArg (splitOn '\n') heq
  rwa [splitOn_unlines h, splitOn_unlines h', List.append_cancel_right_eq] at hsplit

/-! ### The lines of pieces -/

theorem prefix_of_mem_linesOfPieces {pieces : List (List Char)} {l : List Char}
    (h : l ∈ linesOfPieces pieces) : ∃ piece ∈ pieces, l <+: piece := by
  fun_induction linesOfPieces pieces with
  | case1 => cases h
  | case2 last hlast => cases h
  | case3 last hlast =>
    obtain rfl := List.mem_singleton.mp h
    exact ⟨l, List.mem_singleton_self l, List.prefix_refl l⟩
  | case4 piece rest hrest ih =>
    rcases List.mem_cons.mp h with rfl | h
    · exact ⟨piece, List.mem_cons_self, stripReturn_prefix_self piece⟩
    · obtain ⟨piece', hmem, hstart⟩ := ih h
      exact ⟨piece', List.mem_cons_of_mem _ hmem, hstart⟩

/-- A line is the start of a piece between line feeds. -/
theorem prefix_of_mem_lines {s l : List Char} (h : l ∈ lines s) :
    ∃ piece ∈ splitOn '\n' s, l <+: piece :=
  prefix_of_mem_linesOfPieces h

theorem not_mem_of_mem_lines {s l : List Char} (h : l ∈ lines s) : '\n' ∉ l := by
  obtain ⟨piece, hpiece, hstart⟩ := prefix_of_mem_lines h
  intro hmem
  simpa using not_of_mem_splitWhen hpiece (hstart.subset hmem)

theorem mem_of_mem_lines {s l : List Char} (h : l ∈ lines s) {c : Char} (hc : c ∈ l) : c ∈ s := by
  obtain ⟨piece, hpiece, hstart⟩ := prefix_of_mem_lines h
  exact mem_of_mem_splitOn hpiece (hstart.subset hc)

theorem filter_stripReturn {p : Char → Bool} (hp : p '\r' = false) (s : List Char) :
    (stripReturn s).filter p = s.filter p := by
  rw [stripReturn]
  split
  · rename_i h
    obtain ⟨t, rfl⟩ := List.getLast?_eq_some_iff.mp h
    simp [hp]
  · rfl

theorem filter_flatten_linesOfPieces {p : Char → Bool} (hp : p '\r' = false)
    (pieces : List (List Char)) :
    (linesOfPieces pieces).flatten.filter p = pieces.flatten.filter p := by
  fun_induction linesOfPieces pieces with
  | case1 => rfl
  | case2 last hlast => simp [List.isEmpty_iff.mp hlast]
  | case3 last hlast => rfl
  | case4 piece rest hrest ih =>
    simp only [List.flatten_cons, List.filter_append, ih, filter_stripReturn hp]

/-- Reading a text line by line leaves out its line feeds and carriage returns at most. -/
theorem filter_flatten_lines {p : Char → Bool} (hr : p '\r' = false) (hn : p '\n' = false)
    (s : List Char) : (lines s).flatten.filter p = s.filter p := by
  rw [lines, filter_flatten_linesOfPieces hr, flatten_splitOn, List.filter_filter]
  refine List.filter_congr fun c _ => ?_
  by_cases hc : c = '\n'
  · simp [hc, hn]
  · simp [hc]

/-- Writing lines adds line feeds only. -/
theorem filter_unlines {p : Char → Bool} (hn : p '\n' = false) (ls : List (List Char)) :
    (unlines ls).filter p = ls.flatten.filter p := by
  induction ls with
  | nil => rfl
  | cons l ls ih => simp [hn, ih]

end Tincture.Text
