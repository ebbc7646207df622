import Mathlib.Algebra.Ring.Parity
import Tincture.Proofs.Format.Printed

/-!
# Runs of empty lines that are not counted

Empty lines are counted where no raw block is taken for open. Outside of raw blocks one is, wrongly,
behind an odd number of blocks closed with an even number of fences, and the blank lines there are all
printed (`exists_printed_of_uncounted`). Any other run that is printed is no longer than it may be
(`exists_run_of_printed`), so what is printed has longer ones just if there are more blank lines where
they are not counted (`outsideRunsWithin_iff`).
-/

namespace Tincture.Format

open Text

/-! ### Runs of empty lines -/

/-- An empty text is that of one element, where an element gives an empty text alone or none. -/
theorem exists_of_flatMap_eq_append_nil {α : Type} {f : α → List (List Char)} {xs : List α}
    (hf : ∀ x ∈ xs, f x = [[]] ∨ [] ∉ f x) {before after : List (List Char)}
    (h : xs.flatMap f = before ++ [] :: after) :
    ∃ xs₁ x xs₂, xs = xs₁ ++ x :: xs₂ ∧ xs₁.flatMap f = before ∧ f x = [[]] ∧
      xs₂.flatMap f = after := by
  induction xs generalizing before with
  | nil => simp at h
  | cons x xs ih =>
    obtain ⟨hx, hxs⟩ := List.forall_mem_cons.mp hf
    have hskip : ∀ w, before = f x ++ w → xs.flatMap f = w ++ [] :: after →
        ∃ xs₁ y xs₂, x :: xs = xs₁ ++ y :: xs₂ ∧ xs₁.flatMap f = before ∧ f y = [[]] ∧
          xs₂.flatMap f = after := by
      rintro w rfl hw
      obtain ⟨xs₁, y, xs₂, rfl, rfl, hy, hafter⟩ := ih hxs hw
      exact ⟨x :: xs₁, y, xs₂, rfl, rfl, hy, hafter⟩
    rw [List.flatMap_cons] at h
    rcases List.append_eq_append_iff.mp h with ⟨w, hbefore, hw⟩ | ⟨w, hfx, hw⟩
    · exact hskip w hbefore hw
    rcases w with _ | ⟨t, w⟩
    · exact hskip [] (by simpa using hfx.symm) (by simpa using hw.symm)
    · -- the empty text is among those of `x`, which gives no other one
      obtain ⟨rfl, hafter⟩ := List.cons.inj hw
      have hnil : f x = [[]] := hx.resolve_right fun hmem => hmem (by rw [hfx]; simp)
      rw [hnil] at hfx
      have hlength := congrArg List.length hfx
      simp only [List.length_append, List.length_cons, List.length_nil] at hlength
      obtain rfl : before = [] := List.length_eq_zero_iff.mp (by omega)
      obtain rfl : w = [] := List.length_eq_zero_iff.mp (by omega)
      exact ⟨[], x, xs, rfl, rfl, hnil, hafter.symm⟩

/-- So the texts of a run of empty ones are those of a run of elements. -/
theorem exists_of_flatMap_eq_append_replicate {α : Type} {f : α → List (List Char)} {xs : List α}
    (hf : ∀ x ∈ xs, f x ≠ [] ∧ (f x = [[]] ∨ [] ∉ f x)) {n : Nat}
    {before after : List (List Char)}
    (h : xs.flatMap f = before ++ [] :: (List.replicate n [] ++ after)) :
    ∃ xs₁ run xs₂, xs = xs₁ ++ run ++ xs₂ ∧ xs₁.flatMap f = before ∧ run.length = n + 1 ∧
      (∀ x ∈ run, f x = [[]]) ∧ xs₂.flatMap f = after := by
  induction n generalizing xs before with
  | zero =>
    obtain ⟨xs₁, x, xs₂, rfl, hbefore, hx, hafter⟩ :=
      exists_of_flatMap_eq_append_nil (fun x hx => (hf x hx).2) h
    exact ⟨xs₁, [x], xs₂, by simp, hbefore, rfl, by simpa using hx, hafter⟩
  | succ n ih =>
    obtain ⟨xs₁, x, xs₂, rfl, hbefore, hx, hafter⟩ :=
      exists_of_flatMap_eq_append_nil (fun x hx => (hf x hx).2) h
    rw [List.replicate_succ, List.cons_append, ← List.nil_append ([] :: _)] at hafter
    have hxs₂ : ∀ y ∈ xs₂, f y ≠ [] ∧ (f y = [[]] ∨ [] ∉ f y) := fun y hy => hf y (by simp [hy])
    obtain ⟨ys, run, zs, rfl, hys, hlength, hrun, hzs⟩ := ih hxs₂ hafter
    -- nothing stands between the two runs, as every element gives something
    obtain rfl : ys = [] := by
      refine List.eq_nil_iff_forall_not_mem.mpr fun y hy => (hxs₂ y (by simp [hy])).1 ?_
      exact List.flatMap_eq_nil_iff.mp hys y hy
    exact ⟨xs₁, x :: run, zs, by simp, hbefore, by simp [hlength],
      List.forall_mem_cons.mpr ⟨hx, hrun⟩, hzs⟩

/-! ### Blank lines -/

section blanks

variable {config : FormatConfig} {tabSpaces : Nat} {texts : List (List Char)}

/-- A line gives an empty text alone or none, and it gives something. -/
theorem layOut_cases {number depth : Nat} {inRaw : Bool} {line : Line}
    (h : line ∈ readLines tabSpaces number inRaw depth texts) :
    line.layOut config ≠ [] ∧ (line.layOut config = [[]] ∨ [] ∉ line.layOut config) := by
  obtain ⟨number', inRaw', depth', text, -, rfl⟩ := exists_read_of_mem_readLines _ h
  cases inRaw' with
  | true =>
    rw [layOut_read_true]
    cases text <;> simp
  | false =>
    refine ⟨layOut_ne_nil, ?_⟩
    by_cases hnil : trim text = []
    · exact .inl (by rw [read_false, layOut_ofText, if_pos hnil])
    · exact .inr fun hmem => ne_nil_of_mem_layOut hnil hmem rfl

theorem layOut_of_blank {line : Line} (h : line.kind = .blank) : line.layOut config = [[]] := by
  rw [Line.layOut, if_pos h]

theorem openBehind_append (before run : List Line) :
    openBehind (before ++ run) = run.foldl Line.rawBehind (openBehind before) := by
  rw [openBehind, List.foldl_append, ← openBehind]

theorem foldl_rawBehind_of_blank {run : List Line} (hrun : ∀ line ∈ run, line.kind = .blank) :
    run.foldl Line.rawBehind false = false := by
  induction run with
  | nil => rfl
  | cons line run ih =>
    obtain ⟨hline, hrun⟩ := List.forall_mem_cons.mp hrun
    rw [List.foldl_cons, Line.rawBehind, hline]
    exact ih hrun

/-- Blank lines are outside of raw blocks. -/
theorem openBehind_of_blank {before after : List Line} {line : Line}
    (hls : readLines tabSpaces 1 false 0 texts = before ++ line :: after)
    (hline : line.kind = .blank) : openBehind before = false := by
  obtain ⟨number, depth, text, hread⟩ := exists_read_of_readLines_eq_append _ hls
  rw [Bool.eq_false_iff]
  intro hopen
  rw [← openBehind, hopen] at hread
  rw [hread] at hline
  cases hfence : startsFence (trimStart text) <;> simp [Line.read, hfence] at hline

/-- Outside of raw blocks, a line that is not blank gives a text that is not empty first. -/
theorem exists_layOut_eq_cons {before after : List Line} {line : Line}
    (hls : readLines tabSpaces 1 false 0 texts = before ++ line :: after)
    (hopen : openBehind before = false) (hline : line.kind ≠ .blank) :
    ∃ u us, line.layOut config = u :: us ∧ u ≠ [] := by
  obtain ⟨number, depth, text, hread⟩ := exists_read_of_readLines_eq_append _ hls
  rw [← openBehind, hopen, read_false] at hread
  subst hread
  have htext : trim text ≠ [] := fun hnil => hline (classify_eq_blank_iff.mpr hnil)
  obtain ⟨u, us, hgives⟩ := List.exists_cons_of_ne_nil
    (layOut_ne_nil : (Line.ofText tabSpaces number depth text).layOut config ≠ [])
  exact ⟨u, us, hgives, ne_nil_of_mem_layOut htext (hgives ▸ List.mem_cons_self)⟩

/-- Outside of raw blocks, the lines that give an empty text are the blank ones. -/
theorem blank_of_layOut_eq {before run after : List Line}
    (hls : readLines tabSpaces 1 false 0 texts = before ++ run ++ after)
    (hopen : openBehind before = false) (hrun : ∀ line ∈ run, line.layOut config = [[]]) :
    ∀ line ∈ run, line.kind = .blank := by
  induction run generalizing before with
  | nil => simp
  | cons line run ih =>
    obtain ⟨hline, hrun⟩ := List.forall_mem_cons.mp hrun
    rw [List.append_assoc, List.cons_append] at hls
    have hblank : line.kind = .blank := by
      by_contra hkind
      obtain ⟨u, us, hgives, hu⟩ := exists_layOut_eq_cons hls hopen hkind
      exact hu (List.cons.inj (hgives.symm.trans hline)).1
    have hopen' : openBehind (before ++ [line]) = false := by
      rw [openBehind_append, hopen]
      exact foldl_rawBehind_of_blank (by simpa using hblank)
    exact List.forall_mem_cons.mpr ⟨hblank, ih (by simpa using hls) hopen' hrun⟩

/-! ### What is open behind the texts of some lines -/

theorem openBehind_eq_foldl_flatMap {before after : List Line}
    (hls : readLines tabSpaces 1 false 0 texts = before ++ after) :
    openBehind before = (before.flatMap (Line.layOut config)).foldl rawAfter false := by
  obtain ⟨textsBefore, -, -, rfl, -⟩ := exists_of_readLines_eq_append _ hls
  rw [openBehind, foldl_rawBehind_readLines, foldl_rawAfter_flatMap]

theorem foldl_toggleAfter_of_readLines {before after : List Line}
    (hls : readLines tabSpaces 1 false 0 texts = before ++ after) :
    (before.flatMap (Line.layOut config)).foldl toggleAfter false =
      xor (openBehind before) (evenClosings false before % 2 == 1) := by
  obtain ⟨textsBefore, -, -, rfl, -⟩ := exists_of_readLines_eq_append _ hls
  rw [foldl_toggleAfter_flatMap, openBehind, foldl_rawBehind_readLines]
  simp

/-- No more blank lines than the bound stand before another line, behind an odd number of raw blocks
closed with an even number of fences. -/
def UncountedWithin (bound : Nat) (ls : List Line) : Prop :=
  ∀ before run line after, ls = before ++ run ++ line :: after →
    (∀ b ∈ run, b.kind = .blank) → line.kind ≠ .blank → Odd (evenClosings false before) →
    run.length ≤ bound

/-- No more empty texts than the bound stand one after the other outside of raw blocks. -/
def OutsideRunsWithin (bound : Nat) (texts : List (List Char)) : Prop :=
  ∀ before n after, texts = before ++ List.replicate n [] ++ after →
    before.foldl rawAfter false = false → n ≤ bound

theorem evenClosings_append (inRaw : Bool) (before after : List Line) :
    evenClosings inRaw (before ++ after) =
      evenClosings inRaw before + evenClosings (before.foldl Line.rawBehind inRaw) after := by
  induction before generalizing inRaw with
  | nil => simp [evenClosings]
  | cons line before ih =>
    rw [List.cons_append, evenClosings, evenClosings, ih, List.foldl_cons, Nat.add_assoc]

/-- Where no raw block is closed with an even number of fences, empty lines are counted. -/
theorem uncountedWithin_of_evenClosings {bound : Nat} {ls : List Line}
    (h : evenClosings false ls = 0) : UncountedWithin bound ls := by
  rintro before run line after rfl - - hodd
  rw [List.append_assoc, evenClosings_append, Nat.add_eq_zero_iff] at h
  rw [h.1] at hodd
  exact absurd hodd (by decide)

theorem isToggle_of_mem_replicate {n : Nat} : ∀ t ∈ List.replicate n [], isToggle t = false :=
  fun t ht => by
    rw [List.eq_of_mem_replicate ht]
    rfl

/-- Blank lines that are not counted are all printed. -/
theorem exists_printed_of_uncounted {before run after : List Line} {line : Line}
    (hls : readLines tabSpaces 1 false 0 texts = before ++ run ++ line :: after)
    (hrun : ∀ b ∈ run, b.kind = .blank) (hne : run ≠ []) (hline : line.kind ≠ .blank)
    (hodd : Odd (evenClosings false before)) :
    ∃ printed rest, printed.foldl rawAfter false = false ∧
      formattedLines config (before ++ run ++ line :: after) =
        printed ++ List.replicate run.length [] ++ rest := by
  have houtside : openBehind before = false := by
    obtain ⟨b, run, rfl⟩ := List.exists_cons_of_ne_nil hne
    exact openBehind_of_blank (by simpa using hls) (hrun b List.mem_cons_self)
  -- the other line is outside, too
  have hopen : openBehind (before ++ run) = false := by
    rw [openBehind_append, houtside, foldl_rawBehind_of_blank hrun]
  obtain ⟨u, us, hgives, hu⟩ : ∃ u us, line.layOut config = u :: us ∧ u ≠ [] :=
    exists_layOut_eq_cons hls hopen hline
  have hblanks : run.flatMap (Line.layOut config) = List.replicate run.length [] := by
    rw [List.flatMap_congr fun b hb => layOut_of_blank (hrun b hb)]
    exact List.eq_replicate_iff.mpr ⟨by simp, by simp⟩
  have htoggled : (before.flatMap (Line.layOut config)).foldl toggleAfter false = true := by
    rw [foldl_toggleAfter_of_readLines (hls.trans (List.append_assoc ..)), houtside]
    simpa [Nat.odd_iff] using hodd
  have hprinted : formattedLines config (before ++ run ++ line :: after) =
      capBlanks config.blankLinesUpperBound false 0 false (before.flatMap (Line.layOut config)) ++
        List.replicate run.length [] ++ u :: dropEmptyEnd (capBlanks config.blankLinesUpperBound
          (toggleAfter true u) 0 true (us ++ after.flatMap (Line.layOut config))) := by
    rw [formattedLines, List.flatMap_append, List.flatMap_append, List.append_assoc,
      capBlanks_append_of_toggled htoggled, hblanks, capBlanks_raw isToggle_of_mem_replicate,
      List.flatMap_cons, hgives, List.cons_append, capBlanks_cons_of_ne_nil hu, ← List.append_assoc,
      dropEmptyEnd_append_cons hu]
  refine ⟨_, _, ?_, hprinted⟩
  rw [← foldl_rawAfter_filter, filter_capBlanks, foldl_rawAfter_filter,
    ← openBehind_eq_foldl_flatMap (hls.trans (List.append_assoc ..)), houtside]

/-- What is printed starts with no empty line. -/
theorem head?_formattedLines_ne_nil (ls : List Line) : (formattedLines config ls).head? ≠ some [] := by
  obtain ⟨n, hcap⟩ := exists_eq_dropEmptyEnd_append
    (capBlanks config.blankLinesUpperBound false 0 false (ls.flatMap (Line.layOut config)))
  rw [← formattedLines] at hcap
  have hfirst : (formattedLines config ls ++ List.replicate n []).head? ≠ some [] := by
    rw [← hcap]
    exact head?_capBlanks_ne_nil (.inl rfl)
  intro hhead
  exact hfirst (by rw [List.head?_append, hhead]; rfl)

/-- Nor does it end with one. -/
theorem getLast?_formattedLines_ne_nil (ls : List Line) :
    (formattedLines config ls).getLast? ≠ some [] :=
  fun hlast => ne_nil_of_getLast?_dropEmptyEnd hlast rfl

/-- A run of empty lines that is printed between two other lines comes from empty texts between the
same lines. There may be more of them if a raw block is not taken for open before them; then it is cut
down to the bound. -/
theorem exists_run_of_printed {ls : List Line} {before after : List (List Char)} {t u : List Char}
    (ht : t ≠ []) (hu : u ≠ []) {m : Nat}
    (hprinted : formattedLines config ls = before ++ t :: (List.replicate m [] ++ u :: after)) :
    m ≤ config.blankLinesUpperBound ∨ ∃ before' after',
      ls.flatMap (Line.layOut config) = before' ++ t :: (List.replicate m [] ++ u :: after') ∧
      (before' ++ [t]).foldl toggleAfter false = true ∧
      (before' ++ [t]).foldl rawAfter false = (before ++ [t]).foldl rawAfter false := by
  obtain ⟨n, hcap⟩ := exists_eq_dropEmptyEnd_append
    (capBlanks config.blankLinesUpperBound false 0 false (ls.flatMap (Line.layOut config)))
  rw [← formattedLines, hprinted, List.append_assoc, List.cons_append, List.append_assoc,
    List.cons_append] at hcap
  obtain ⟨before', rest, hgiven, hbefore, hrest⟩ := exists_of_capBlanks_eq_append_cons ht hcap
  obtain ⟨run, after', rfl, hrun, -⟩ := exists_of_capBlanks_eq_append_cons hu hrest
  have hfold : (before' ++ [t]).foldl toggleAfter false =
      toggleAfter (before'.foldl toggleAfter false) t := by
    rw [List.foldl_append, List.foldl_cons, List.foldl_nil]
  rw [← hfold] at hrun
  cases htoggled : (before' ++ [t]).foldl toggleAfter false with
  | false =>
    -- what was cut down once is not cut down again
    rw [htoggled] at hrun
    have hself := capBlanks_capBlanks config.blankLinesUpperBound 0 false true run
    rw [hrun, capBlanks_eq_self_iff isToggle_of_mem_replicate, runsWithin_replicate_iff] at hself
    exact .inl hself
  | true =>
    have hempty : ∀ s ∈ run, s = [] := fun s hs => by
      by_contra hne
      have hmem : s ∈ List.replicate m [] :=
        hrun ▸ mem_of_filter_eq (filter_capBlanks ..).symm hs hne
      exact hne (List.eq_of_mem_replicate hmem)
    have htoggles : ∀ s ∈ run, isToggle s = false := fun s hs => hempty s hs ▸ rfl
    rw [htoggled, capBlanks_raw_eq_self htoggles] at hrun
    refine .inr ⟨before', after', by rw [hgiven, hrun], htoggled, ?_⟩
    rw [List.foldl_append, List.foldl_append, ← hbefore, ← foldl_rawAfter_filter false before',
      ← filter_capBlanks, foldl_rawAfter_filter]

/-- **Runs of empty lines** outside of raw blocks are as long as they may be, just if those that are not
counted are. -/
theorem outsideRunsWithin_iff {ls : List Line} (hls : readLines tabSpaces 1 false 0 texts = ls) :
    OutsideRunsWithin config.blankLinesUpperBound (formattedLines config ls) ↔
      UncountedWithin config.blankLinesUpperBound ls := by
  constructor
  · rintro hwithin before run line after rfl hrun hline hodd
    by_cases hne : run = []
    · simp [hne]
    · obtain ⟨printed, rest, houtside, hprinted⟩ :=
        exists_printed_of_uncounted hls hrun hne hline hodd
      exact hwithin printed run.length rest hprinted houtside
  · intro hwithin before n after hprinted houtside
    by_cases hn : n = 0
    · omega
    obtain ⟨before₁, t, a, m, u, after₁, ht, hu, hnm, rfl, hbetween⟩ := exists_run_between hn hprinted
      (head?_formattedLines_ne_nil ls) (getLast?_formattedLines_ne_nil ls)
    have hstate : (before₁ ++ [t]).foldl rawAfter false = false := by
      rw [← foldl_rawAfter_filter] at houtside ⊢
      simpa [List.filter_append, ht] using houtside
    rcases exists_run_of_printed ht hu hbetween with hm | ⟨before₂, after₂, hgiven, htoggled, hraw⟩
    · omega
    -- the empty texts are those of blank lines that are not counted
    obtain ⟨m, rfl⟩ := Nat.exists_eq_succ_of_ne_zero (show m ≠ 0 by omega)
    rw [List.append_cons, List.replicate_succ, List.cons_append] at hgiven
    obtain ⟨before₃, run, after₃, rfl, hbefore₃, hlength, hrun, hafter₃⟩ :=
      exists_of_flatMap_eq_append_replicate
        (fun line hline => layOut_cases (hls ▸ hline)) hgiven
    have hopen : openBehind before₃ = false := by
      rw [openBehind_eq_foldl_flatMap (hls.trans (List.append_assoc ..)), hbefore₃, hraw, hstate]
    have hodd : Odd (evenClosings false before₃) := by
      rw [← hbefore₃, foldl_toggleAfter_of_readLines (hls.trans (List.append_assoc ..)), hopen]
        at htoggled
      simpa [Nat.odd_iff] using htoggled
    obtain ⟨line, after₄, rfl⟩ : ∃ line after₄, after₃ = line :: after₄ :=
      List.exists_cons_of_ne_nil fun hnil => by simp [hnil] at hafter₃
    have hline : line.kind ≠ .blank := fun hblank => by
      rw [List.flatMap_cons, layOut_of_blank hblank] at hafter₃
      exact hu (List.cons.inj hafter₃).1.symm
    have hbound := hwithin before₃ run line after₄ rfl (blank_of_layOut_eq hls hopen hrun) hline hodd
    omega

end blanks

end Tincture.Format
