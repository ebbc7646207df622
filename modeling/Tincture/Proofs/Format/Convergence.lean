import Tincture.Format.Session
import Tincture.Proofs.Format.Characters
import Tincture.Proofs.Format.ReadAgain

/-!
# Convergence

A formatted document can always be formatted again. That changes nothing just if each of its lines gives
itself when it is read again (`converges_iff`), which is so if the lines of the source settle. It is not
enough that the lines are given somehow: what is left but for empty lines is compared from the front, and
the first line that does not give itself is seen there (`steady_of_filter_eq`). Inside of a raw block it
would have lost a carriage return (`readBack_eq_of_filter_eq`), outside it would be white space alone
(`trim_ne_nil_of_head?_eq`) or cut into pieces (`eq_nil_of_layOut_eq_cons`).
-/

namespace Tincture.Format

open Text

variable {config : FormatConfig}

/-! ### Lines of raw blocks -/

theorem length_readBack_le (text : List Char) : (readBack text).length ≤ text.length :=
  ((stripReturn_prefix_self _).trans (stripReturn_prefix_self text)).length_le

theorem readBack_eq_of_length_eq {text : List Char} (h : (readBack text).length = text.length) :
    readBack text = text :=
  ((stripReturn_prefix_self _).trans (stripReturn_prefix_self text)).eq_of_length h

theorem startsFence_readBack (text : List Char) :
    startsFence (trimStart (readBack text)) = startsFence (trimStart text) := by
  simpa [rawAfter] using rawAfter_readBack true text

theorem length_flatten_map_readBack_le (texts : List (List Char)) :
    (texts.map readBack).flatten.length ≤ texts.flatten.length := by
  induction texts with
  | nil => exact Nat.le_refl _
  | cons t texts ih =>
    have ht := length_readBack_le t
    simp only [List.map_cons, List.flatten_cons, List.length_append]
    omega

/-- If lines lose no characters together, none of them does. -/
theorem readBack_eq_of_flatten_eq {texts : List (List Char)}
    (h : (texts.map readBack).flatten = texts.flatten) : ∀ t ∈ texts, readBack t = t := by
  replace h := congrArg List.length h
  induction texts with
  | nil => simp
  | cons t texts ih =>
    have ht := length_readBack_le t
    have htexts := length_flatten_map_readBack_le texts
    simp only [List.map_cons, List.flatten_cons, List.length_append] at h
    exact List.forall_mem_cons.mpr ⟨readBack_eq_of_length_eq (by omega), ih (by omega)⟩

/-- Whether a text is no fence. -/
def isNoFence (text : List Char) : Bool :=
  !startsFence (trimStart text)

theorem takeWhile_filter_ne_nil (texts : List (List Char)) :
    (texts.filter (· ≠ [])).takeWhile isNoFence = (texts.takeWhile isNoFence).filter (· ≠ []) := by
  induction texts with
  | nil => rfl
  | cons t texts ih =>
    by_cases hnil : t = []
    · subst hnil
      rw [List.filter_cons_of_neg (by simp), ih, List.takeWhile_cons_of_pos rfl,
        List.filter_cons_of_neg (by simp)]
    · rw [List.filter_cons_of_pos (by simpa using hnil)]
      cases hfence : isNoFence t with
      | true =>
        rw [List.takeWhile_cons_of_pos hfence, List.takeWhile_cons_of_pos hfence, ih,
          List.filter_cons_of_pos (by simpa using hnil)]
      | false =>
        rw [List.takeWhile_cons_of_neg (by simp [hfence]),
          List.takeWhile_cons_of_neg (by simp [hfence])]
        rfl

/-- Inside of a raw block, lines give what they are read as up to the next fence. -/
theorem takeWhile_flatMap_layOut (tabSpaces number depth : Nat) (texts : List (List Char)) :
    ((readLines tabSpaces number true depth (texts.map readBack)).flatMap
        (Line.layOut config)).takeWhile isNoFence = (texts.takeWhile isNoFence).map readBack := by
  induction texts generalizing number depth with
  | nil => rfl
  | cons t texts ih =>
    rw [List.map_cons, readLines, List.flatMap_cons, layOut_read_true, List.singleton_append,
      rawAfter_readBack, rawAfter, if_pos rfl]
    have hsame : isNoFence (readBack t) = isNoFence t := by
      rw [isNoFence, startsFence_readBack, isNoFence]
    cases hfence : isNoFence t with
    | true =>
      rw [hfence] at hsame
      have hraw : (!startsFence (trimStart t)) = true := hfence
      rw [List.takeWhile_cons_of_pos hsame, List.takeWhile_cons_of_pos hfence, List.map_cons, hraw,
        ih]
    | false =>
      rw [List.takeWhile_cons_of_neg (by simp [hsame, hfence]),
        List.takeWhile_cons_of_neg (by simp [hfence])]
      rfl

/-- If the lines are given again, the first one inside of a raw block is read as it is. -/
theorem readBack_eq_of_filter_eq {tabSpaces number depth : Nat} {t : List Char}
    {texts : List (List Char)}
    (h : ((readLines tabSpaces number true depth ((t :: texts).map readBack)).flatMap
      (Line.layOut config)).filter (· ≠ []) = (t :: texts).filter (· ≠ [])) : readBack t = t := by
  cases hfence : isNoFence t with
  | true =>
    have htake := congrArg (List.takeWhile isNoFence) h
    rw [takeWhile_filter_ne_nil, takeWhile_filter_ne_nil, takeWhile_flatMap_layOut] at htake
    have hflatten := congrArg List.flatten htake
    rw [List.flatten_filter_ne_nil, List.flatten_filter_ne_nil] at hflatten
    refine readBack_eq_of_flatten_eq hflatten t ?_
    rw [List.takeWhile_cons_of_pos hfence]
    exact List.mem_cons_self
  | false =>
    -- a fence is given first on both sides
    have hne : ∀ u : List Char, isNoFence u = false → u ≠ [] := by
      rintro u hu rfl
      cases hu
    have hback : isNoFence (readBack t) = false := by
      rw [isNoFence, startsFence_readBack, ← isNoFence, hfence]
    rw [List.map_cons, readLines, List.flatMap_cons, layOut_read_true, List.singleton_append,
      List.filter_cons_of_pos (by simpa using hne _ hback),
      List.filter_cons_of_pos (by simpa using hne _ hfence)] at h
    exact (List.cons.inj h).1

/-! ### Lines outside of raw blocks -/

section outside

variable {tabSpaces number depth : Nat} {text u : List Char}

/-- The text of a line that is not blank starts with a character that is no white space. -/
theorem exists_settled_eq_cons (config : FormatConfig) (tabSpaces number depth : Nat)
    (htext : trim text ≠ []) :
    ∃ c rest, (Line.ofText tabSpaces number depth text).settled config = c :: rest ∧
      isBlank c = false := by
  have hne : (Line.ofText tabSpaces number depth text).settled config ≠ [] :=
    (sameStart_settled rfl).ne_nil htext
  obtain ⟨c, rest, hsettled⟩ := List.exists_cons_of_ne_nil hne
  have hstart : trimStart (c :: rest) = c :: rest := by
    rw [← hsettled]
    exact trimStart_settled_ofText
  exact ⟨c, rest, hsettled, isBlank_eq_false_of_trimStart_eq_cons hstart⟩

/-- The first text that a line gives is not white space alone, unless the line is. -/
theorem trim_ne_nil_of_layOut_eq_cons (htext : trim text ≠ []) {us : List (List Char)}
    (h : (Line.ofText tabSpaces number depth text).layOut config = u :: us) : trim u ≠ [] := by
  obtain ⟨c, rest, hsettled, hc⟩ := exists_settled_eq_cons config tabSpaces number depth htext
  have hmem : c ∈ u := by
    rw [layOut_ofText, if_neg htext] at h
    split_ifs at h with hwrap
    · have hblank : c ≠ ' ' := by
        rintro rfl
        exact absurd hc (by decide)
      obtain ⟨p, ps, hpieces, rfl, -⟩ := List.map_eq_cons_iff.mp h
      have hhead := head?_flatten_wrapWords
        (config.maxWidth - byteLength (Line.ofText tabSpaces number depth text).indent) hblank rest
      rw [← hsettled, ← Line.pieces, hpieces] at hhead
      have hp : p ≠ [] := by
        refine ne_nil_of_mem_wrapWords (?_ : p ∈ (Line.ofText tabSpaces number depth text).pieces config)
        rw [hpieces]
        exact List.mem_cons_self
      rw [List.flatten_cons, List.head?_append_of_ne_nil _ hp] at hhead
      exact List.mem_append_right _ (List.mem_of_head? hhead)
    · rw [← (List.cons.inj h).1, hsettled]
      simp
  intro hnil
  rw [trim_eq_nil_iff.mp hnil c hmem] at hc
  cases hc

/-- Lines outside of raw blocks give no text of white space alone before another one. -/
theorem trim_ne_nil_of_head?_eq {texts : List (List Char)}
    (h : (((readLines tabSpaces number false depth texts).flatMap
      (Line.layOut config)).filter (· ≠ [])).head? = some u) : trim u ≠ [] := by
  induction texts generalizing number depth with
  | nil => simp [readLines] at h
  | cons text texts ih =>
    rw [readLines, List.flatMap_cons, read_false] at h
    by_cases hnil : trim text = []
    · have hraw : rawAfter false text = false := by simp [rawAfter, hnil, startsFence]
      rw [layOut_ofText, if_pos hnil, hraw, List.filter_append] at h
      exact ih h
    · obtain ⟨v, vs, hgives⟩ : ∃ v vs,
          (Line.ofText tabSpaces number depth text).layOut config = v :: vs :=
        List.exists_cons_of_ne_nil layOut_ne_nil
      have hv : v ≠ [] := ne_nil_of_mem_layOut hnil (hgives ▸ List.mem_cons_self)
      rw [hgives, List.cons_append, List.filter_cons_of_pos (by simpa using hv)] at h
      rw [← Option.some.inj h]
      exact trim_ne_nil_of_layOut_eq_cons hnil hgives

/-- The text of a wrapped line ends with a character that is no white space. -/
theorem exists_settled_eq_concat
    (hwrap : (Line.ofText tabSpaces number depth text).isWrapped config = true) :
    ∃ rest c, (Line.ofText tabSpaces number depth text).settled config = rest ++ [c] ∧
      isBlank c = false := by
  set line := Line.ofText tabSpaces number depth text with hline
  have hend : trimEnd (line.settled config) = line.settled config :=
    (trimEnd_settled_iff (trimEnd_trim text)).mpr fun _ himport =>
      absurd himport (by simp [kind_of_isWrapped hwrap])
  have hne : line.settled config ≠ [] := by
    obtain ⟨first, more, hsettled, -⟩ := isAlphanumeric_of_isWrapped hwrap
    simp [hsettled]
  have hlast := List.getLast?_eq_some_getLast hne
  obtain ⟨rest, hrest⟩ := List.getLast?_eq_some_iff.mp hlast
  exact ⟨rest, _, hrest, trimEnd_eq_self_iff.mp hend _ hlast⟩

/-- A wrapped line that gives itself first gives nothing more: whatever came behind would be white space
alone, but the line ends in another character. -/
theorem eq_nil_of_layOut_eq_cons
    (hwrap : (Line.ofText tabSpaces number depth text).isWrapped config = true)
    {us : List (List Char)}
    (h : (Line.ofText tabSpaces number depth text).layOut config = text :: us) : us = [] := by
  set line := Line.ofText tabSpaces number depth text with hline
  have hkind : line.kind = .paragraph := kind_of_isWrapped hwrap
  have hsort : config.reorderImportItems = false ∨ line.kind ≠ .importLine := .inr (by simp [hkind])
  have hblanks : us.flatten.filter (!isBlank ·) = [] := by
    have hfilter : (line.layOut config).flatten.filter (!isBlank ·) = text.filter (!isBlank ·) :=
      filter_flatten_layOut hsort
    rw [h, List.flatten_cons, List.filter_append] at hfilter
    exact List.append_right_eq_self.mp hfilter
  rw [layOut_eq (by simp [hkind]) (by simp [hkind]), if_pos hwrap] at h
  obtain ⟨p, ps, hpieces, -, rfl⟩ := List.map_eq_cons_iff.mp h
  rcases List.eq_nil_or_concat' ps with rfl | ⟨init, q, rfl⟩
  · rfl
  exfalso
  have hq : q.filter (· ≠ ' ') ≠ [] := by
    have hmem : q ∈ line.pieces config := by simp [hpieces]
    exact filter_ne_nil_of_mem_wrapWords hmem
  -- the last piece ends as the line does
  have hlast : (q.filter (· ≠ ' ')).getLast? = ((line.settled config).filter (· ≠ ' ')).getLast? := by
    rw [← filter_flatten_pieces (by simp) line, hpieces]
    simp only [List.flatten_cons, List.flatten_append, List.filter_append, List.flatten_nil,
      List.append_nil]
    rw [← List.append_assoc, List.getLast?_append_of_ne_nil _ hq]
  obtain ⟨rest, c, hrest, hc⟩ := exists_settled_eq_concat hwrap
  have hblank : c ≠ ' ' := by
    rintro rfl
    exact absurd hc (by decide)
  rw [hrest, List.filter_append, List.filter_cons_of_pos (by simpa using hblank), List.filter_nil,
    List.getLast?_concat] at hlast
  have hmem : c ∈ q := (List.mem_filter.mp (List.mem_of_getLast? hlast)).1
  have hus : c ∈ ((init ++ [q]).map (line.indent ++ ·)).flatten :=
    List.mem_flatten_of_mem (List.mem_map_of_mem (List.mem_append_right init List.mem_cons_self))
      (List.mem_append_right _ hmem)
  rw [List.filter_eq_nil_iff] at hblanks
  exact hblanks c hus (by simp [hc])

/-- If the lines are given again, the first one outside of raw blocks gives itself. -/
theorem layOut_eq_of_filter_eq {number' depth' : Nat} {texts texts' : List (List Char)}
    (h : ((Line.ofText tabSpaces number depth text).layOut config ++
      (readLines tabSpaces number' (rawAfter false text) depth' texts').flatMap
        (Line.layOut config)).filter (· ≠ []) = (text :: texts).filter (· ≠ [])) :
    (Line.ofText tabSpaces number depth text).layOut config = [text] := by
  by_cases htext : text = []
  · rw [htext]
    rfl
  rw [List.filter_cons_of_pos (by simpa using htext)] at h
  by_cases hnil : trim text = []
  · -- white space alone is not given again
    have hraw : rawAfter false text = false := by simp [rawAfter, hnil, startsFence]
    rw [layOut_ofText, if_pos hnil, hraw, List.filter_append] at h
    exact absurd hnil (trim_ne_nil_of_head?_eq ((congrArg List.head? h).trans rfl))
  obtain ⟨u, us, hgives⟩ : ∃ u us, (Line.ofText tabSpaces number depth text).layOut config = u :: us :=
    List.exists_cons_of_ne_nil layOut_ne_nil
  have hu : u ≠ [] := ne_nil_of_mem_layOut hnil (hgives ▸ List.mem_cons_self)
  rw [hgives, List.cons_append, List.filter_cons_of_pos (by simpa using hu)] at h
  obtain rfl := (List.cons.inj h).1
  by_cases hwrap : (Line.ofText tabSpaces number depth u).isWrapped config = true
  · rw [hgives, eq_nil_of_layOut_eq_cons hwrap hgives]
  · rw [layOut_ofText, if_neg hnil, if_neg hwrap] at hgives ⊢
    rw [hgives, (List.cons.inj hgives).2.symm]

end outside

/-! ### From the front -/

/-- **If lines are given again** but for empty ones, each of them gives itself. -/
theorem steady_of_filter_eq (number : Nat) {depth : Nat} {inRaw : Bool} {texts : List (List Char)}
    (h : ((readLines config.tabSpaces number inRaw depth (texts.map readBack)).flatMap
      (Line.layOut config)).filter (· ≠ []) = texts.filter (· ≠ [])) :
    Steady config inRaw depth texts := by
  induction texts generalizing number inRaw depth with
  | nil => trivial
  | cons t texts ih =>
    have hgives : (Line.read config.tabSpaces number inRaw depth (readBack t)).layOut config = [t] := by
      cases inRaw with
      | true => rw [readBack_eq_of_filter_eq h, layOut_read_true]
      | false =>
        rw [List.map_cons, readLines, List.flatMap_cons, read_false,
          ofText_readBack, rawAfter_readBack] at h
        rw [read_false, ofText_readBack, layOut_eq_of_filter_eq h]
    refine ⟨by rw [layOut_read_number config config.tabSpaces 1 number, hgives], ?_⟩
    -- behind it, the other lines are given again
    have hcons : t :: texts = [t] ++ texts := rfl
    rw [List.map_cons, readLines, List.flatMap_cons, hgives, List.filter_append, hcons,
      List.filter_append, List.append_cancel_left_eq, rawAfter_readBack,
      depthBehind_read config.tabSpaces number 1] at h
    exact ih (number + 1) h

/-- A document that is formatted is formatted again into itself just if its lines give themselves. -/
theorem formattedLines_eq_iff {ls : List Line} :
    formattedLines config (readLines config.tabSpaces 1 false 0
        ((formattedLines config ls).map readBack)) = formattedLines config ls ↔
      Steady config false 0 (formattedLines config ls) := by
  constructor
  · intro h
    refine steady_of_filter_eq 1 ?_
    rw [← filter_formattedLines, h]
  · intro h
    have hflat : (readLines config.tabSpaces 1 false 0
        ((formattedLines config ls).map readBack)).flatMap (Line.layOut config) =
          formattedLines config ls := by
      rw [List.flatMap_def, (steady_iff 1).mp h, ← List.flatMap_def, List.flatMap_singleton']
    rw [formattedLines, hflat, formattedLines]
    exact capBlanks_dropEmptyEnd_capBlanks ..

/-! ### Documents -/

section documents

variable {source out : List Char}

theorem checkConvergence_eq_ok_iff {again : List Char} (hformat : format config source = .ok out)
    (hagain : format config out = .ok again) :
    Formatter.whitespace.checkConvergence source config = .ok out ↔ again = out := by
  have hcheck : Formatter.whitespace.checkConvergence source config =
      if out = again then .ok out else .error (.notConverged
        (commonLines (lines out) (lines again) + 1)) := by
    simp only [Formatter.checkConvergence, Formatter.whitespace, hformat, hagain, bind, Except.bind]
    rfl
  rw [hcheck]
  split_ifs with hsame
  · exact iff_of_true rfl hsame.symm
  · exact iff_of_false (by simp) fun heq => hsame heq.symm

/-- **A formatted document** can be formatted again. That changes nothing just if each of its lines gives
itself when it is read again, for which it is enough that the lines of the source settle. -/
theorem converges_iff (hformat : format config source = .ok out) :
    ∃ ls ls' again, documentLines config.tabSpaces source = .ok ls ∧
      documentLines config.tabSpaces out = .ok ls' ∧ format config out = .ok again ∧
      (Formatter.whitespace.checkConvergence source config = .ok out ↔ again = out) ∧
      (again = out ↔ ls'.map (Line.layOut config) = (formattedLines config ls).map ([·])) ∧
      ((∀ line ∈ ls, line.Settles config) → again = out) := by
  obtain ⟨hcheck, ls, hls, rfl⟩ := format_eq_ok_iff.mp hformat
  have hls' := documentLines_printed hls
  set ls' := readLines config.tabSpaces 1 false 0 ((formattedLines config ls).map readBack) with hread
  have hagain : format config (unlines (formattedLines config ls)) =
      .ok (unlines (formattedLines config ls')) :=
    format_eq_ok_iff.mpr ⟨hcheck, ls', hls', rfl⟩
  have hsteady : unlines (formattedLines config ls') = unlines (formattedLines config ls) ↔
      Steady config false 0 (formattedLines config ls) := by
    rw [unlines_inj (fun u hu hc => (mem_of_mem_formattedLines hls' hu hc).1 rfl)
      (fun u hu hc => (mem_of_mem_formattedLines hls hu hc).1 rfl), hread, formattedLines_eq_iff]
  refine ⟨ls, ls', _, hls, hls', hagain, checkConvergence_eq_ok_iff hformat hagain, ?_, ?_⟩
  · rw [hsteady, steady_iff 1]
  · intro hsettles
    obtain ⟨-, rfl⟩ := documentLines_eq_ok_iff.mp hls
    rw [hsteady, ← steady_filter, filter_formattedLines, steady_filter]
    exact steady_flatMap_layOut hsettles (.inl rfl)

/-- Formatting does not always converge: an import of nothing but a comma is sorted into one that ends in
a blank, which goes the second time. -/
theorem not_always_converges : ¬ ∀ config source out, format config source = .ok out →
    format config out = .ok out := by
  intro hall
  have hformat : format {} "#import \"x\": ,".toList = .ok "#import \"x\": \n".toList := by
    decide +kernel
  exact absurd (hall {} _ _ hformat) (by decide +kernel)

/-- An import without its blanks, a paragraph that is collapsed and wrapped, and a raw block stay as they
are. -/
theorem converges_iff_wrapped :
    let config : FormatConfig := { maxWidth := 10, collapseMarkupSpaces := true, wrapText := true }
    let source := "#import \"x\":  a,\n\tone  two three\n```\n a\n```".toList
    let out := "#import \"x\": a\n  one two\n  three\n```\n a\n```\n".toList
    format config source = .ok out ∧
      Formatter.whitespace.checkConvergence source config = .ok out := by
  intro config source out
  have hformat : format config source = .ok out := by decide +kernel
  obtain ⟨ls, ls', again, hls, -, -, hcheck, -, hsettles⟩ := converges_iff hformat
  refine ⟨hformat, hcheck.mpr (hsettles ?_)⟩
  obtain ⟨-, rfl⟩ := documentLines_eq_ok_iff.mp hls
  decide +kernel

end documents

end Tincture.Format
