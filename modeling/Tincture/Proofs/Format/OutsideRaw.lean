import Tincture.Proofs.Format.Printed

/-!
# Outside of raw blocks

What is printed outside of raw blocks (`outsideRaw`) is given by lines outside, and all of what such a
line gives is printed there, but for empty lines (`exists_of_mem_outsideRaw`,
`mem_outsideRaw_of_mem_layOut`, `forall_outsideRaw_formattedLines_iff`). It ends in white space, or is
indented with a tab, in few cases (`trimEnd_layOut_iff`, `untabbed_layOut_iff`).
-/

namespace Tincture.Format

open Text

/-! ### Outside of raw blocks -/

/-- The texts outside of raw blocks, with the fences that open one. -/
def outsideRaw : (inRaw : Bool) → List (List Char) → List (List Char)
  | _, [] => []
  | inRaw, text :: rest =>
    if inRaw then outsideRaw (rawAfter inRaw text) rest
    else text :: outsideRaw (rawAfter inRaw text) rest

theorem outsideRaw_append (inRaw : Bool) (before after : List (List Char)) :
    outsideRaw inRaw (before ++ after) =
      outsideRaw inRaw before ++ outsideRaw (before.foldl rawAfter inRaw) after := by
  induction before generalizing inRaw with
  | nil => rfl
  | cons text before ih =>
    rw [List.cons_append, outsideRaw, outsideRaw, List.foldl_cons, ih]
    split <;> simp

theorem mem_outsideRaw_iff {inRaw : Bool} {texts : List (List Char)} {t : List Char} :
    t ∈ outsideRaw inRaw texts ↔
      ∃ before after, texts = before ++ t :: after ∧ before.foldl rawAfter inRaw = false := by
  constructor
  · intro h
    induction texts generalizing inRaw with
    | nil => cases h
    | cons text texts ih =>
      rw [outsideRaw] at h
      by_cases hhere : inRaw = false ∧ t = text
      · exact ⟨[], texts, by rw [hhere.2]; rfl, hhere.1⟩
      · have hrest : t ∈ outsideRaw (rawAfter inRaw text) texts := by
          split at h
          · exact h
          · rename_i hopen
            exact (List.mem_cons.mp h).resolve_left fun ht => hhere ⟨by simpa using hopen, ht⟩
        obtain ⟨before, after, rfl, hbefore⟩ := ih hrest
        exact ⟨text :: before, after, rfl, hbefore⟩
  · rintro ⟨before, after, rfl, hbefore⟩
    rw [outsideRaw_append, hbefore]
    simp [outsideRaw]

/-- Empty lines change nothing about the other ones. -/
theorem outsideRaw_filter (inRaw : Bool) (texts : List (List Char)) :
    outsideRaw inRaw (texts.filter (· ≠ [])) = (outsideRaw inRaw texts).filter (· ≠ []) := by
  induction texts generalizing inRaw with
  | nil => rfl
  | cons text texts ih =>
    by_cases hnil : text = []
    · subst hnil
      rw [List.filter_cons_of_neg (by simp), ih, outsideRaw, rawAfter_nil]
      split <;> simp
    · rw [List.filter_cons_of_pos (by simpa using hnil), outsideRaw, outsideRaw, ih]
      split <;> simp [hnil]

theorem outsideRaw_of_forall {texts : List (List Char)} (h : ∀ t ∈ texts, rawAfter false t = false) :
    outsideRaw false texts = texts := by
  induction texts with
  | nil => rfl
  | cons t texts ih =>
    obtain ⟨ht, htexts⟩ := List.forall_mem_cons.mp h
    rw [outsideRaw, if_neg Bool.false_ne_true, ht, ih htexts]

section layOut

variable {config : FormatConfig} {tabSpaces number depth : Nat} {inRaw : Bool}
  {texts : List (List Char)} {text u : List Char}

/-- All of what a line outside gives is outside. -/
theorem outsideRaw_layOut (config : FormatConfig) (tabSpaces number depth : Nat)
    (text : List Char) : outsideRaw false ((Line.ofText tabSpaces number depth text).layOut config) =
      (Line.ofText tabSpaces number depth text).layOut config := by
  cases hfence : startsFence (trim text) with
  | true =>
    rw [layOut_of_rawFence (classify_eq_rawFence_iff.mpr hfence)]
    rfl
  | false => exact outsideRaw_of_forall fun u hu => rawAfter_of_mem_layOut hfence hu

/-- What is given outside comes from a line outside. -/
theorem exists_of_mem_outsideRaw
    (hu : u ∈ outsideRaw inRaw
      ((readLines tabSpaces number inRaw depth texts).flatMap (Line.layOut config))) :
    ∃ number' depth' text, Line.ofText tabSpaces number' depth' text ∈
        readLines tabSpaces number inRaw depth texts ∧
      u ∈ (Line.ofText tabSpaces number' depth' text).layOut config := by
  induction texts generalizing number depth inRaw with
  | nil => cases hu
  | cons text texts ih =>
    -- either the first line gives it, outside, or the other ones do
    have hcases : inRaw = false ∧ u ∈ (Line.ofText tabSpaces number depth text).layOut config ∨
        u ∈ outsideRaw (rawAfter inRaw text) ((readLines tabSpaces (number + 1)
          (rawAfter inRaw text) (Line.read tabSpaces number inRaw depth text).depthBehind
            texts).flatMap (Line.layOut config)) := by
      rw [readLines, List.flatMap_cons, outsideRaw_append] at hu
      cases inRaw with
      | true =>
        rw [layOut_read_true] at hu
        exact .inr hu
      | false =>
        rw [read_false, outsideRaw_layOut, foldl_rawAfter_layOut] at hu
        exact (List.mem_append.mp hu).imp_left (⟨rfl, ·⟩)
    rw [readLines]
    rcases hcases with ⟨rfl, hhere⟩ | hrest
    · exact ⟨number, depth, text, List.mem_cons_self, hhere⟩
    · obtain ⟨number', depth', text', hmem, hgives⟩ := ih hrest
      exact ⟨number', depth', text', List.mem_cons_of_mem _ hmem, hgives⟩

/-- All of what is given by a line of a kind that is only outside is outside. -/
theorem mem_outsideRaw_of_mem_layOut {line : Line}
    (hline : line ∈ readLines tabSpaces number inRaw depth texts) (hraw : line.kind ≠ .raw)
    (hfence : line.kind ≠ .rawFence) (hu : u ∈ line.layOut config) :
    u ∈ outsideRaw inRaw
      ((readLines tabSpaces number inRaw depth texts).flatMap (Line.layOut config)) := by
  induction texts generalizing number depth inRaw with
  | nil => cases hline
  | cons text texts ih =>
    rw [readLines, List.flatMap_cons, outsideRaw_append]
    rw [readLines] at hline
    cases inRaw with
    | true =>
      rw [layOut_read_true]
      rcases List.mem_cons.mp hline with rfl | hline
      · cases hstart : startsFence (trimStart text) with
        | true => exact absurd (by simp [Line.read, hstart]) hfence
        | false => exact absurd (by simp [Line.read, hstart]) hraw
      · exact ih hline
    | false =>
      rw [read_false] at hline ⊢
      rw [outsideRaw_layOut, foldl_rawAfter_layOut]
      rcases List.mem_cons.mp hline with rfl | hline
      · exact List.mem_append_left _ hu
      · exact List.mem_append_right _ (ih hline)

/-- For what empty lines do not count for, what is printed outside is what is given outside. -/
theorem forall_outsideRaw_formattedLines_iff {p : List Char → Prop} (hp : p []) {ls : List Line} :
    (∀ t ∈ outsideRaw false (formattedLines config ls), p t) ↔
      ∀ t ∈ outsideRaw false (ls.flatMap (Line.layOut config)), p t := by
  have hfilter : ∀ texts, (∀ t ∈ outsideRaw false texts, p t) ↔
      ∀ t ∈ outsideRaw false (texts.filter (· ≠ [])), p t := fun texts => by
    rw [outsideRaw_filter]
    refine ⟨fun h t ht => h t (List.mem_filter.mp ht).1, fun h t ht => ?_⟩
    by_cases hnil : t = []
    · exact hnil ▸ hp
    · exact h t (List.mem_filter.mpr ⟨ht, by simpa using hnil⟩)
  rw [hfilter, filter_formattedLines, ← hfilter]

/-- **What is printed outside**, but for the fences that open a raw block, has a property just if each
line gives what has it. Here `q` says of a line outside that it does, and lines of raw blocks have it. -/
theorem forall_printed_outside_iff {p : List Char → Prop} {q : Line → Prop} (hp : p [])
    (hq : ∀ number depth text, (∀ u ∈ (Line.ofText tabSpaces number depth text).layOut config, p u) ↔
      q (Line.ofText tabSpaces number depth text))
    (hraw : ∀ line : Line, line.kind = .raw ∨ line.kind = .rawFence → q line) {ls : List Line}
    (hls : readLines tabSpaces 1 false 0 texts = ls) :
    (∀ t ∈ outsideRaw false (formattedLines config ls), rawAfter false t = false → p t) ↔
      ∀ line ∈ ls, q line := by
  subst hls
  rw [forall_outsideRaw_formattedLines_iff (fun _ => hp)]
  constructor
  · intro h line hline
    by_cases hkind : line.kind = .raw ∨ line.kind = .rawFence
    · exact hraw line hkind
    obtain ⟨hne, hfence⟩ := not_or.mp hkind
    have hgiven : ∀ u ∈ line.layOut config, rawAfter false u = false → p u := fun u hu =>
      h u (mem_outsideRaw_of_mem_layOut hline hne hfence hu)
    obtain ⟨number, inRaw, depth, text, -, rfl⟩ := exists_read_of_mem_readLines _ hline
    cases inRaw with
    | true =>
      cases hstart : startsFence (trimStart text) with
      | true => exact absurd (by simp [Line.read, hstart]) hfence
      | false => exact absurd (by simp [Line.read, hstart]) hne
    | false =>
      have hstart : startsFence (trim text) = false := by
        rw [Bool.eq_false_iff]
        exact fun hstart => hfence (classify_eq_rawFence_iff.mpr hstart)
      exact (hq number depth text).mp fun u hu => hgiven u hu (rawAfter_of_mem_layOut hstart hu)
  · intro h t ht _
    obtain ⟨number, depth, text, hline, hu⟩ := exists_of_mem_outsideRaw ht
    exact (hq number depth text).mpr (h _ hline) t hu

end layOut

/-! ### The ends of lines -/

section lineEnds

variable {config : FormatConfig} {tabSpaces number depth : Nat} {text : List Char}

/-- What a line gives ends in white space if it is an import that names nothing, or if it is cut before
white space when it is wrapped. -/
theorem trimEnd_layOut_iff : let line := Line.ofText tabSpaces number depth text
    (∀ u ∈ line.layOut config, trimEnd u = u) ↔
      (config.reorderImportItems = true → line.kind = .importLine → NamesItems line.content) ∧
      (line.isWrapped config = true → ∀ p ∈ line.pieces config, trimEnd p = p) := by
  intro line
  have hkind : line.isWrapped config = true → line.kind = .paragraph := kind_of_isWrapped
  by_cases hnil : trim text = []
  · have hblank : line.kind = .blank := classify_eq_blank_iff.mpr hnil
    have hwrap : line.isWrapped config = false := isWrapped_eq_false (by simp [hblank])
    rw [layOut_ofText, if_pos hnil]
    simp [hblank, hwrap]
  rw [layOut_ofText, if_neg hnil]
  by_cases hwrap : line.isWrapped config = true
  · have hpieces : (∀ u ∈ (line.pieces config).map (line.indent ++ ·), trimEnd u = u) ↔
        ∀ p ∈ line.pieces config, trimEnd p = p := by
      rw [List.forall_mem_map]
      exact forall₂_congr fun p hp => trimEnd_append_eq_self_iff (ne_nil_of_mem_wrapWords hp) _
    rw [if_pos hwrap, hpieces]
    simp [hkind hwrap, hwrap]
  · have hsettled : line.settled config ≠ [] := (sameStart_settled rfl).ne_nil hnil
    rw [if_neg hwrap, List.forall_mem_singleton, trimEnd_append_eq_self_iff hsettled,
      trimEnd_settled_iff (trimEnd_trim text)]
    simp [hwrap]

/-- What a line gives is indented with a tab if it is cut before one when it is wrapped. -/
theorem untabbed_layOut_iff : let line := Line.ofText tabSpaces number depth text
    (∀ u ∈ line.layOut config, '\t' ∉ u.takeWhile isBlank) ↔
      (line.isWrapped config = true → ∀ p ∈ line.pieces config, '\t' ∉ p.takeWhile isBlank) := by
  intro line
  have hindent : ∀ c ∈ line.indent, isBlank c = true := fun c hc => (isBlank_of_mem_indent hc).1
  have htab : '\t' ∉ line.indent := fun hc => (isBlank_of_mem_indent hc).2 rfl
  by_cases hnil : trim text = []
  · have hblank : line.kind = .blank := classify_eq_blank_iff.mpr hnil
    have hwrap : line.isWrapped config = false := isWrapped_eq_false (by simp [hblank])
    rw [layOut_ofText, if_pos hnil]
    simp [hwrap]
  rw [layOut_ofText, if_neg hnil]
  by_cases hwrap : line.isWrapped config = true
  · have hpieces : (∀ u ∈ (line.pieces config).map (line.indent ++ ·), '\t' ∉ u.takeWhile isBlank) ↔
        ∀ p ∈ line.pieces config, '\t' ∉ p.takeWhile isBlank := by
      rw [List.forall_mem_map]
      refine forall₂_congr fun p _ => ?_
      rw [List.takeWhile_append_of_pos hindent, List.mem_append, not_or]
      exact and_iff_right htab
    rw [if_pos hwrap, hpieces]
    simp [hwrap]
  · rw [if_neg hwrap, List.forall_mem_singleton,
      takeWhile_isBlank_append hindent trimStart_settled_ofText]
    simp [hwrap, htab]

end lineEnds

end Tincture.Format
