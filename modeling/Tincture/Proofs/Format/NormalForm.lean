import Tincture.Proofs.Format.OutsideRaw
import Tincture.Proofs.Format.UncountedRuns

/-!
# The normal form of a formatted document

A formatted document starts with no empty line and ends with no more than one line feed. Outside of raw
blocks its lines are in normal form (`IsNormal`) just if the source gives no occasion to leave it
(`LeavesNormal`, `isNormal_format_iff`): an import of nothing but commas is sorted into one that ends in a
blank, a line that is wrapped at blanks may be cut next to other white space, and empty lines are not
counted behind an odd number of blocks closed with an even number of fences.
-/

namespace Tincture.Format

open Text

/-! ### The normal form -/

/-- The lines of a text are in normal form outside of raw blocks; `ls` is what they are read as. -/
structure IsNormal (bound : Nat) (texts : List (List Char)) (ls : List Line) : Prop where
  trimmed : ∀ before t after, texts = before ++ t :: after →
    openBehind (ls.take before.length) = false → openBehind (ls.take (before.length + 1)) = false →
    trimEnd t = t
  untabbed : ∀ before t after, texts = before ++ t :: after →
    openBehind (ls.take before.length) = false → openBehind (ls.take (before.length + 1)) = false →
    '\t' ∉ t.takeWhile isBlank
  runs : ∀ before n after, texts = before ++ List.replicate n [] ++ after →
    openBehind (ls.take before.length) = false → n ≤ bound

/-- What keeps a document from leaving the normal form when it is formatted. -/
structure LeavesNormal (config : FormatConfig) (ls : List Line) : Prop where
  named : config.reorderImportItems = true → ∀ line ∈ ls, line.kind = .importLine →
    NamesItems line.content
  cut : ∀ line ∈ ls, line.isWrapped config = true → ∀ p ∈ line.pieces config,
    trimEnd p = p ∧ '\t' ∉ p.takeWhile isBlank
  counted : UncountedWithin config.blankLinesUpperBound ls

section normalForm

variable {config : FormatConfig} {source out : List Char}

theorem forall_outside_iff {tabSpaces : Nat} {texts : List (List Char)} {p : List Char → Prop} :
    (∀ before t after, texts = before ++ t :: after →
        openBehind ((readLines tabSpaces 1 false 0 texts).take before.length) = false →
        openBehind ((readLines tabSpaces 1 false 0 texts).take (before.length + 1)) = false → p t) ↔
      ∀ t ∈ outsideRaw false texts, rawAfter false t = false → p t := by
  simp only [openBehind_take_readLines, mem_outsideRaw_iff]
  constructor
  · rintro h t ⟨before, after, rfl, hbefore⟩ ht
    refine h before t after rfl (by rwa [List.take_left]) ?_
    rw [List.append_cons, List.take_left' (by simp), List.foldl_append, hbefore]
    exact ht
  · rintro h before t after rfl hbefore hbehind
    rw [List.take_left] at hbefore
    refine h t ⟨before, after, rfl, hbefore⟩ ?_
    rw [List.append_cons, List.take_left' (by simp), List.foldl_append, hbefore] at hbehind
    exact hbehind

theorem isNormal_iff {bound tabSpaces : Nat} {texts : List (List Char)} :
    IsNormal bound texts (readLines tabSpaces 1 false 0 texts) ↔
      (∀ t ∈ outsideRaw false texts, rawAfter false t = false → trimEnd t = t) ∧
      (∀ t ∈ outsideRaw false texts, rawAfter false t = false → '\t' ∉ t.takeWhile isBlank) ∧
      OutsideRunsWithin bound texts := by
  have hruns : (∀ before n after, texts = before ++ List.replicate n [] ++ after →
      openBehind ((readLines tabSpaces 1 false 0 texts).take before.length) = false → n ≤ bound) ↔
        OutsideRunsWithin bound texts := by
    simp only [openBehind_take_readLines]
    refine forall₄_congr fun before n after h => ?_
    rw [h, List.append_assoc, List.take_left]
  rw [← forall_outside_iff, ← forall_outside_iff, ← hruns]
  exact ⟨fun h => ⟨h.trimmed, h.untabbed, h.runs⟩, fun h => ⟨h.1, h.2.1, h.2.2⟩⟩

/-- The printed lines are in normal form just if the lines of the source do not leave it. -/
theorem isNormal_formattedLines_iff {tabSpaces : Nat} {texts : List (List Char)} {ls : List Line}
    (hls : readLines tabSpaces 1 false 0 texts = ls) :
    IsNormal config.blankLinesUpperBound (formattedLines config ls)
        (readLines tabSpaces 1 false 0 (formattedLines config ls)) ↔
      LeavesNormal config ls := by
  have hnotWrapped : ∀ line : Line, line.kind = .raw ∨ line.kind = .rawFence →
      line.isWrapped config = false := fun line hkind => isWrapped_eq_false fun hparagraph => by
    rw [hparagraph] at hkind
    simp at hkind
  have htrimmed : (∀ t ∈ outsideRaw false (formattedLines config ls), rawAfter false t = false →
      trimEnd t = t) ↔ ∀ line ∈ ls,
        (config.reorderImportItems = true → line.kind = .importLine → NamesItems line.content) ∧
        (line.isWrapped config = true → ∀ p ∈ line.pieces config, trimEnd p = p) := by
    refine forall_printed_outside_iff (p := fun u => trimEnd u = u) trimEnd_nil
      (fun _ _ _ => trimEnd_layOut_iff) (fun line hkind => ⟨fun _ himport => ?_, fun hwrap => ?_⟩) hls
    · rw [himport] at hkind
      simp at hkind
    · rw [hnotWrapped line hkind] at hwrap
      cases hwrap
  have huntabbed : (∀ t ∈ outsideRaw false (formattedLines config ls), rawAfter false t = false →
      '\t' ∉ t.takeWhile isBlank) ↔ ∀ line ∈ ls,
        line.isWrapped config = true → ∀ p ∈ line.pieces config, '\t' ∉ p.takeWhile isBlank :=
    forall_printed_outside_iff (p := fun u => '\t' ∉ u.takeWhile isBlank) (by simp)
      (fun _ _ _ => untabbed_layOut_iff)
      (fun line hkind hwrap => absurd hwrap (by simp [hnotWrapped line hkind])) hls
  rw [isNormal_iff, htrimmed, huntabbed, outsideRunsWithin_iff hls]
  constructor
  · rintro ⟨htrim, htab, hruns⟩
    exact ⟨fun hsort line hline himport => (htrim line hline).1 hsort himport,
      fun line hline hwrap p hp => ⟨(htrim line hline).2 hwrap p hp, htab line hline hwrap p hp⟩,
      hruns⟩
  · rintro ⟨hnamed, hcut, hruns⟩
    exact ⟨fun line hline => ⟨fun hsort => hnamed hsort line hline,
        fun hwrap p hp => (hcut line hline hwrap p hp).1⟩,
      fun line hline hwrap p hp => (hcut line hline hwrap p hp).2, hruns⟩

/-- Lines without line feeds, of which neither the first nor the last is empty, are written as a text
that ends with one line feed and starts with none. -/
theorem unlines_ends {texts : List (List Char)} (htexts : ∀ t ∈ texts, '\n' ∉ t)
    (hfirst : texts.head? ≠ some []) (hlast : texts.getLast? ≠ some []) :
    (unlines texts = [] ∨ ∃ body c, c ≠ '\n' ∧ unlines texts = body ++ [c, '\n']) ∧
      (unlines texts).head? ≠ some '\n' := by
  constructor
  · rcases List.eq_nil_or_concat' texts with rfl | ⟨before, t, rfl⟩
    · exact .inl rfl
    · have ht : t ≠ [] := by simpa using hlast
      obtain ⟨s, c, rfl⟩ := (List.eq_nil_or_concat' t).resolve_left ht
      refine .inr ⟨unlines before ++ s, c, fun hc => htexts (s ++ [c]) (by simp) (by simp [hc]), ?_⟩
      simp [unlines]
  · rcases texts with _ | ⟨t, texts⟩
    · simp
    · have ht : t ≠ [] := by simpa using hfirst
      obtain ⟨c, s, rfl⟩ := List.exists_cons_of_ne_nil ht
      rw [unlines_cons, List.cons_append, List.head?_cons]
      exact fun hc => htexts (c :: s) List.mem_cons_self (by simp [Option.some.inj hc])

/-- **A formatted document** is empty or ends with one line feed, starts with none, and is in normal form
outside of raw blocks just if the lines of the source do not leave it. -/
theorem isNormal_format_iff (hformat : format config source = .ok out) (hreturn : '\r' ∉ source) :
    (out = [] ∨ ∃ body c, c ≠ '\n' ∧ out = body ++ [c, '\n']) ∧ out.head? ≠ some '\n' ∧
      ∃ ls ls', documentLines config.tabSpaces source = .ok ls ∧
        documentLines config.tabSpaces out = .ok ls' ∧
        (IsNormal config.blankLinesUpperBound (lines out) ls' ↔ LeavesNormal config ls) := by
  obtain ⟨-, ls, hls, rfl⟩ := format_eq_ok_iff.mp hformat
  obtain ⟨hend, hstart⟩ := unlines_ends
    (fun u hu hc => (mem_of_mem_formattedLines hls hu hc).1 rfl)
    (head?_formattedLines_ne_nil ls) (getLast?_formattedLines_ne_nil ls)
  refine ⟨hend, hstart, ls, _, hls, documentLines_printed hls, ?_⟩
  have hsame : (formattedLines config ls).map readBack = formattedLines config ls := by
    rw [List.map_congr_left fun u hu => readBack_of_getLast?_ne fun hlast =>
      not_mem_of_mem_formattedLines hls hreturn hu (List.mem_of_getLast? hlast), List.map_id']
  rw [lines_printed_of_not_mem hls hreturn, hsame]
  exact isNormal_formattedLines_iff (documentLines_eq_ok_iff.mp hls).2.symm

/-- The normal form is left by an import of nothing but a comma: it is sorted into one that ends in a
blank. -/
theorem not_always_normal : ¬ ∀ config source out ls, format config source = .ok out →
    '\r' ∉ source → documentLines config.tabSpaces out = .ok ls →
    IsNormal config.blankLinesUpperBound (lines out) ls := by
  intro hall
  have hformat : format {} "#import \"x\": ,".toList = .ok "#import \"x\": \n".toList := by
    decide +kernel
  have hls : documentLines 2 "#import \"x\": \n".toList =
      .ok [⟨1, .importLine, [], "#import \"x\":".toList, 0⟩] := by
    decide +kernel
  have htrimmed := (hall {} _ _ _ hformat (by decide) hls).trimmed [] "#import \"x\": ".toList []
    (by decide +kernel) rfl rfl
  exact absurd htrimmed (by decide +kernel)

/-- Tabs, white space at the ends of lines and empty lines go from a title and a paragraph, and stay in
a raw block. -/
theorem isNormal_format_iff_listing :
    let source := "\n= Title \n\n\n\n\n\tx\n```\n\ty \n```".toList
    let out := "= Title\n\n\n  x\n```\n\ty \n```\n".toList
    '\r' ∉ source ∧ format {} source = .ok out ∧
      ∃ ls, documentLines 2 out = .ok ls ∧ IsNormal 2 (lines out) ls := by
  intro source out
  have hreturn : '\r' ∉ source := by decide
  have hformat : format {} source = .ok out := by decide +kernel
  obtain ⟨-, -, ls, ls', hls, hls', hnormal⟩ := isNormal_format_iff hformat hreturn
  refine ⟨hreturn, hformat, ls', hls', hnormal.mpr ?_⟩
  obtain ⟨-, rfl⟩ := documentLines_eq_ok_iff.mp hls
  have hkinds : ∀ line ∈ readLines 2 1 false 0 (sourceLines source), line.kind ≠ .importLine ∧
      line.isWrapped {} = false := by decide +kernel
  refine ⟨fun _ line hline himport => absurd himport (hkinds line hline).1,
    fun line hline hwrap => absurd hwrap (by simp [(hkinds line hline).2]), ?_⟩
  exact uncountedWithin_of_evenClosings (by decide +kernel)

end normalForm

end Tincture.Format
