import Mathlib.Algebra.Group.Nat.Even
import Tincture.Proofs.Format.Printed

/-!
# Raw blocks are verbatim

What a raw block holds is what stands in the source (`exists_texts_of_rawBlock`), and each of its lines
gives itself. It is printed as it is just if the empty lines in it are not counted, or none of them is
one too many (`rawBlock_printed_iff`). They are counted where a raw block is not taken for open, which is
the case in every block that comes behind an odd number of blocks closed with an even number of fences.
-/

namespace Tincture.Format

open Text

/-! ### What a raw block holds -/

theorem kind_read_true_eq_rawFence_iff {tabSpaces number depth : Nat} {text : List Char} :
    (Line.read tabSpaces number true depth text).kind = .rawFence ↔
      startsFence (trimStart text) = true := by
  cases hfence : startsFence (trimStart text) <;> simp [Line.read, hfence]

/-- The lines inside a raw block are their texts up to the next one that starts with a fence. -/
theorem exists_texts_of_readLines_true {tabSpaces number depth : Nat} {texts : List (List Char)}
    {interior after : List Line} {closing : Line}
    (h : readLines tabSpaces number true depth texts = interior ++ closing :: after)
    (hinside : ∀ line ∈ interior, line.kind = .raw) (hclosing : closing.kind = .rawFence) :
    ∃ textsAfter, texts = interior.map Line.content ++ closing.content :: textsAfter ∧
      (∀ config, ∀ line ∈ interior ++ [closing], line.layOut config = [line.content]) ∧
      (∀ t ∈ interior.map Line.content, startsFence (trimStart t) = false) ∧
      startsFence (trimStart closing.content) = true := by
  induction interior generalizing number texts with
  | nil =>
    rcases texts with _ | ⟨text, texts⟩
    · cases h
    rw [readLines, List.nil_append] at h
    obtain ⟨rfl, -⟩ := List.cons.inj h
    refine ⟨texts, rfl, fun config line hline => ?_, by simp,
      kind_read_true_eq_rawFence_iff.mp hclosing⟩
    rw [List.nil_append, List.mem_singleton] at hline
    rw [hline, layOut_read_true]
    rfl
  | cons line interior ih =>
    rcases texts with _ | ⟨text, texts⟩
    · cases h
    rw [readLines, List.cons_append] at h
    obtain ⟨rfl, hrest⟩ := List.cons.inj h
    obtain ⟨hline, hinside⟩ := List.forall_mem_cons.mp hinside
    have hfence : startsFence (trimStart text) = false := by
      rw [Bool.eq_false_iff]
      intro hfence
      rw [kind_read_true_eq_rawFence_iff.mpr hfence] at hline
      cases hline
    rw [depthBehind_read_true, show rawAfter true text = true by simp [rawAfter, hfence]] at hrest
    obtain ⟨textsAfter, rfl, hgives, htexts, hends⟩ := ih hrest hinside
    refine ⟨textsAfter, rfl, fun config => ?_, List.forall_mem_cons.mpr ⟨hfence, htexts⟩, hends⟩
    exact List.forall_mem_cons.mpr ⟨layOut_read_true config tabSpaces number depth text,
      hgives config⟩

/-- **A raw block** holds what stands in the source behind its first line, up to the next line that
starts with a fence, and its lines give what they hold. -/
theorem exists_texts_of_rawBlock {tabSpaces : Nat} {source : List Char}
    {ls before interior after : List Line} {opening closing : Line}
    (hls : documentLines tabSpaces source = .ok ls)
    (hblock : RawBlock ls before opening interior closing after) :
    ∃ number depth textsBefore opener textsAfter,
      sourceLines source = textsBefore ++ opener ::
        (interior.map Line.content ++ closing.content :: textsAfter) ∧
      before = readLines tabSpaces 1 false 0 textsBefore ∧
      textsBefore.foldl rawAfter false = false ∧
      opening = Line.ofText tabSpaces number depth opener ∧ rawAfter false opener = true ∧
      (∀ config, ∀ line ∈ interior ++ [closing], line.layOut config = [line.content]) ∧
      (∀ t ∈ interior.map Line.content, startsFence (trimStart t) = false) ∧
      startsFence (trimStart closing.content) = true := by
  obtain ⟨-, hread⟩ := documentLines_eq_ok_iff.mp hls
  rw [hblock.eq] at hread
  obtain ⟨textsBefore, texts, hsource, hbefore, hrest⟩ := exists_of_readLines_eq_append _ hread.symm
  have houtside : textsBefore.foldl rawAfter false = false := by
    rw [← foldl_rawBehind_readLines tabSpaces 1 false 0, ← hbefore]
    exact hblock.outside
  rw [houtside] at hrest
  rcases texts with _ | ⟨opener, texts⟩
  · cases hrest
  rw [readLines] at hrest
  obtain ⟨hopening, hinside⟩ := List.cons.inj hrest
  have hopens := hblock.opens
  rw [hopening, rawBehind_read] at hopens
  rw [hopens] at hinside
  obtain ⟨textsAfter, rfl, hgives, htexts, hends⟩ :=
    exists_texts_of_readLines_true hinside.symm hblock.inside hblock.closes
  exact ⟨_, _, textsBefore, opener, textsAfter, hsource, hbefore, houtside, hopening, hopens, hgives,
    htexts, hends⟩

/-! ### What is printed of it -/

theorem isToggle_of_not_startsFence {text : List Char} (h : startsFence (trimStart text) = false) :
    isToggle text = false := by
  rw [isToggle, h, Bool.false_and]

/-- Before a line that starts with a fence, the lines that do not start with one are given. -/
theorem eq_of_append_fence_eq {s t : List (List Char)} {fence : List Char}
    {after after' : List (List Char)} (hs : ∀ u ∈ s, startsFence (trimStart u) = false)
    (ht : ∀ u ∈ t, startsFence (trimStart u) = false) (hfence : startsFence (trimStart fence) = true)
    (h : s ++ fence :: after = t ++ fence :: after') : s = t := by
  have htake : ∀ {r : List (List Char)} (rest), (∀ u ∈ r, startsFence (trimStart u) = false) →
      (r ++ fence :: rest).takeWhile (fun u => !startsFence (trimStart u)) = r := by
    intro r rest hr
    rw [List.takeWhile_append_of_pos fun u hu => by simp [hr u hu]]
    simp [hfence]
  rw [← htake after hs, h, htake after' ht]

/-- Lines behind the one that opens a raw block, and before the one that closes it. -/
theorem capBlanks_block {bound : Nat} {toggled : Bool} {interior : List (List Char)}
    {closing : List Char} (hinterior : ∀ t ∈ interior, startsFence (trimStart t) = false)
    (hclosing : startsFence (trimStart closing) = true) (after : List (List Char)) :
    (∃ rest, dropEmptyEnd (capBlanks bound toggled 0 true (interior ++ closing :: after)) =
        interior ++ closing :: rest) ↔ toggled = true ∨ RunsWithin bound interior := by
  have htoggle : ∀ t ∈ interior, isToggle t = false := fun t ht =>
    isToggle_of_not_startsFence (hinterior t ht)
  have hne : closing ≠ [] := by
    rintro rfl
    cases hclosing
  rw [capBlanks_append_cons hne, dropEmptyEnd_append_cons hne]
  cases toggled with
  | true =>
    rw [capBlanks_raw_eq_self htoggle]
    exact iff_of_true ⟨_, rfl⟩ (.inl rfl)
  | false =>
    rw [← capBlanks_eq_self_iff htoggle]
    refine ⟨fun ⟨rest, hrest⟩ => .inr ?_, fun h => ⟨_, by rw [h.resolve_left Bool.false_ne_true]⟩⟩
    refine eq_of_append_fence_eq (fun u hu => ?_) hinterior hclosing hrest
    by_cases hnil : u = []
    · rw [hnil]
      rfl
    · exact hinterior u (mem_of_filter_eq (filter_capBlanks bound 0 false true interior) hu hnil)

/-- The lines of a raw block give the fence that opens it, without white space at its end, and what
they hold. -/
theorem flatMap_layOut_of_rawBlock {config : FormatConfig} {ls before interior after : List Line}
    {opening closing : Line} (hblock : RawBlock ls before opening interior closing after)
    (hgives : ∀ line ∈ interior ++ [closing], line.layOut config = [line.content]) :
    ls.flatMap (Line.layOut config) = before.flatMap (Line.layOut config) ++
      (opening.indent ++ opening.content) ::
        (interior.map Line.content ++ closing.content :: after.flatMap (Line.layOut config)) := by
  have hopening : opening.kind = .rawFence := by
    have hopens := hblock.opens
    simp only [Line.rawBehind, Bool.false_eq_true, ↓reduceIte, Bool.and_eq_true, beq_iff_eq] at hopens
    exact hopens.1
  have hinterior : interior.flatMap (Line.layOut config) = interior.map Line.content := by
    rw [List.map_eq_flatMap]
    exact List.flatMap_congr fun line hline => hgives line (List.mem_append_left _ hline)
  rw [hblock.eq, List.flatMap_append, List.flatMap_cons, List.flatMap_append, List.flatMap_cons,
    layOut_of_rawFence hopening, hinterior, hgives closing (by simp)]
  rfl

/-- **A raw block is verbatim**, right behind the fence that opens it, just if an even number of blocks
before it are closed with an even number of fences, or no run of empty lines in it is too long. -/
theorem rawBlock_printed_iff {config : FormatConfig} {source out : List Char}
    (hformat : format config source = .ok out) (hreturn : '\r' ∉ source) :
    ∃ ls, documentLines config.tabSpaces source = .ok ls ∧
      ∀ before opening interior closing after, RawBlock ls before opening interior closing after →
        (∃ textsBefore opener textsAfter, lines source = textsBefore ++ opener ::
            (interior.map Line.content ++ closing.content :: textsAfter) ∧
          textsBefore.length = before.length ∧ opening.content = trim opener) ∧
        ((∃ rest, lines out = capBlanks config.blankLinesUpperBound false 0 false
              (before.flatMap (Line.layOut config)) ++ (opening.indent ++ opening.content) ::
                (interior.map Line.content ++ closing.content :: rest)) ↔
          Even (evenClosings false before) ∨
            RunsWithin config.blankLinesUpperBound (interior.map Line.content)) := by
  obtain ⟨-, ls, hls, rfl⟩ := format_eq_ok_iff.mp hformat
  refine ⟨ls, hls, fun before opening interior closing after hblock => ?_⟩
  obtain ⟨number, depth, textsBefore, opener, textsAfter, hsource, hbefore, houtside, rfl, hopens,
    hgives, hinterior, hclosing⟩ := exists_texts_of_rawBlock hls hblock
  set op := (Line.ofText config.tabSpaces number depth opener).indent ++
    (Line.ofText config.tabSpaces number depth opener).content with hop
  constructor
  · rw [sourceLines, List.map_congr_left fun t ht => stripReturn_of_not_mem fun hc =>
      hreturn (mem_of_mem_lines ht hc), List.map_id'] at hsource
    exact ⟨textsBefore, opener, textsAfter, hsource, by rw [hbefore, length_readLines], rfl⟩
  have htoggle : isToggle op = true := by
    rw [isToggle_eq_rawAfter, ← hopens]
    exact rawAfter_eq_of_trim_eq (trim_indent_append ..)
  have hne : op ≠ [] := by
    rintro hnil
    rw [hnil] at htoggle
    cases htoggle
  -- whether a raw block is taken for open behind the fence
  have htoggled : toggleAfter ((before.flatMap (Line.layOut config)).foldl toggleAfter false) op =
      !(evenClosings false before % 2 == 1) := by
    rw [hbefore, foldl_toggleAfter_flatMap, houtside, toggleAfter, htoggle]
    simp
  have heven : Even (evenClosings false before) ↔
      (!(evenClosings false before % 2 == 1)) = true := by
    rw [Nat.even_iff]
    simp
  rw [lines_printed_of_not_mem hls hreturn, formattedLines,
    flatMap_layOut_of_rawBlock hblock (hgives config), capBlanks_append_cons hne,
    dropEmptyEnd_append_cons hne, htoggled, heven,
    ← capBlanks_block hinterior hclosing (after.flatMap (Line.layOut config))]
  simp only [List.append_cancel_left_eq, List.cons.injEq, true_and]

/-! ### A block that is not verbatim -/

/-- A block closed with two fences at once, and one behind it with three empty lines. -/
def twoBlocks : List Char :=
  "```\nx\n``````\n```\na\n\n\n\nb\n```".toList

/-- The lines of the first block. -/
def firstBlock : List Line :=
  [⟨1, .rawFence, [], "```".toList, 0⟩, ⟨2, .raw, [], ['x'], 0⟩,
    ⟨3, .rawFence, [], "``````".toList, 0⟩]

/-- The lines inside the second one. -/
def secondInterior : List Line :=
  [⟨5, .raw, [], ['a'], 0⟩, ⟨6, .raw, [], [], 0⟩, ⟨7, .raw, [], [], 0⟩, ⟨8, .raw, [], [], 0⟩,
    ⟨9, .raw, [], ['b'], 0⟩]

theorem documentLines_twoBlocks : documentLines 2 twoBlocks =
    .ok (firstBlock ++ ⟨4, .rawFence, [], "```".toList, 0⟩ ::
      (secondInterior ++ [⟨10, .rawFence, [], "```".toList, 0⟩])) := by
  decide +kernel

theorem rawBlock_twoBlocks :
    RawBlock (firstBlock ++ ⟨4, .rawFence, [], "```".toList, 0⟩ ::
        (secondInterior ++ [⟨10, .rawFence, [], "```".toList, 0⟩]))
      firstBlock ⟨4, .rawFence, [], "```".toList, 0⟩ secondInterior
      ⟨10, .rawFence, [], "```".toList, 0⟩ [] :=
  ⟨rfl, by decide, by decide, by decide, rfl⟩

theorem format_twoBlocks :
    format {} twoBlocks = .ok "```\nx\n``````\n```\na\n\n\nb\n```\n".toList := by
  decide +kernel

/-- Raw blocks are not always verbatim: one of the empty lines in the second block is left out. -/
theorem not_always_verbatim : ¬ ∀ config source out ls before opening interior closing after,
    format config source = .ok out → '\r' ∉ source →
    documentLines config.tabSpaces source = .ok ls →
    RawBlock ls before opening interior closing after →
    (opening.indent ++ opening.content) :: (interior.map Line.content ++ [closing.content]) <:+:
      lines out := by
  intro hall
  have hverbatim := hall {} twoBlocks _ _ _ _ _ _ _ format_twoBlocks (by decide)
    documentLines_twoBlocks rawBlock_twoBlocks
  exact absurd hverbatim (by decide +kernel)

/-- The second block is not printed as it is, as the first one is closed with two fences. -/
theorem rawBlock_printed_iff_twoBlocks :
    '\r' ∉ twoBlocks ∧ evenClosings false firstBlock = 1 ∧
      ∃ out, format {} twoBlocks = .ok out ∧
        ¬ ∃ rest, lines out = firstBlock.map Line.content ++ "```".toList ::
          (secondInterior.map Line.content ++ "```".toList :: rest) := by
  have hreturn : '\r' ∉ twoBlocks := by decide
  have heven : evenClosings false firstBlock = 1 := by decide
  obtain ⟨ls, hls, hblocks⟩ := rawBlock_printed_iff format_twoBlocks hreturn
  rw [documentLines_twoBlocks, Except.ok.injEq] at hls
  obtain ⟨-, hprinted⟩ := hblocks _ _ _ _ _ (hls ▸ rawBlock_twoBlocks)
  refine ⟨hreturn, heven, _, format_twoBlocks, fun hrest => ?_⟩
  rcases hprinted.mp hrest with hnone | hwithin
  · rw [heven] at hnone
    exact absurd hnone (by decide)
  · exact absurd (hwithin 3 ⟨[['a']], [['b']], rfl⟩) (by decide)

end Tincture.Format
