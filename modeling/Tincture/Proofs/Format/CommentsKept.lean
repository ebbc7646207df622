import Mathlib.Data.List.Perm.Basic
import Tincture.Proofs.Format.CommentParts
import Tincture.Proofs.Format.Printed
import Tincture.Proofs.Format.SortedImports

/-!
# Comments of a formatted document

Sorting and wrapping know nothing of comments. When the items of an import are sorted, the first item
with a `//` takes all items that come to stand behind it into its comment, and lets go those that stood
there before. When a line is wrapped, what stood in its comment is code again on the next line. A line
keeps its comment just if neither happens (`Line.KeepsComment`, `comment_layOut_perm_iff`), and a
document does if all of its lines do (`comments_kept`).

The lines of the source and those that are printed differ in white space and are compared by what is
read off them without it (`IgnoresSpacing`).
-/

namespace Tincture.Format

open Text

variable {config : FormatConfig} {source out : List Char} {ls : List Line}

/-! ### Sorting -/

theorem solid_flatten_importItems (s : List Char) : solid (importItems s).flatten = solid s := by
  have hcomma : ∀ c, isSolid c = true → decide (c ≠ ',') = true := by
    intro c hc
    simpa using (Bool.and_eq_true_iff.mp hc).2
  rw [importItems, List.flatten_filter_not_isEmpty, solid_flatten_map_trim, flatten_splitOn,
    solid_filter hcomma]

/-- Sorting an import keeps its characters. -/
theorem solid_joinWith_sortItems (s : List Char) :
    (solid (joinWith [',', ' '] (sortItems (importItems s)))).Perm (solid s) := by
  rw [solid_joinWith (by decide), ← solid_flatten_importItems s]
  exact (sortItems_perm _).flatten.filter isSolid

/-- An import that can be sorted keeps what stands up to its last colon. -/
theorem sortImportItems_append {content head rest : List Char}
    (hsplit : splitAfterLastColon content = some (head, rest)) (hrest : IsSortable rest) :
    content = head ++ rest ∧
      sortImportItems content =
        head ++ ([' '] ++ joinWith [',', ' '] (sortItems (importItems rest))) := by
  constructor
  · obtain ⟨pre, rfl, hcontent⟩ := exists_of_splitAfterLastColon hsplit
    rw [hcontent, List.append_assoc]
    rfl
  · rw [sortImportItems_of_isSortable hsplit hrest, importItems_trim]
    rfl

theorem solid_sortImportItems (content : List Char) :
    (solid (sortImportItems content)).Perm (solid content) := by
  cases hsplit : splitAfterLastColon content with
  | none => rw [sortImportItems_of_none hsplit]
  | some found =>
    obtain ⟨head, rest⟩ := found
    by_cases hrest : IsSortable rest
    · obtain ⟨hcontent, hsort⟩ := sortImportItems_append hsplit hrest
      rw [hsort, hcontent, solid_append, solid_append, solid_append, List.perm_append_left_iff]
      exact solid_joinWith_sortItems rest
    · rw [sortImportItems_of_not_isSortable hsplit hrest]

/-- Behind `":` no slash is open, and no backslash. -/
theorem after_quoteColon (st : Scan) : let st' := (st.step '"').step ':'
    st' = .code ∨ st' = .string ∨ st' = .comment := by
  cases st <;> decide

theorem IsSortable.quote_not_mem {rest : List Char} (h : IsSortable rest) : '"' ∉ rest := by
  obtain ⟨lead, trail, hlead, htrail, hs⟩ := exists_eq_append_trim rest
  have hblank : isBlank '"' ≠ true := by decide
  intro hmem
  rw [hs, List.mem_append, List.mem_append] at hmem
  rcases hmem with (hmem | hmem) | hmem
  · exact hblank (hlead _ hmem)
  · exact (h.plain _ hmem).2.2.2 rfl
  · exact hblank (htrail _ hmem)

/-- **The comment of a sorted import** keeps its characters, unless the list of items is code and the
sorting moves items over its `//`. -/
theorem solid_commentOf_sortImportItems_iff {content head rest : List Char}
    (hsplit : splitAfterLastColon content = some (head, rest)) (hrest : IsSortable rest) :
    (solid (commentOf (sortImportItems content))).Perm (solid (commentOf content)) ↔
      (Scan.code.after head = .code →
        (solid (commentAmong (sortItems (importItems rest)))).Perm
          (solid (commentAmong (importItems rest)))) := by
  obtain ⟨hcontent, hsort⟩ := sortImportItems_append hsplit hrest
  have hstate : Scan.code.after head = .code ∨ Scan.code.after head = .string ∨
      Scan.code.after head = .comment := by
    obtain ⟨pre, rfl, -⟩ := exists_of_splitAfterLastColon hsplit
    rw [Scan.after_append]
    exact after_quoteColon _
  have hitems : ∀ item ∈ sortItems (importItems rest), '"' ∉ item := by
    intro item hitem hmem
    exact hrest.quote_not_mem (mem_of_mem_importItems (mem_sortItems_iff.mp hitem) hmem)
  rw [hsort, hcontent, commentOf, commentOf, Scan.commented_append _ head,
    Scan.commented_append _ head rest, solid_append, solid_append, List.perm_append_left_iff]
  rcases hstate with hcode | hstring | hcomment
  · have hglue : solid [',', ' '] = [] := by decide
    have hsorted := solid_commentOf_joinWith hglue (by simp) hitems
    have hlist := solid_commentOf_eq_importItems hrest.quote_not_mem
    rw [hcode, ← commentOf, ← commentOf, commentOf_append_left (by decide), hsorted, hlist]
    simp
  · -- a string that is open at the list stays open
    have hquote : '"' ∉ [' '] ++ joinWith [',', ' '] (sortItems (importItems rest)) := by
      intro hmem
      rcases mem_joinWith ((List.mem_cons.mp hmem).resolve_left (by decide)) with
        hcomma | hblank | ⟨item, hitem, hmem⟩
      · exact absurd hcomma (by decide)
      · exact absurd hblank (by decide)
      · exact hitems item hitem hmem
    rw [hstring, Scan.commented_inside hquote (.inl rfl),
      Scan.commented_inside hrest.quote_not_mem (.inl rfl)]
    simp
  · -- the list is in a comment, all of it
    rw [hcomment, Scan.commented_comment, Scan.commented_comment, solid_append]
    exact iff_of_true (solid_joinWith_sortItems rest) (by simp)

/-! ### Reading and printing -/

namespace IgnoresSpacing

variable {g : List Char → List Char} {tabSpaces number depth : Nat} {inRaw : Bool} {text : List Char}

theorem settled_eq (h : IgnoresSpacing g) (line : Line) :
    g (line.settled config) = g (line.sorted config) := by
  rw [Format.settled_eq]
  split
  · exact h.collapse _
  · rfl

/-- What a line gives is its text again, or its pieces if it is wrapped. -/
theorem flatMap_layOut (h : IgnoresSpacing g) :
    let line := Line.read tabSpaces number inRaw depth text
    (line.layOut config).flatMap g = if line.isWrapped config then (line.pieces config).flatMap g
      else g (line.sorted config) := by
  intro line
  cases inRaw with
  | true =>
    have hkind : line.kind = .rawFence ∨ line.kind = .raw := by
      cases hfence : startsFence (trimStart text) <;> simp [line, Line.read, hfence]
    have hwrap : line.isWrapped config = false :=
      isWrapped_eq_false (by rcases hkind with h | h <;> simp [h])
    have hsorted : line.sorted config = text := if_neg (by rcases hkind with h | h <;> simp [h])
    have hlayOut : line.layOut config = [text] := layOut_read_true config tabSpaces number depth text
    rw [hlayOut, hwrap, hsorted, List.flatMap_singleton]
    rfl
  | false =>
    have hindent : ∀ s, g (line.indent ++ s) = g s := fun s =>
      h.lead _ s fun c hc => (isBlank_of_mem_indent hc).1
    have hlayOut : line.layOut config = if trim text = [] then [[]]
        else if line.isWrapped config then (line.pieces config).map (line.indent ++ ·)
        else [line.indent ++ line.settled config] := layOut_ofText config tabSpaces number depth text
    rw [hlayOut, ← h.settled_eq]
    split_ifs with hnil hwrap hwrap
    · have hkind : line.kind = .blank := classify_eq_blank_iff.mpr hnil
      rw [kind_of_isWrapped hwrap] at hkind
      cases hkind
    · have hkind : line.kind = .blank := classify_eq_blank_iff.mpr hnil
      have hcontent : line.sorted config = [] := (if_neg (by simp [hkind])).trans hnil
      rw [h.settled_eq, hcontent, List.flatMap_singleton]
    · rw [List.flatMap_map]
      simp only [hindent]
    · rw [List.flatMap_singleton, hindent]

/-- What is read off the lines of a source is what is read off its texts. -/
theorem flatMap_lines_source (h : IgnoresSpacing g)
    (hlines : documentLines config.tabSpaces source = .ok ls) :
    (lines source).flatMap g = ls.flatMap fun line => g line.content := by
  obtain ⟨-, rfl⟩ := documentLines_eq_ok_iff.mp hlines
  have hread : ∀ number inRaw depth (texts : List (List Char)),
      (readLines config.tabSpaces number inRaw depth texts).flatMap (fun line => g line.content) =
        texts.flatMap g := by
    intro number inRaw depth texts
    induction texts generalizing number inRaw depth with
    | nil => rfl
    | cons text texts ih =>
      rw [readLines, List.flatMap_cons, List.flatMap_cons, ih]
      cases inRaw with
      | true => rfl
      | false =>
        have hcontent : (Line.read config.tabSpaces number false depth text).content = trim text := rfl
        rw [hcontent, h.trim_eq]
  rw [hread, sourceLines, List.flatMap_map]
  simp only [h.stripReturn_eq]

/-- What is read off a printed document is what is read off all that its lines give. -/
theorem flatMap_lines_printed (h : IgnoresSpacing g)
    (hlines : documentLines config.tabSpaces source = .ok ls) :
    (lines (unlines (formattedLines config ls))).flatMap g =
      ls.flatMap fun line => (line.layOut config).flatMap g := by
  have hfilter : ∀ texts : List (List Char), (texts.filter (· ≠ [])).flatMap g = texts.flatMap g := by
    intro texts
    induction texts with
    | nil => rfl
    | cons text texts ih =>
      by_cases hnil : text = []
      · rw [List.filter_cons_of_neg (by simpa using hnil), ih, List.flatMap_cons, hnil, h.nil,
          List.nil_append]
      · rw [List.filter_cons_of_pos (by simpa using hnil), List.flatMap_cons, List.flatMap_cons, ih]
  rw [lines_printed hlines, List.flatMap_map, ← List.flatMap_assoc, ← hfilter (ls.flatMap _),
    ← filter_formattedLines, hfilter]
  simp only [h.stripReturn_eq]

end IgnoresSpacing

/-! ### Lines -/

/-- The items in `rest`, behind `head`, are sorted on this line. -/
structure Line.SortsItems (config : FormatConfig) (line : Line) (head rest : List Char) : Prop where
  reorder : config.reorderImportItems = true
  kind : line.kind = .importLine
  split : splitAfterLastColon line.content = some (head, rest)
  sortable : IsSortable rest

/-- What the settings may not do to a line for its comment to keep its characters. -/
structure Line.KeepsComment (config : FormatConfig) (line : Line) : Prop where
  /-- Sorting items that are code leaves the same characters behind the first `//`. -/
  sorted : ∀ head rest, line.SortsItems config head rest → Scan.code.after head = .code →
    (solid (commentAmong (sortItems (importItems rest)))).Perm
      (solid (commentAmong (importItems rest)))
  /-- Wrapping leaves nothing for the lines behind the one where the comment starts. -/
  wrapped : line.isWrapped config = true →
    ∀ piece ∈ (fromComment (line.pieces config)).tail, solid piece = []

theorem isSortable_iff {rest : List Char} : IsSortable rest ↔
    ((trim rest).isEmpty || trim rest == ['*'] ||
      (trim rest).any fun c => c == '(' || c == ')' || c == '`' || c == '"') = false := by
  simp only [Bool.or_eq_false_iff, List.isEmpty_eq_false_iff, beq_eq_false_iff_ne, List.any_eq_false,
    Bool.or_eq_true, beq_iff_eq, not_or, and_assoc]
  constructor
  · intro h
    exact ⟨h.ne_nil, h.ne_all, h.plain⟩
  · rintro ⟨hne, hall, hplain⟩
    exact ⟨hne, hall, hplain⟩

instance (rest : List Char) : Decidable (IsSortable rest) :=
  decidable_of_iff _ isSortable_iff.symm

theorem sortsItems_iff {line : Line} {head rest : List Char} : line.SortsItems config head rest ↔
    (config.reorderImportItems = true ∧ line.kind = .importLine) ∧
      splitAfterLastColon line.content = some (head, rest) ∧ IsSortable rest := by
  constructor
  · intro h
    exact ⟨⟨h.reorder, h.kind⟩, h.split, h.sortable⟩
  · rintro ⟨⟨hreorder, hkind⟩, hsplit, hrest⟩
    exact ⟨hreorder, hkind, hsplit, hrest⟩

theorem keepsComment_iff {line : Line} : line.KeepsComment config ↔
    (∀ found ∈ splitAfterLastColon line.content, line.SortsItems config found.1 found.2 →
      Scan.code.after found.1 = .code →
        (solid (commentAmong (sortItems (importItems found.2)))).Perm
          (solid (commentAmong (importItems found.2)))) ∧
    (line.isWrapped config = true →
      ∀ piece ∈ (fromComment (line.pieces config)).tail, solid piece = []) := by
  constructor
  · intro h
    exact ⟨fun found _ => h.sorted found.1 found.2, h.wrapped⟩
  · rintro ⟨hsorted, hwrapped⟩
    exact ⟨fun head rest h => hsorted (head, rest) h.split h, hwrapped⟩

instance (config : FormatConfig) (line : Line) (head rest : List Char) :
    Decidable (line.SortsItems config head rest) :=
  decidable_of_iff _ sortsItems_iff.symm

instance (config : FormatConfig) (line : Line) : Decidable (line.KeepsComment config) :=
  decidable_of_iff _ keepsComment_iff.symm

theorem Line.SortsItems.sorted_eq {line : Line} {head rest : List Char}
    (h : line.SortsItems config head rest) : line.sorted config = sortImportItems line.content :=
  if_pos (by simp [h.reorder, h.kind])

theorem sorted_of_forall_not {line : Line} (h : ∀ head rest, ¬ line.SortsItems config head rest) :
    line.sorted config = line.content := by
  unfold Line.sorted
  split
  · rename_i hsort
    rw [Bool.and_eq_true, beq_iff_eq] at hsort
    cases hsplit : splitAfterLastColon line.content with
    | none => exact sortImportItems_of_none hsplit
    | some found =>
      obtain ⟨head, rest⟩ := found
      exact sortImportItems_of_not_isSortable hsplit fun hrest =>
        h head rest ⟨hsort.1, hsort.2, hsplit, hrest⟩
  · rfl

theorem not_sortsItems_of_isWrapped {line : Line} (hwrap : line.isWrapped config = true)
    (head rest : List Char) : ¬ line.SortsItems config head rest := by
  intro h
  have hkind := h.kind
  rw [kind_of_isWrapped hwrap] at hkind
  cases hkind

/-- **The comment of a line that is not wrapped** changes in the sorting only. -/
theorem solid_commentOf_sorted_perm_iff {line : Line} (hwrap : line.isWrapped config = false) :
    (solid (commentOf (line.sorted config))).Perm (solid (commentOf line.content)) ↔
      line.KeepsComment config := by
  by_cases hlist : ∃ head rest, line.SortsItems config head rest
  · obtain ⟨head, rest, hlist⟩ := hlist
    rw [hlist.sorted_eq, solid_commentOf_sortImportItems_iff hlist.split hlist.sortable]
    constructor
    · intro hperm
      refine ⟨fun head' rest' hlist' hcode => ?_, by simp [hwrap]⟩
      -- the line is cut in one way
      obtain ⟨rfl, rfl⟩ := Prod.mk.inj (Option.some.inj (hlist.split.symm.trans hlist'.split))
      exact hperm hcode
    · intro hkeeps
      exact hkeeps.sorted head rest hlist
  · have hnone : ∀ head rest, ¬ line.SortsItems config head rest := by simpa using hlist
    rw [sorted_of_forall_not hnone]
    exact iff_of_true (List.Perm.refl _)
      ⟨fun head rest hlist _ => absurd hlist (hnone head rest), by simp [hwrap]⟩

/-- **The comment of a wrapped line** is the one among its pieces. -/
theorem solid_commentAmong_pieces {line : Line} (hwrap : line.isWrapped config = true) :
    solid (commentAmong (line.pieces config)) = solid (commentOf line.content) := by
  have hquote : '"' ∉ line.settled config := fun hmem => (ne_of_isWrapped hwrap hmem).2.2.1 rfl
  rw [Line.pieces, ← solid_commentOf_eq_wrapWords _ hquote, ignoresSpacing_comment.settled_eq,
    sorted_of_forall_not (not_sortsItems_of_isWrapped hwrap)]

theorem keepsComment_of_isWrapped_iff {line : Line} (hwrap : line.isWrapped config = true) :
    line.KeepsComment config ↔
      ∀ piece ∈ (fromComment (line.pieces config)).tail, solid piece = [] :=
  ⟨fun hkeeps => hkeeps.wrapped hwrap, fun hpieces =>
    ⟨fun head rest hlist => absurd hlist (not_sortsItems_of_isWrapped hwrap head rest),
      fun _ => hpieces⟩⟩

/-! ### Comments of lines -/

section read

variable {tabSpaces number depth : Nat} {inRaw : Bool} {text : List Char}

/-- **What a line gives** has the characters of its comment in comments again just if the settings
leave the comment alone. -/
theorem comment_layOut_perm_iff : let line := Line.read tabSpaces number inRaw depth text
    (solid ((line.layOut config).flatMap commentOf)).Perm (solid (commentOf line.content)) ↔
      line.KeepsComment config := by
  intro line
  rw [solid_flatMap, ignoresSpacing_comment.flatMap_layOut]
  split_ifs with hwrap
  · rw [← solid_flatMap, keepsComment_of_isWrapped_iff hwrap, ← solid_commentAmong_pieces hwrap,
      solid_flatMap_commentOf_perm_iff]
  · exact solid_commentOf_sorted_perm_iff (by simpa using hwrap)

/-- Without sorting, a line gives no comments but its own. -/
theorem comment_layOut_sublist (hsort : config.reorderImportItems = false) :
    let line := Line.read tabSpaces number inRaw depth text
    (solid ((line.layOut config).flatMap commentOf)).Sublist (solid (commentOf line.content)) := by
  intro line
  have hsorted : line.sorted config = line.content := if_neg (by simp [hsort])
  rw [solid_flatMap, ignoresSpacing_comment.flatMap_layOut]
  split_ifs with hwrap
  · rw [← solid_flatMap, ← solid_commentAmong_pieces hwrap]
    exact solid_flatMap_commentOf_sublist _
  · rw [hsorted]

/-- All characters of a line are in what it gives. -/
theorem solid_layOut_perm : let line := Line.read tabSpaces number inRaw depth text
    ((line.layOut config).flatMap solid).Perm (solid line.content) := by
  intro line
  have hsorted : (solid (line.sorted config)).Perm (solid line.content) := by
    unfold Line.sorted
    split
    · exact solid_sortImportItems line.content
    · exact List.Perm.refl _
  rw [ignoresSpacing_solid.flatMap_layOut]
  split_ifs with hwrap
  · have hpieces : solid (line.pieces config).flatten = solid (line.settled config) :=
      filter_flatten_pieces (by decide) line
    rw [← solid_flatten, hpieces, ignoresSpacing_solid.settled_eq]
    exact hsorted
  · exact hsorted

end read

/-! ### Documents -/

/-- The characters of a text that are behind the `//` of their line. -/
def commented (s : List Char) : List Char :=
  (lines s).flatMap commentOf

/-- The other characters of its lines. -/
def uncommented (s : List Char) : List Char :=
  (lines s).flatMap codeOf

/-- Comments and code are all that a text has. -/
theorem solid_uncommented_append_commented (s : List Char) :
    (solid (uncommented s) ++ solid (commented s)).Perm (solid s) := by
  have hlines : solid (lines s).flatten = solid s :=
    filter_flatten_lines (by decide) (by decide) s
  have hwhole : (lines s).flatMap (fun line => codeOf line ++ commentOf line) = (lines s).flatten := by
    simp only [codeOf_append_commentOf]
    exact List.flatMap_id
  rw [← hlines, ← hwhole, ← solid_append]
  exact (List.flatMap_append_perm (lines s) codeOf commentOf).filter isSolid

/-- A printed document has the characters of its source. -/
theorem solid_printed (hlines : documentLines config.tabSpaces source = .ok ls) :
    (solid (unlines (formattedLines config ls))).Perm (solid source) := by
  have hline : ∀ line ∈ ls, ((line.layOut config).flatMap solid).Perm (solid line.content) := by
    intro line hline
    obtain ⟨-, rfl⟩ := documentLines_eq_ok_iff.mp hlines
    obtain ⟨number, inRaw, depth, text, -, rfl⟩ := exists_read_of_mem_readLines _ hline
    exact solid_layOut_perm
  have hof : ∀ s : List Char, (lines s).flatMap solid = solid s := by
    intro s
    rw [← solid_flatten]
    exact filter_flatten_lines (by decide) (by decide) s
  rw [← hof, ← hof, ignoresSpacing_solid.flatMap_lines_printed hlines,
    ignoresSpacing_solid.flatMap_lines_source hlines]
  exact List.Perm.flatMap_left ls hline

/-- So code is lost where comments win, and the other way round. -/
theorem uncommented_perm_iff (h : (solid out).Perm (solid source)) :
    (solid (uncommented out)).Perm (solid (uncommented source)) ↔
      (solid (commented out)).Perm (solid (commented source)) := by
  have hwhole : (solid (uncommented out) ++ solid (commented out)).Perm
      (solid (uncommented source) ++ solid (commented source)) :=
    (solid_uncommented_append_commented out).trans
      (h.trans (solid_uncommented_append_commented source).symm)
  constructor
  · intro hcode
    exact (List.perm_append_left_iff _).mp (hwhole.trans (hcode.symm.append_right _))
  · intro hcomment
    exact (List.perm_append_right_iff _).mp (hwhole.trans (hcomment.symm.append_left _))

/-- **Comments in a formatted document.** All characters of the source are printed. A line gives its
comment in comments just if the settings leave that alone; if they do so on all lines, no character goes
from code to a comment or back, and without sorting this is the only way. -/
theorem comments_kept (hformat : format config source = .ok out) :
    (solid out).Perm (solid source) ∧
    ∃ ls, documentLines config.tabSpaces source = .ok ls ∧
      (∀ line ∈ ls,
        (solid ((line.layOut config).flatMap commentOf)).Perm (solid (commentOf line.content)) ↔
          line.KeepsComment config) ∧
      ((∀ line ∈ ls, line.KeepsComment config) →
        (solid (commented out)).Perm (solid (commented source)) ∧
        (solid (uncommented out)).Perm (solid (uncommented source))) ∧
      (config.reorderImportItems = false → (solid (commented out)).Perm (solid (commented source)) →
        ∀ line ∈ ls, line.KeepsComment config) := by
  obtain ⟨-, ls, hlines, rfl⟩ := format_eq_ok_iff.mp hformat
  have hread : ∀ line ∈ ls, ∃ number inRaw depth text,
      line = Line.read config.tabSpaces number inRaw depth text := by
    intro line hline
    obtain ⟨-, rfl⟩ := documentLines_eq_ok_iff.mp hlines
    obtain ⟨number, inRaw, depth, text, -, hline⟩ := exists_read_of_mem_readLines _ hline
    exact ⟨number, inRaw, depth, text, hline⟩
  have hline : ∀ line ∈ ls,
      (solid ((line.layOut config).flatMap commentOf)).Perm (solid (commentOf line.content)) ↔
        line.KeepsComment config := by
    intro line hline
    obtain ⟨number, inRaw, depth, text, rfl⟩ := hread line hline
    exact comment_layOut_perm_iff
  -- both documents line by line, as the lines of the source have it
  have hprinted : solid (commented (unlines (formattedLines config ls))) =
      ls.flatMap fun line => solid ((line.layOut config).flatMap commentOf) := by
    rw [commented, solid_flatMap, ignoresSpacing_comment.flatMap_lines_printed hlines]
    simp only [solid_flatMap]
  have hsource : solid (commented source) = ls.flatMap fun line => solid (commentOf line.content) := by
    rw [commented, solid_flatMap, ignoresSpacing_comment.flatMap_lines_source hlines]
  refine ⟨solid_printed hlines, ls, hlines, hline, fun hkeep => ?_, fun hsort hperm => ?_⟩
  · have hcomment : (solid (commented (unlines (formattedLines config ls)))).Perm
        (solid (commented source)) := by
      rw [hprinted, hsource]
      exact List.Perm.flatMap_left ls fun line hmem => (hline line hmem).mpr (hkeep line hmem)
    exact ⟨hcomment, (uncommented_perm_iff (solid_printed hlines)).mpr hcomment⟩
  · have hpart : ∀ line ∈ ls, (solid ((line.layOut config).flatMap commentOf)).Sublist
        (solid (commentOf line.content)) := by
      intro line hmem
      obtain ⟨number, inRaw, depth, text, rfl⟩ := hread line hmem
      exact comment_layOut_sublist hsort
    rw [hprinted, hsource, flatMap_perm_iff_of_sublist hpart] at hperm
    intro line hmem
    rw [← hline line hmem, hperm line hmem]

theorem layOut_of_importLine {line : Line} (hkind : line.kind = .importLine)
    (hreorder : config.reorderImportItems = true) (hcollapse : config.collapseMarkupSpaces = false) :
    line.layOut config = [line.indent ++ sortImportItems line.content] := by
  have hwrap : line.isWrapped config = false := isWrapped_eq_false (by simp [hkind])
  rw [layOut_eq (by simp [hkind]) (by simp [hkind]), hwrap]
  simp [Line.settled, hkind, hreorder, hcollapse]

/-- An import with a comment behind its items is sorted, and a paragraph is wrapped. -/
theorem comments_kept_behind_items :
    let config : FormatConfig := { maxWidth := 8, wrapText := true }
    let source := "#import \"x\": b, a, c // the note\n\none two three\n= A // B\n".toList
    let out := "#import \"x\": a, b, c // the note\n\none two\nthree\n= A // B\n".toList
    format config source = .ok out ∧
      (solid (commented out)).Perm (solid (commented source)) ∧
      (solid (uncommented out)).Perm (solid (uncommented source)) := by
  intro config source out
  let unsorted : Line := ⟨1, .importLine, [], "#import \"x\": b, a, c // the note".toList, 0⟩
  let others : List Line := [⟨2, .blank, [], [], 0⟩, ⟨3, .paragraph, [], "one two three".toList, 0⟩,
    ⟨4, .heading 1, [], "= A // B".toList, 0⟩]
  have hsorted : unsorted.layOut config = ["#import \"x\": a, b, c // the note".toList] := by
    have hsplit : splitAfterLastColon unsorted.content =
        some ("#import \"x\":".toList, " b, a, c // the note".toList) := by decide
    have hitems : sortItems (importItems " b, a, c // the note".toList) =
        ["a".toList, "b".toList, "c // the note".toList] := sortItems_eq (by decide) (by decide)
    rw [layOut_of_importLine rfl rfl rfl, (sortImportItems_append hsplit (by decide)).2, hitems]
    rfl
  have hlines : documentLines config.tabSpaces source = .ok (unsorted :: others) := by decide +kernel
  have hformat : format config source = .ok out := by
    refine format_eq_ok_iff.mpr ⟨rfl, unsorted :: others, hlines, ?_⟩
    rw [formattedLines, List.flatMap_cons, hsorted]
    decide +kernel
  obtain ⟨-, ls, hls, hline, hkept, -⟩ := comments_kept hformat
  obtain rfl : ls = unsorted :: others := Except.ok.inj (hls.symm.trans hlines)
  have hkeep : ∀ line ∈ unsorted :: others, line.KeepsComment config := by
    rw [List.forall_mem_cons]
    constructor
    · rw [← hline unsorted List.mem_cons_self, hsorted]
      decide
    · decide +kernel
  exact ⟨hformat, hkept hkeep⟩

/-- Sorting takes an item into a comment. -/
theorem not_always_kept_in_comments : ¬ ∀ (config : FormatConfig) (source out : List Char),
    format config source = .ok out →
      (solid (commented out)).Perm (solid (commented source)) ∧
      (solid (uncommented out)).Perm (solid (uncommented source)) := by
  let unsorted : Line := ⟨1, .importLine, [], "#import \"x\": b, a // note".toList, 0⟩
  have hsorted : unsorted.layOut {} = ["#import \"x\": a // note, b".toList] := by
    have hsplit : splitAfterLastColon unsorted.content =
        some ("#import \"x\":".toList, " b, a // note".toList) := by decide
    have hitems : sortItems (importItems " b, a // note".toList) =
        ["a // note".toList, "b".toList] := sortItems_eq (by decide) (by decide)
    rw [layOut_of_importLine rfl rfl rfl, (sortImportItems_append hsplit (by decide)).2, hitems]
    rfl
  have hformat : format {} "#import \"x\": b, a // note".toList =
      .ok "#import \"x\": a // note, b\n".toList := by
    refine format_eq_ok_iff.mpr ⟨rfl, [unsorted], by decide +kernel, ?_⟩
    rw [formattedLines, List.flatMap_singleton, hsorted]
    decide +kernel
  intro hall
  exact absurd (hall {} _ _ hformat).1 (by decide +kernel)

end Tincture.Format
