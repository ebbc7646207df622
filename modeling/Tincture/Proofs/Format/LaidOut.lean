import Tincture.Proofs.Format.BlankRuns
import Tincture.Proofs.Format.LineStarts
import Tincture.Proofs.Format.RawBlocks
import Tincture.Proofs.Format.Wrapping

/-!
# What a line gives

A line inside a raw block gives itself (`layOut_read_true`). Outside, a line of white space gives one
empty line, a wrapped one its pieces, and any other one text, each behind the indentation
(`layOut_ofText`). The text of a line keeps the start by which the line is classified
(`sameStart_settled`), so it is of the same kind when it is read again, and what a line gives leaves
raw blocks open or closed as the line does (`foldl_rawAfter_layOut`, `foldl_toggleAfter_layOut`).
-/

namespace Tincture.Format

open Text

/-! ### The text of a line -/

variable {config : FormatConfig}

/-- The text of a line after sorting, before collapsing. -/
def Line.sorted (config : FormatConfig) (line : Line) : List Char :=
  if config.reorderImportItems && line.kind == .importLine then sortImportItems line.content
  else line.content

theorem settled_eq (line : Line) :
    line.settled config = if config.collapseMarkupSpaces && line.kind != .rawFence then
      collapseSpaces (line.sorted config) else line.sorted config := rfl

theorem sameStart_settled {line : Line} (h : line.kind = LineKind.classify line.content) :
    SameStart (line.settled config) line.content := by
  have hsorted : SameStart (line.sorted config) line.content := by
    unfold Line.sorted
    split
    · rename_i hsort
      rw [Bool.and_eq_true, beq_iff_eq] at hsort
      exact sameStart_sortImportItems (h ▸ hsort.2)
    · exact .inl rfl
  rw [settled_eq]
  split
  · exact (sameStart_collapseSpaces _).trans hsorted
  · exact hsorted

/-- The text of a line ends in white space just if it is an import that names nothing. -/
theorem trimEnd_settled_iff {line : Line} (h : trimEnd line.content = line.content) :
    trimEnd (line.settled config) = line.settled config ↔
      (config.reorderImportItems = true → line.kind = .importLine → NamesItems line.content) := by
  have hsorted : trimEnd (line.sorted config) = line.sorted config ↔
      (config.reorderImportItems = true → line.kind = .importLine → NamesItems line.content) := by
    unfold Line.sorted
    by_cases hsort : config.reorderImportItems = true ∧ line.kind = .importLine
    · rw [if_pos (by simpa using hsort), trimEnd_sortImportItems_iff h]
      exact ⟨fun hnames _ _ => hnames, fun hnames => hnames hsort.1 hsort.2⟩
    · rw [if_neg (by simpa using hsort)]
      exact iff_of_true h fun hreorder hkind => absurd ⟨hreorder, hkind⟩ hsort
  rw [settled_eq]
  split
  · rw [trimEnd_collapseSpaces_iff, hsorted]
  · exact hsorted

theorem settled_of_rawFence {line : Line} (h : line.kind = .rawFence) :
    line.settled config = line.content := by
  simp [Line.settled, h]

/-- Without sorting, all characters but blanks are kept. -/
theorem filter_settled {p : Char → Bool} (hp : p ' ' = false) {line : Line}
    (h : config.reorderImportItems = false ∨ line.kind ≠ .importLine) :
    (line.settled config).filter p = line.content.filter p := by
  have hsorted : line.sorted config = line.content := by
    unfold Line.sorted
    refine if_neg fun hsort => ?_
    rw [Bool.and_eq_true, beq_iff_eq] at hsort
    exact h.elim (fun hoff => by simp [hoff] at hsort) fun hkind => hkind hsort.2
  rw [settled_eq, hsorted]
  split
  · exact filter_collapseSpaces hp _
  · rfl

/-! ### Indentation -/

theorem isBlank_of_mem_expandTabs {tabSpaces : Nat} {lead : List Char}
    (h : ∀ c ∈ lead, isBlank c = true) {c : Char} (hc : c ∈ expandTabs tabSpaces lead) :
    isBlank c = true ∧ c ≠ '\t' := by
  obtain ⟨d, hd, hc⟩ := List.mem_flatMap.mp hc
  by_cases htab : d = '\t'
  · rw [if_pos htab] at hc
    rw [List.eq_of_mem_replicate hc]
    decide
  · rw [if_neg htab, List.mem_singleton] at hc
    exact ⟨hc ▸ h d hd, hc ▸ htab⟩

theorem expandTabs_of_not_mem {tabSpaces : Nat} {lead : List Char} (h : '\t' ∉ lead) :
    expandTabs tabSpaces lead = lead := by
  induction lead with
  | nil => rfl
  | cons c lead ih =>
    obtain ⟨hc, hlead⟩ := List.ne_and_not_mem_of_not_mem_cons h
    rw [expandTabs, List.flatMap_cons, if_neg hc.symm, ← expandTabs, ih hlead]
    rfl

/-- The indentation of a line is white space without tabs. -/
theorem isBlank_of_mem_indent {tabSpaces number depth : Nat} {text : List Char} {c : Char}
    (hc : c ∈ (Line.ofText tabSpaces number depth text).indent) : isBlank c = true ∧ c ≠ '\t' :=
  isBlank_of_mem_expandTabs (fun _ hd => List.mem_takeWhile_imp hd) hc

/-- The indentation and the text of a line are the text without the white space at its end, as far
as tabs are not written in blanks. -/
theorem trim_indent_append (tabSpaces number depth : Nat) (text : List Char) :
    trim ((Line.ofText tabSpaces number depth text).indent ++
      (Line.ofText tabSpaces number depth text).content) = trim text :=
  (trim_append_of_isBlank (fun _ hc => (isBlank_of_mem_indent hc).1) _).trans (trim_trim text)

/-! ### What a line gives -/

/-- Whether a line is wrapped. -/
def Line.isWrapped (config : FormatConfig) (line : Line) : Bool :=
  config.wrapText && isWrappable line (line.settled config) &&
    config.maxWidth < byteLength line.indent + (line.settled config).length

/-- The lines that a line is wrapped into, without indentation. -/
def Line.pieces (config : FormatConfig) (line : Line) : List (List Char) :=
  wrapWords (config.maxWidth - byteLength line.indent) (line.settled config)

theorem filter_flatten_pieces {p : Char → Bool} (hp : p ' ' = false) (line : Line) :
    (line.pieces config).flatten.filter p = (line.settled config).filter p :=
  filter_flatten_wrapWords hp _ _

theorem kind_of_isWrapped {line : Line} (h : line.isWrapped config = true) :
    line.kind = .paragraph := by
  simp only [Line.isWrapped, isWrappable, Bool.and_eq_true, beq_iff_eq] at h
  exact h.1.2.1.1.1

theorem isWrapped_eq_false {line : Line} (h : line.kind ≠ .paragraph) :
    line.isWrapped config = false := by
  rw [Bool.eq_false_iff]
  exact fun hwrap => h (kind_of_isWrapped hwrap)

/-- A wrapped line holds none of the characters that must stay together. -/
theorem ne_of_isWrapped {line : Line} (h : line.isWrapped config = true) {c : Char}
    (hc : c ∈ line.settled config) :
    c ≠ '`' ∧ c ≠ '$' ∧ c ≠ '"' ∧ c ≠ '\x7b' ∧ c ≠ '\x7d' := by
  simp only [Line.isWrapped, isWrappable, Bool.and_eq_true] at h
  have hnone := h.1.2.2
  simp only [Bool.not_eq_true', List.any_eq_false] at hnone
  simpa [and_assoc] using hnone c hc

theorem isAlphanumeric_of_isWrapped {line : Line} (h : line.isWrapped config = true) :
    ∃ c rest, line.settled config = c :: rest ∧ isAlphanumeric c = true := by
  simp only [Line.isWrapped, isWrappable, Bool.and_eq_true] at h
  have hletter := h.1.2.1.2
  cases hsettled : line.settled config with
  | nil => simp [hsettled] at hletter
  | cons c rest => exact ⟨c, rest, rfl, by simpa [hsettled] using hletter⟩

/-- A line inside a raw block gives itself. -/
theorem layOut_read_true (config : FormatConfig) (tabSpaces number depth : Nat)
    (text : List Char) : (Line.read tabSpaces number true depth text).layOut config = [text] := by
  cases hfence : startsFence (trimStart text) <;> simp [Line.layOut, Line.read, hfence]

theorem layOut_eq {line : Line} (hkind : line.kind ≠ .blank) (hraw : line.kind ≠ .raw) :
    line.layOut config = if line.isWrapped config then
      (line.pieces config).map (line.indent ++ ·) else [line.indent ++ line.settled config] := by
  rw [Line.layOut, if_neg hkind]
  by_cases hfence : line.kind = .rawFence ∧ line.indent = []
  · have hwrap : line.isWrapped config = false := isWrapped_eq_false (by simp [hfence.1])
    rw [if_pos ⟨.inr hfence.1, by simpa using hfence.2⟩, hwrap, hfence.2,
      settled_of_rawFence hfence.1]
    rfl
  · rw [if_neg fun h => hfence ⟨h.1.resolve_left hraw, by simpa using h.2⟩]
    rfl

theorem classify_eq_blank_iff {content : List Char} :
    LineKind.classify content = .blank ↔ content = [] := by
  by_cases hnil : content.isEmpty = true
  · rw [List.isEmpty_iff.mp hnil]
    decide
  · unfold LineKind.classify
    dsimp only
    split_ifs <;> simpa using hnil

/-- **A line outside of raw blocks** gives an empty line, pieces, or its text behind the
indentation. -/
theorem layOut_ofText (config : FormatConfig) (tabSpaces number depth : Nat) (text : List Char) :
    let line := Line.ofText tabSpaces number depth text
    line.layOut config = if trim text = [] then [[]]
      else if line.isWrapped config then (line.pieces config).map (line.indent ++ ·)
      else [line.indent ++ line.settled config] := by
  intro line
  by_cases hnil : trim text = []
  · have hkind : line.kind = .blank := classify_eq_blank_iff.mpr hnil
    rw [if_pos hnil, Line.layOut, if_pos hkind]
  · rw [if_neg hnil]
    exact layOut_eq (fun hblank => hnil (classify_eq_blank_iff.mp hblank)) (classify_ne_raw _)

section ofText

variable {tabSpaces number depth : Nat} {text u : List Char}

theorem trimStart_settled_ofText : let line := Line.ofText tabSpaces number depth text
    trimStart (line.settled config) = line.settled config :=
  (sameStart_settled rfl).trimStart_eq (trimStart_trim text)

theorem layOut_ne_nil : (Line.ofText tabSpaces number depth text).layOut config ≠ [] := by
  rw [layOut_ofText]
  split_ifs with hnil hwrap
  · simp
  · obtain ⟨c, rest, hsettled, hc⟩ := isAlphanumeric_of_isWrapped hwrap
    have hblank : c ≠ ' ' := by
      rintro rfl
      exact absurd hc (by decide)
    intro hpieces
    rw [List.map_eq_nil_iff] at hpieces
    have hfilter : ((Line.ofText tabSpaces number depth text).pieces config).flatten.filter (· ≠ ' ') =
        ((Line.ofText tabSpaces number depth text).settled config).filter (· ≠ ' ') :=
      filter_flatten_pieces (by simp) _
    rw [hpieces, hsettled, List.filter_cons_of_pos (by simpa using hblank)] at hfilter
    cases hfilter
  · simp

theorem ne_nil_of_mem_layOut (h : trim text ≠ [])
    (hu : u ∈ (Line.ofText tabSpaces number depth text).layOut config) : u ≠ [] := by
  rw [layOut_ofText, if_neg h] at hu
  split_ifs at hu with hwrap
  · obtain ⟨piece, hpiece, rfl⟩ := List.mem_map.mp hu
    simp [ne_nil_of_mem_wrapWords hpiece]
  · rw [List.mem_singleton.mp hu]
    have hsettled : (Line.ofText tabSpaces number depth text).settled config ≠ [] :=
      (sameStart_settled rfl).ne_nil h
    simp [hsettled]

/-- A line gives no characters of its own but blanks and commas. -/
theorem mem_of_mem_layOut (hu : u ∈ (Line.ofText tabSpaces number depth text).layOut config)
    {c : Char} (hc : c ∈ u) : c ∈ text ∨ c = ',' ∨ c = ' ' := by
  by_cases hblank : c = ' '
  · exact .inr (.inr hblank)
  have hindent : c ∈ (Line.ofText tabSpaces number depth text).indent → c ∈ text := fun hc => by
    obtain ⟨d, hd, hc⟩ := List.mem_flatMap.mp hc
    have hd : d ∈ text := (trimEnd_prefix_self text).subset ((List.takeWhile_prefix _).subset hd)
    split_ifs at hc
    · exact absurd (List.eq_of_mem_replicate hc) hblank
    · rwa [List.mem_singleton.mp hc]
  have hsettled : c ∈ (Line.ofText tabSpaces number depth text).settled config →
      c ∈ text ∨ c = ',' ∨ c = ' ' := fun hc => by
    rw [settled_eq] at hc
    have hc : c ∈ (Line.ofText tabSpaces number depth text).sorted config := by
      split_ifs at hc
      · exact mem_of_mem_collapseSpaces hc hblank
      · exact hc
    rw [Line.sorted] at hc
    split_ifs at hc
    · exact (mem_of_mem_sortImportItems hc).imp_left fun hc => trim_subset text hc
    · exact .inl (trim_subset text hc)
  rw [layOut_ofText] at hu
  split_ifs at hu with hnil hwrap
  · rw [List.mem_singleton.mp hu] at hc
    cases hc
  · obtain ⟨piece, hpiece, rfl⟩ := List.mem_map.mp hu
    exact (List.mem_append.mp hc).elim (fun hc => .inl (hindent hc)) fun hc =>
      hsettled (mem_of_mem_wrapWords hpiece hc hblank)
  · rw [List.mem_singleton.mp hu] at hc
    exact (List.mem_append.mp hc).elim (fun hc => .inl (hindent hc)) hsettled

end ofText

/-! ### Raw blocks behind it -/

section raw

variable {tabSpaces number depth : Nat} {text u : List Char}

/-- A line opens a raw block just if it toggles one when empty lines are counted. -/
theorem isToggle_eq_rawAfter (text : List Char) : isToggle text = rawAfter false text := by
  simp only [isToggle, rawAfter, startsFence_trim, togglesRaw_trim, Bool.false_eq_true, ↓reduceIte]

theorem rawAfter_eq_of_trim_eq {s t : List Char} (h : trim s = trim t) :
    rawAfter false s = rawAfter false t := by
  rw [rawAfter, rawAfter, h, if_neg Bool.false_ne_true, if_neg Bool.false_ne_true]

theorem layOut_of_rawFence {line : Line} (h : line.kind = .rawFence) :
    line.layOut config = [line.indent ++ line.content] := by
  have hwrap : line.isWrapped config = false := isWrapped_eq_false (by simp [h])
  rw [layOut_eq (by simp [h]) (by simp [h]), hwrap, settled_of_rawFence h]
  rfl

/-- Only a line that starts with a fence gives one that does. -/
theorem startsFence_of_mem_layOut (h : startsFence (trim text) = false)
    (hu : u ∈ (Line.ofText tabSpaces number depth text).layOut config) :
    startsFence (trimStart u) = false := by
  have hindent : ∀ s, trimStart ((Line.ofText tabSpaces number depth text).indent ++ s) =
      trimStart s := trimStart_append_of_isBlank fun c hc => (isBlank_of_mem_indent hc).1
  rw [layOut_ofText] at hu
  split_ifs at hu with hnil hwrap
  · rw [List.mem_singleton.mp hu]
    rfl
  · obtain ⟨piece, hpiece, rfl⟩ := List.mem_map.mp hu
    rw [hindent, Bool.eq_false_iff]
    intro hfence
    -- a wrapped line holds no backtick
    have hmem : '`' ∈ piece := (List.dropWhile_sublist _).subset (mem_of_startsFence hfence)
    exact (ne_of_isWrapped hwrap (mem_of_mem_wrapWords hpiece hmem (by decide))).1 rfl
  · rw [List.mem_singleton.mp hu, hindent, trimStart_settled_ofText]
    exact (isPrefixOf_of_sameStart (sameStart_settled rfl) (by decide)).trans h

theorem rawAfter_of_mem_layOut (h : startsFence (trim text) = false)
    (hu : u ∈ (Line.ofText tabSpaces number depth text).layOut config) :
    rawAfter false u = false := by
  rw [← isToggle_eq_rawAfter, isToggle, startsFence_of_mem_layOut h hu, Bool.false_and]

/-- What a line gives opens a raw block just if the line does. -/
theorem foldl_rawAfter_layOut :
    ((Line.ofText tabSpaces number depth text).layOut config).foldl rawAfter false =
      rawAfter false text := by
  cases hfence : startsFence (trim text) with
  | true =>
    rw [layOut_of_rawFence (classify_eq_rawFence_iff.mpr hfence), List.foldl_cons, List.foldl_nil]
    exact rawAfter_eq_of_trim_eq (trim_indent_append ..)
  | false =>
    have hraw : ∀ u ∈ (Line.ofText tabSpaces number depth text).layOut config,
        rawAfter false u = false := fun u hu => rawAfter_of_mem_layOut hfence hu
    rw [show rawAfter false text = false by simp [rawAfter, hfence]]
    generalize (Line.ofText tabSpaces number depth text).layOut config = texts at hraw
    induction texts with
    | nil => rfl
    | cons u texts ih =>
      obtain ⟨hu, htexts⟩ := List.forall_mem_cons.mp hraw
      rw [List.foldl_cons, hu, ih htexts]

theorem foldl_toggleAfter_layOut (inRaw : Bool) :
    ((Line.ofText tabSpaces number depth text).layOut config).foldl toggleAfter inRaw =
      xor inRaw (rawAfter false text) := by
  cases hfence : startsFence (trim text) with
  | true =>
    rw [layOut_of_rawFence (classify_eq_rawFence_iff.mpr hfence), List.foldl_cons, List.foldl_nil,
      toggleAfter, isToggle_eq_rawAfter, rawAfter_eq_of_trim_eq (trim_indent_append ..)]
  | false =>
    rw [foldl_toggleAfter_of_forall fun u hu => by
      rw [isToggle_eq_rawAfter, rawAfter_of_mem_layOut hfence hu]]
    simp [rawAfter, hfence]

/-- The lines of a document leave raw blocks open or closed as its texts do. -/
theorem foldl_rawAfter_flatMap (config : FormatConfig) (number depth : Nat) (inRaw : Bool)
    (texts : List (List Char)) :
    ((readLines tabSpaces number inRaw depth texts).flatMap (Line.layOut config)).foldl
      rawAfter inRaw = texts.foldl rawAfter inRaw := by
  induction texts generalizing number depth inRaw with
  | nil => rfl
  | cons text texts ih =>
    rw [readLines, List.flatMap_cons, List.foldl_append, List.foldl_cons]
    cases inRaw with
    | true =>
      rw [layOut_read_true]
      exact ih ..
    | false =>
      rw [read_false, foldl_rawAfter_layOut]
      exact ih ..

theorem odd_one_add (n : Nat) : ((1 + n) % 2 == 1) = !(n % 2 == 1) := by
  rcases Nat.mod_two_eq_zero_or_one n with h | h <;> simp [Nat.add_mod, h]

/-- **When empty lines are counted**, a raw block is taken for open as often as one is, but for the
blocks that were closed with an even number of fences. -/
theorem foldl_toggleAfter_flatMap (config : FormatConfig) (number depth : Nat) (inRaw toggled : Bool)
    (texts : List (List Char)) :
    let ls := readLines tabSpaces number inRaw depth texts
    (ls.flatMap (Line.layOut config)).foldl toggleAfter toggled =
      xor (xor toggled inRaw)
        (xor (texts.foldl rawAfter inRaw) (evenClosings inRaw ls % 2 == 1)) := by
  dsimp only
  induction texts generalizing number depth inRaw toggled with
  | nil => cases inRaw <;> simp [readLines, evenClosings]
  | cons text texts ih =>
    rw [readLines, List.flatMap_cons, List.foldl_append, List.foldl_cons, evenClosings,
      rawBehind_read]
    cases inRaw with
    | true =>
      -- inside, a fence always closes the block, and toggles one if the number of fences is odd
      rw [layOut_read_true, List.foldl_cons, List.foldl_nil, ih, toggleAfter, isToggle]
      simp only [Line.read, rawAfter, ↓reduceIte]
      cases startsFence (trimStart text) <;> cases togglesRaw text <;> cases toggled <;>
        simp [odd_one_add]
    | false =>
      rw [read_false, foldl_toggleAfter_layOut, ih]
      simp

end raw

end Tincture.Format
