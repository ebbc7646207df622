import Tincture.Proofs.Format.Printed

/-!
# Lines that are read again

What a line gives is read as a line again. If it is given by itself then, no matter what stands before
it (`Steady`), formatting changes nothing more. Conditions on the line under which that is so are
`Line.Settles`, and `steady_layOut` is the step of the proof: the indentation, the kind and the text are
those of the line, a piece of a wrapped line is not wrapped further, and as many braces are open behind
it.
-/

namespace Tincture.Format

open Text

/-! ### Texts that give themselves -/

/-- Each of some written lines gives itself when they are read again. -/
def Steady (config : FormatConfig) : (inRaw : Bool) → (depth : Nat) → List (List Char) → Prop
  | _, _, [] => True
  | inRaw, depth, text :: rest =>
    let line := Line.read config.tabSpaces 1 inRaw depth (readBack text)
    line.layOut config = [text] ∧ Steady config (rawAfter inRaw text) line.depthBehind rest

section steady

variable {config : FormatConfig} {inRaw : Bool} {depth : Nat}

theorem layOut_read_number (config : FormatConfig) (tabSpaces number number' : Nat) (inRaw : Bool)
    (depth : Nat) (text : List Char) :
    (Line.read tabSpaces number inRaw depth text).layOut config =
      (Line.read tabSpaces number' inRaw depth text).layOut config := by
  cases inRaw <;> rfl

theorem steady_iff (number : Nat) {texts : List (List Char)} :
    Steady config inRaw depth texts ↔
      (readLines config.tabSpaces number inRaw depth (texts.map readBack)).map (Line.layOut config) =
        texts.map ([·]) := by
  induction texts generalizing number inRaw depth with
  | nil => simp [Steady, readLines]
  | cons text texts ih =>
    rw [Steady, ih (number + 1), List.map_cons, readLines, List.map_cons, List.map_cons,
      List.cons.injEq, rawAfter_readBack, layOut_read_number config config.tabSpaces 1 number,
      depthBehind_read config.tabSpaces 1 number]

theorem steady_append {before after : List (List Char)} :
    Steady config inRaw depth (before ++ after) ↔ Steady config inRaw depth before ∧
      Steady config (before.foldl rawAfter inRaw)
        (depthBehind config.tabSpaces inRaw depth (before.map readBack)) after := by
  induction before generalizing inRaw depth with
  | nil => simp [Steady, depthBehind]
  | cons text before ih =>
    rw [List.cons_append, Steady, ih, Steady, List.foldl_cons, List.map_cons, depthBehind,
      rawAfter_readBack, and_assoc]

/-- Empty lines give themselves. -/
theorem steady_filter {texts : List (List Char)} :
    Steady config inRaw depth (texts.filter (· ≠ [])) ↔ Steady config inRaw depth texts := by
  induction texts generalizing inRaw depth with
  | nil => rfl
  | cons text texts ih =>
    by_cases hnil : text = []
    · subst hnil
      have hgives : (Line.read config.tabSpaces 1 inRaw depth []).layOut config = [[]] := by
        cases inRaw <;> rfl
      have hdepth : (Line.read config.tabSpaces 1 inRaw depth []).depthBehind = depth := by
        cases inRaw <;> rfl
      rw [List.filter_cons_of_neg (by simp), ih, Steady, rawAfter_nil]
      exact ⟨fun h => ⟨hgives, hdepth.symm ▸ h⟩, fun h => hdepth ▸ h.2⟩
    · rw [List.filter_cons_of_pos (by simpa using hnil), Steady, Steady, ih]

end steady

/-! ### The text of a line that is read again -/

section ofText

variable {config : FormatConfig} {tabSpaces number depth : Nat} {text : List Char}

/-- Behind white space without tabs, a trimmed text is the text of its line. -/
theorem ofText_append {lead s : List Char} (hlead : ∀ c ∈ lead, isBlank c = true ∧ c ≠ '\t')
    (hs : trim s = s) (hne : s ≠ []) : Line.ofText tabSpaces number depth (lead ++ s) =
      ⟨number, LineKind.classify s, lead, s, depth⟩ := by
  obtain ⟨hstart, hend⟩ := trim_eq_self_iff.mp hs
  have hblank : ∀ c ∈ lead, isBlank c = true := fun c hc => (hlead c hc).1
  have htrim : trimEnd (lead ++ s) = lead ++ s := (trimEnd_append_eq_self_iff hne lead).mpr hend
  have htab : '\t' ∉ lead := fun hc => (hlead _ hc).2 rfl
  rw [Line.ofText, htrim, takeWhile_isBlank_append hblank hstart, expandTabs_of_not_mem htab,
    trimStart_append_of_isBlank hblank, hstart]

/-- The conditions under which what a line gives is left as it is when it is read again. -/
structure Line.Settles (config : FormatConfig) (line : Line) : Prop where
  /-- Only a line of a raw block can end in a carriage return. -/
  noReturn : line.content.getLast? ≠ some '\r'
  named : config.reorderImportItems = true → line.kind = .importLine → NamesItems line.content
  /-- Collapsing blanks inside of items leaves them in order. -/
  sorted : config.reorderImportItems = true → config.collapseMarkupSpaces = true →
    line.kind = .importLine →
      collapseSpaces (sortImportItems (line.settled config)) = line.settled config
  /-- Sorting items moves no braces past each other, where that matters for lines behind. -/
  nested : config.reorderImportItems = true → config.wrapText = true → line.kind = .importLine →
    depthAfter false line.depth (sortImportItems line.content) =
      depthAfter false line.depth line.content
  /-- A line is cut next to no white space but blanks. -/
  cut : line.isWrapped config = true → ∀ p ∈ line.pieces config, trim p = p

instance (config : FormatConfig) (line : Line) : Decidable (line.Settles config) :=
  decidable_of_iff (line.content.getLast? ≠ some '\r' ∧
      (config.reorderImportItems = true → line.kind = .importLine → NamesItems line.content) ∧
      (config.reorderImportItems = true → config.collapseMarkupSpaces = true →
        line.kind = .importLine →
          collapseSpaces (sortImportItems (line.settled config)) = line.settled config) ∧
      (config.reorderImportItems = true → config.wrapText = true → line.kind = .importLine →
        depthAfter false line.depth (sortImportItems line.content) =
          depthAfter false line.depth line.content) ∧
      (line.isWrapped config = true → ∀ p ∈ line.pieces config, trim p = p))
    ⟨fun h => ⟨h.1, h.2.1, h.2.2.1, h.2.2.2.1, h.2.2.2.2⟩,
      fun h => ⟨h.noReturn, h.named, h.sorted, h.nested, h.cut⟩⟩

/-- The text of a line is sorted and collapsed. -/
theorem settled_of_settled {line line' : Line} (hkind' : line'.kind = line.kind)
    (hcontent : line'.content = line.settled config) (hsettles : line.Settles config) :
    line'.settled config = line.settled config := by
  by_cases hsort : config.reorderImportItems = true ∧ line.kind = .importLine
  · -- an import is sorted both times, and `Settles` says that the order stays
    have hfence : line.kind ≠ .rawFence := by
      rw [hsort.2]
      decide
    have hsorted : ∀ l : Line, l.kind = line.kind → l.sorted config = sortImportItems l.content :=
      fun l hl => by
        rw [Line.sorted, if_pos (by simpa [hl] using hsort)]
    rw [settled_eq, hsorted line' hkind', hcontent]
    cases hcollapse : config.collapseMarkupSpaces with
    | true => simpa [hkind', hfence] using hsettles.sorted hsort.1 hcollapse hsort.2
    | false =>
      have hsettled : line.settled config = sortImportItems line.content := by
        rw [settled_eq, hsorted line rfl, hcollapse]
        rfl
      rw [hsettled]
      simpa using sortImportItems_sortImportItems line.content
  · have hsorted : ∀ l : Line, l.kind = line.kind → l.sorted config = l.content := fun l hl => by
      rw [Line.sorted, if_neg (by simpa [hl] using hsort)]
    rw [settled_eq, settled_eq, hsorted line' hkind', hsorted line rfl, hcontent, settled_eq,
      hsorted line rfl, hkind']
    split
    · exact collapseSpaces_collapseSpaces _
    · rfl

/-- Whether a line is wrapped depends on its kind, its indentation and its text, and on the braces that
are open before it unless nothing is wrapped. -/
theorem isWrapped_congr {line line' : Line} (hkind : line'.kind = line.kind)
    (hindent : line'.indent = line.indent) (hsettled : line'.settled config = line.settled config)
    (hdepth : line'.depth = line.depth ∨ config.wrapText = false) :
    line'.isWrapped config = line.isWrapped config := by
  rcases hdepth with hdepth | hwrap
  · rw [Line.isWrapped, Line.isWrapped, isWrappable, isWrappable, hkind, hindent, hsettled, hdepth]
  · rw [Line.isWrapped, Line.isWrapped, hwrap, Bool.false_and, Bool.false_and, Bool.false_and,
      Bool.false_and]

/-- Behind the text of a line as many braces are open as behind the line. -/
theorem depthAfter_settled {line : Line} (hsettles : line.Settles config)
    (hwrap : config.wrapText = true) : depthAfter false line.depth (line.settled config) =
      depthAfter false line.depth line.content := by
  have hsorted : depthAfter false line.depth (line.sorted config) =
      depthAfter false line.depth line.content := by
    unfold Line.sorted
    split
    · rename_i hsort
      rw [Bool.and_eq_true, beq_iff_eq] at hsort
      exact hsettles.nested hsort.1 hwrap hsort.2
    · rfl
  rw [settled_eq]
  split
  · rw [depthAfter_collapseSpaces, hsorted]
  · exact hsorted

end ofText

/-! ### Pieces that are read again -/

section pieces

/-- Outside of strings and inline raw text, a character that is none of their signs is kept. -/
theorem collapseFrom_cons_of_plain {c : Char} (hc : c ≠ ' ' ∧ c ≠ '"' ∧ c ≠ '`') (afterBlank : Bool)
    (s : List Char) : collapseFrom false false afterBlank (c :: s) =
      c :: collapseFrom false false false s := by
  simp [collapseFrom, hc]

theorem collapseFrom_word {word : List Char} (hword : ∀ c ∈ word, c ≠ ' ' ∧ c ≠ '"' ∧ c ≠ '`')
    (hne : word ≠ []) (afterBlank : Bool) (s : List Char) :
    collapseFrom false false afterBlank (word ++ s) = word ++ collapseFrom false false false s := by
  induction word generalizing afterBlank with
  | nil => exact absurd rfl hne
  | cons c word ih =>
    obtain ⟨hc, hword⟩ := List.forall_mem_cons.mp hword
    rw [List.cons_append, collapseFrom_cons_of_plain hc]
    rcases word with _ | ⟨d, word⟩
    · rfl
    · rw [ih hword (List.cons_ne_nil d word)]
      rfl

/-- Words with one blank between them hold no run of blanks. -/
theorem collapseSpaces_spaced {words : List (List Char)} (hwords : ∀ w ∈ words, IsWord w)
    (hplain : ∀ w ∈ words, ∀ c ∈ w, c ≠ '"' ∧ c ≠ '`') :
    collapseSpaces (spaced words) = spaced words := by
  have hall : ∀ afterBlank, collapseFrom false false afterBlank (spaced words) = spaced words := by
    induction words with
    | nil => intro afterBlank; rfl
    | cons word words ih =>
      intro afterBlank
      obtain ⟨hword, hwords⟩ := List.forall_mem_cons.mp hwords
      obtain ⟨hplainWord, hplain⟩ := List.forall_mem_cons.mp hplain
      have hchars : ∀ c ∈ word, c ≠ ' ' ∧ c ≠ '"' ∧ c ≠ '`' := fun c hc =>
        ⟨fun hblank => hword.no_blank (hblank ▸ hc), hplainWord c hc⟩
      by_cases hrest : words = []
      · have hself := collapseFrom_word hchars hword.ne_nil afterBlank []
        simpa [hrest, collapseFrom] using hself
      · have hblank : collapseFrom false false false (' ' :: spaced words) =
            ' ' :: collapseFrom false false true (spaced words) := by
          simp [collapseFrom]
        rw [spaced_cons hrest, collapseFrom_word hchars hword.ne_nil, hblank, ih hwords hplain]
  exact hall false

/-- A text without quotation marks and braces opens and closes none. -/
theorem depthAfter_of_plain {s : List Char} (h : ∀ c ∈ s, c ≠ '"' ∧ c ≠ '\x7b' ∧ c ≠ '\x7d')
    (depth : Nat) : depthAfter false depth s = depth := by
  induction s with
  | nil => rfl
  | cons c s ih =>
    obtain ⟨hc, hs⟩ := List.forall_mem_cons.mp h
    rw [depthAfter, if_neg hc.1, if_neg hc.2.1, if_neg hc.2.2, ih hs, ite_self]

end pieces

/-! ### What a line gives is read again -/

section layOut

variable {config : FormatConfig} {number depth depth' : Nat} {text : List Char}

theorem steady_singleton_iff {u : List Char} : Steady config false depth [u] ↔
    (Line.ofText config.tabSpaces 1 depth u).layOut config = [u] := by
  rw [Steady, read_false, ofText_readBack]
  exact and_iff_left trivial

theorem depthBehind_ofText (line : Line) (hraw : line.kind ≠ .raw) : line.depthBehind =
    if line.kind = .rawFence then line.depth else depthAfter false line.depth line.content := by
  simp [Line.depthBehind, hraw]

/-- A line that is not wrapped gives its text behind its indentation, which is read as a line of the same
kind, with the same indentation and the text that it is. -/
theorem steady_settled (htext : trim text ≠ [])
    (hwrap : (Line.ofText config.tabSpaces number depth text).isWrapped config = false)
    (hsettles : (Line.ofText config.tabSpaces number depth text).Settles config)
    (hdepth : depth' = depth ∨ config.wrapText = false) :
    let line := Line.ofText config.tabSpaces number depth text
    let line' := Line.ofText config.tabSpaces 1 depth' (line.indent ++ line.settled config)
    line'.layOut config = [line.indent ++ line.settled config] ∧
      (line'.depthBehind = line.depthBehind ∨ config.wrapText = false) := by
  intro line line'
  have hne : line.settled config ≠ [] := (sameStart_settled rfl).ne_nil htext
  have hend : trimEnd (line.settled config) = line.settled config :=
    (trimEnd_settled_iff (trimEnd_trim text)).mpr hsettles.named
  have hline' : line' = ⟨1, LineKind.classify (line.settled config), line.indent,
      line.settled config, depth'⟩ :=
    ofText_append (fun c hc => isBlank_of_mem_indent hc)
      (trim_eq_self_iff.mpr ⟨trimStart_settled_ofText, hend⟩) hne
  have hkind : line'.kind = line.kind := by
    rw [hline']
    exact classify_of_sameStart (sameStart_settled rfl)
  have hindent : line'.indent = line.indent := by rw [hline']
  have hcontent : line'.content = line.settled config := by rw [hline']
  have hsettled : line'.settled config = line.settled config :=
    settled_of_settled hkind hcontent hsettles
  constructor
  · have hblank : line'.kind ≠ .blank := by
      rw [hkind]
      exact fun hblank => htext (classify_eq_blank_iff.mp hblank)
    have hwrap' : line'.isWrapped config = false := by
      rw [isWrapped_congr hkind hindent hsettled (by rw [hline']; exact hdepth), hwrap]
    rw [layOut_eq hblank (classify_ne_raw _), hwrap', hindent, hsettled]
    rfl
  · refine hdepth.elim (fun hsame => ?_) .inr
    cases hwrapText : config.wrapText with
    | false => exact .inr rfl
    | true =>
      left
      have hdepth' : line'.depth = line.depth := by
        rw [hline']
        exact hsame
      rw [depthBehind_ofText line' (classify_ne_raw _), depthBehind_ofText line (classify_ne_raw _),
        hkind, hcontent, hdepth', depthAfter_settled hsettles hwrapText]

section piece

variable {line : Line} {p : List Char}

theorem ne_of_mem_pieces (hwrap : line.isWrapped config = true) (hp : p ∈ line.pieces config)
    {c : Char} (hc : c ∈ p) : c = ' ' ∨ c ≠ '`' ∧ c ≠ '"' ∧ c ≠ '\x7b' ∧ c ≠ '\x7d' := by
  by_cases hblank : c = ' '
  · exact .inl hblank
  · obtain ⟨htick, -, hquote, hopen, hclose⟩ :=
      ne_of_isWrapped hwrap (mem_of_mem_wrapWords hp hc hblank)
    exact .inr ⟨htick, hquote, hopen, hclose⟩

theorem collapseSpaces_of_mem_pieces (hwrap : line.isWrapped config = true)
    (hp : p ∈ line.pieces config) : collapseSpaces p = p := by
  obtain ⟨words, hspaced, hwords, -⟩ := exists_words_of_mem_wrapWords hp
  have hplain : ∀ w ∈ words, ∀ c ∈ w, c ≠ '"' ∧ c ≠ '`' := fun w hw c hc => by
    have hblank : c ≠ ' ' := fun hblank => (hwords w hw).no_blank (hblank ▸ hc)
    have hmem : c ∈ spaced words := mem_of_filter_eq (filter_spaced (by simp) words).symm
      (List.mem_flatten_of_mem hw hc) hblank
    obtain ⟨htick, hquote, -⟩ := (ne_of_mem_pieces hwrap hp (hspaced ▸ hmem)).resolve_left hblank
    exact ⟨hquote, htick⟩
  rw [hspaced, collapseSpaces_spaced hwords hplain]

/-- A piece is no import, as it does not start with a sign of code. -/
theorem classify_ne_importLine_of_mem_pieces (hwrap : line.isWrapped config = true)
    (hp : p ∈ line.pieces config) : LineKind.classify p ≠ .importLine := by
  obtain ⟨c, rest, hsettled, hc⟩ := isAlphanumeric_of_isWrapped hwrap
  rw [Line.pieces, hsettled] at hp
  have hhead : p.head? ≠ some '#' := by
    refine head?_ne_of_mem_wrapWords ?_ ?_ hp
    · rintro rfl
      exact absurd hc (by decide)
    · rintro rfl
      exact absurd hc (by decide)
  intro himport
  obtain ⟨rest, rfl⟩ := prefix_of_classify_eq_importLine himport
  exact hhead rfl

/-- A piece of a wrapped line is read as a line that is not cut further, and holds no braces. -/
theorem layOut_piece (hindent : ∀ c ∈ line.indent, isBlank c = true ∧ c ≠ '\t')
    (hwrap : line.isWrapped config = true) (hp : p ∈ line.pieces config) (htrim : trim p = p)
    (depth : Nat) :
    let line' := Line.ofText config.tabSpaces 1 depth (line.indent ++ p)
    line'.layOut config = [line.indent ++ p] ∧ line'.depthBehind = depth := by
  intro line'
  have hne : p ≠ [] := ne_nil_of_mem_wrapWords hp
  have hline' : line' = ⟨1, LineKind.classify p, line.indent, p, depth⟩ :=
    ofText_append hindent htrim hne
  have hkind : line'.kind ≠ .importLine := by
    rw [hline']
    exact classify_ne_importLine_of_mem_pieces hwrap hp
  have hsorted : line'.sorted config = p := by
    rw [Line.sorted, if_neg (by simp [hkind]), hline']
  have hsettled : line'.settled config = p := by
    rw [settled_eq, hsorted]
    split
    · exact collapseSpaces_of_mem_pieces hwrap hp
    · rfl
  have hindent' : line'.indent = line.indent := by rw [hline']
  constructor
  · have hblank : line'.kind ≠ .blank := by
      rw [hline']
      exact fun hblank => hne (classify_eq_blank_iff.mp hblank)
    have hpieces : line'.pieces config = [p] := by
      obtain ⟨-, -, -, hone⟩ := exists_words_of_mem_wrapWords hp
      rw [Line.pieces, hsettled, hindent']
      exact hone
    rw [layOut_eq hblank (classify_ne_raw _), hpieces, hsettled, hindent']
    split <;> rfl
  · rw [depthBehind_ofText line' (classify_ne_raw _), hline']
    split
    · rfl
    · refine depthAfter_of_plain (fun c hc => ?_) depth
      rcases ne_of_mem_pieces hwrap hp hc with rfl | ⟨-, hquote, hopen, hclose⟩
      · decide
      · exact ⟨hquote, hopen, hclose⟩

end piece

theorem steady_pieces
    (hwrap : (Line.ofText config.tabSpaces number depth text).isWrapped config = true)
    (hsettles : (Line.ofText config.tabSpaces number depth text).Settles config) (depth' : Nat) :
    Steady config false depth' ((Line.ofText config.tabSpaces number depth text).layOut config) ∧
      depthBehind config.tabSpaces false depth'
        (((Line.ofText config.tabSpaces number depth text).layOut config).map readBack) = depth' := by
  have hkind := kind_of_isWrapped hwrap
  have hfence : startsFence (trim text) = false := by
    rw [Bool.eq_false_iff]
    intro hfence
    have hraw : (Line.ofText config.tabSpaces number depth text).kind = .rawFence :=
      classify_eq_rawFence_iff.mpr hfence
    rw [hkind] at hraw
    cases hraw
  have hcalm : ∀ u ∈ (Line.ofText config.tabSpaces number depth text).layOut config,
      rawAfter false u = false ∧ (Line.ofText config.tabSpaces 1 depth' u).layOut config = [u] ∧
        (Line.ofText config.tabSpaces 1 depth' u).depthBehind = depth' := fun u hu => by
    refine ⟨rawAfter_of_mem_layOut hfence hu, ?_⟩
    rw [layOut_eq (by simp [hkind]) (by simp [hkind]), if_pos hwrap] at hu
    obtain ⟨p, hp, rfl⟩ := List.mem_map.mp hu
    exact layOut_piece (fun c hc => isBlank_of_mem_indent hc) hwrap hp (hsettles.cut hwrap p hp) depth'
  generalize (Line.ofText config.tabSpaces number depth text).layOut config = texts at hcalm
  induction texts with
  | nil => exact ⟨trivial, rfl⟩
  | cons u texts ih =>
    obtain ⟨⟨hraw, hgives, hdepth⟩, hcalm⟩ := List.forall_mem_cons.mp hcalm
    obtain ⟨hsteady, hbehind⟩ := ih hcalm
    rw [Steady, List.map_cons, depthBehind, rawAfter_readBack, hraw, read_false, ofText_readBack, hdepth]
    exact ⟨⟨hgives, hsteady⟩, hbehind⟩

/-- **What a line gives** gives itself when it is read again, and as many braces are open behind it. -/
theorem steady_layOut (hsettles : (Line.ofText config.tabSpaces number depth text).Settles config)
    (hdepth : depth' = depth ∨ config.wrapText = false) :
    let line := Line.ofText config.tabSpaces number depth text
    Steady config false depth' (line.layOut config) ∧
      (depthBehind config.tabSpaces false depth' ((line.layOut config).map readBack) =
        line.depthBehind ∨ config.wrapText = false) := by
  intro line
  by_cases hnil : trim text = []
  · have hbehind : line.depthBehind = depth := by
      have hblank : line.kind = .blank := classify_eq_blank_iff.mpr hnil
      have hcontent : line.content = [] := hnil
      rw [depthBehind_ofText line (classify_ne_raw _), hblank, hcontent]
      rfl
    rw [layOut_ofText, if_pos hnil, hbehind]
    exact ⟨⟨rfl, trivial⟩, hdepth⟩
  by_cases hwrap : line.isWrapped config = true
  · obtain ⟨hsteady, hbehind⟩ := steady_pieces hwrap hsettles depth'
    refine ⟨hsteady, hdepth.imp_left fun hsame => ?_⟩
    -- as in the pieces, there are no braces in the line
    have hplain : ∀ c ∈ line.content, c ≠ '"' ∧ c ≠ '\x7b' ∧ c ≠ '\x7d' := fun c hc => by
      by_cases hblank : c = ' '
      · rw [hblank]
        decide
      · have hkept : (line.settled config).filter (· ≠ ' ') = line.content.filter (· ≠ ' ') :=
          filter_settled (by simp) (.inr (by simp [kind_of_isWrapped hwrap]))
        exact (ne_of_isWrapped hwrap (mem_of_filter_eq hkept.symm hc hblank)).2.2
    rw [hbehind, depthBehind_ofText line (classify_ne_raw _), kind_of_isWrapped hwrap,
      depthAfter_of_plain hplain, hsame]
    rfl
  · have hgives : line.layOut config = [line.indent ++ line.settled config] := by
      rw [layOut_ofText, if_neg hnil, if_neg hwrap]
    obtain ⟨hsteady, hbehind⟩ :=
      steady_settled hnil (by simpa using hwrap) hsettles hdepth
    rw [hgives]
    refine ⟨steady_singleton_iff.mpr hsteady, ?_⟩
    rwa [List.map_singleton, depthBehind, depthBehind, read_false,
      ofText_readBack]

end layOut

/-! ### What the lines of a document give -/

/-- **What some lines give** gives itself when it is read again. -/
theorem steady_flatMap_layOut {config : FormatConfig} {number depth depth' : Nat} {inRaw : Bool}
    {texts : List (List Char)}
    (hsettles : ∀ line ∈ readLines config.tabSpaces number inRaw depth texts, line.Settles config)
    (hdepth : depth' = depth ∨ config.wrapText = false) :
    Steady config inRaw depth'
      ((readLines config.tabSpaces number inRaw depth texts).flatMap (Line.layOut config)) := by
  induction texts generalizing number depth depth' inRaw with
  | nil => trivial
  | cons text texts ih =>
    rw [readLines] at hsettles
    obtain ⟨hline, hsettles⟩ := List.forall_mem_cons.mp hsettles
    rw [readLines, List.flatMap_cons, steady_append]
    cases inRaw with
    | true =>
      -- a line inside gives itself, and no braces are counted in it
      have hsame : readBack text = text := readBack_of_getLast?_ne hline.noReturn
      rw [layOut_read_true]
      refine ⟨⟨by rw [hsame, layOut_read_true], trivial⟩, ih hsettles ?_⟩
      rw [List.map_singleton, depthBehind, depthBehind, depthBehind_read_true,
        depthBehind_read_true]
      exact hdepth
    | false =>
      rw [read_false] at hline hsettles ⊢
      obtain ⟨hsteady, hbehind⟩ := steady_layOut hline hdepth
      rw [foldl_rawAfter_layOut]
      exact ⟨hsteady, ih hsettles hbehind⟩

end Tincture.Format
