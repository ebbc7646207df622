import Tincture.Format.Layout
import Tincture.Proofs.Text.Trimming

/-!
# Raw blocks

Reading the lines of a document goes from line to line with two things in mind: whether a raw block
is open, and how many braces are. `rawAfter` says how one line changes the first, and a document has
lines just if no raw block is open behind the last one (`linesFrom_eq_ok_iff`); `readLines` gives them
without the error. A raw block (`RawBlock`) is a fence that opens it, the lines up to the next line
that starts with a fence, and that line.

When blank lines are counted, raw blocks are tracked once more, by `isToggle`. That agrees with
`rawAfter` on all lines but those that close a raw block with an even number of fences
(`evenClosings`).
-/

namespace Tincture.Format

open Text

/-! ### Fences -/

theorem startsFence_iff {s : List Char} : startsFence s = true ↔ ['`', '`', '`'] <+: s :=
  List.isPrefixOf_iff_prefix

theorem startsFence_mono {s t : List Char} (h : s <+: t) (hs : startsFence s = true) :
    startsFence t = true :=
  startsFence_iff.mpr ((startsFence_iff.mp hs).trans h)

theorem mem_of_startsFence {s : List Char} (h : startsFence s = true) : '`' ∈ s :=
  (startsFence_iff.mp h).subset List.mem_cons_self

theorem classify_eq_rawFence_iff {content : List Char} :
    LineKind.classify content = .rawFence ↔ startsFence content = true := by
  by_cases hnil : content.isEmpty = true
  · rw [List.isEmpty_iff.mp hnil]
    decide
  · unfold LineKind.classify
    dsimp only
    split_ifs with hfence <;> simp [hfence]

theorem countFences_cons_of_ne {c : Char} (hc : c ≠ '`') (s : List Char) :
    countFences (c :: s) = countFences s := by
  rcases s with _ | ⟨c₂, _ | ⟨c₃, s⟩⟩
  · rfl
  · rfl
  · rw [countFences, if_neg fun h => hc h.1]

/-- White space before a text holds no fences. -/
theorem countFences_append_of_isBlank {lead : List Char} (h : ∀ c ∈ lead, isBlank c = true)
    (s : List Char) : countFences (lead ++ s) = countFences s := by
  induction lead with
  | nil => rfl
  | cons c lead ih =>
    obtain ⟨hc, hlead⟩ := List.forall_mem_cons.mp h
    have hne : c ≠ '`' := by
      rintro rfl
      exact absurd hc (by decide)
    rw [List.cons_append, countFences_cons_of_ne hne, ih hlead]

theorem countFences_concat_of_ne {c : Char} (hc : c ≠ '`') (s : List Char) :
    countFences (s ++ [c]) = countFences s := by
  fun_induction countFences s with
  | case1 c₁ c₂ c₃ rest hfence ih => simp [countFences, hfence, ih]
  | case2 c₁ c₂ c₃ rest hfence ih =>
    simp only [List.cons_append] at ih ⊢
    rw [countFences, if_neg hfence, ih]
  | case3 s hshort =>
    rcases s with _ | ⟨c₁, _ | ⟨c₂, _ | ⟨c₃, rest⟩⟩⟩
    · rfl
    · rfl
    · simp [countFences, hc]
    · exact absurd rfl (hshort c₁ c₂ c₃ rest)

theorem countFences_append_trail {trail : List Char} (h : ∀ c ∈ trail, isBlank c = true)
    (s : List Char) : countFences (s ++ trail) = countFences s := by
  induction trail generalizing s with
  | nil => rw [List.append_nil]
  | cons c trail ih =>
    obtain ⟨hc, htrail⟩ := List.forall_mem_cons.mp h
    have hne : c ≠ '`' := by
      rintro rfl
      exact absurd hc (by decide)
    rw [List.append_cons, ih htrail, countFences_concat_of_ne hne]

/-- White space around a text holds no fences. -/
theorem togglesRaw_trim (s : List Char) : togglesRaw (trim s) = togglesRaw s := by
  obtain ⟨lead, trail, hlead, htrail, hs⟩ := exists_eq_append_trim s
  conv_rhs => rw [hs]
  rw [togglesRaw, togglesRaw, countFences_append_trail htrail, countFences_append_of_isBlank hlead]

theorem startsFence_trim (s : List Char) : startsFence (trim s) = startsFence (trimStart s) := by
  rw [Bool.eq_iff_iff]
  obtain ⟨trail, htrail, hs⟩ := exists_trimStart_eq s
  rw [hs]
  refine ⟨startsFence_mono (List.prefix_append _ _), fun h => ?_⟩
  rw [startsFence_iff] at h
  rcases List.prefix_or_prefix_of_prefix h (List.prefix_append _ _) with hfence | ⟨more, hmore⟩
  · exact startsFence_iff.mpr hfence
  · -- a fence that goes on behind the text would go on with white space
    rcases more with _ | ⟨c, more⟩
    · rw [List.append_nil] at hmore
      exact startsFence_iff.mpr (hmore ▸ List.prefix_refl _)
    · have hc : c ∈ ['`', '`', '`'] := hmore ▸ List.mem_append_right _ List.mem_cons_self
      rw [← hmore, List.prefix_append_right_inj] at h
      have hblank := htrail c (h.subset List.mem_cons_self)
      obtain rfl : c = '`' := by simpa using hc
      exact absurd hblank (by decide)

/-! ### What is open behind a line -/

/-- Whether a raw block is open behind a text, if it is or is not before it. -/
def rawAfter (inRaw : Bool) (text : List Char) : Bool :=
  if inRaw then !startsFence (trimStart text) else startsFence (trim text) && togglesRaw (trim text)

@[simp] theorem rawAfter_nil (inRaw : Bool) : rawAfter inRaw [] = inRaw := by
  cases inRaw <;> rfl

theorem rawAfter_stripReturn (inRaw : Bool) (text : List Char) :
    rawAfter inRaw (stripReturn text) = rawAfter inRaw text := by
  rw [rawAfter, rawAfter, ← startsFence_trim, ← startsFence_trim, trim_eq, trim_eq,
    trimEnd_stripReturn]

/-- Empty lines neither open nor close raw blocks. -/
theorem foldl_rawAfter_filter (inRaw : Bool) (texts : List (List Char)) :
    (texts.filter (· ≠ [])).foldl rawAfter inRaw = texts.foldl rawAfter inRaw := by
  induction texts generalizing inRaw with
  | nil => rfl
  | cons text texts ih =>
    by_cases hnil : text = []
    · subst hnil
      rw [List.filter_cons_of_neg (by simp), ih, List.foldl_cons, rawAfter_nil]
    · rw [List.filter_cons_of_pos (by simpa using hnil), List.foldl_cons, ih, List.foldl_cons]

/-- Whether a raw block is open behind a line, if it is or is not before it. -/
def Line.rawBehind (inRaw : Bool) (line : Line) : Bool :=
  if inRaw then line.kind != .rawFence else line.kind == .rawFence && togglesRaw line.content

/-- Whether a raw block is open behind some lines. -/
def openBehind (ls : List Line) : Bool :=
  ls.foldl Line.rawBehind false

/-- How many braces are open behind a line. -/
def Line.depthBehind (line : Line) : Nat :=
  if line.kind = .rawFence ∨ line.kind = .raw then line.depth
  else depthAfter false line.depth line.content

/-- The line that a text gives inside or outside of raw blocks. -/
def Line.read (tabSpaces number : Nat) (inRaw : Bool) (depth : Nat) (text : List Char) : Line :=
  if inRaw then ⟨number, if startsFence (trimStart text) then .rawFence else .raw, [], text, depth⟩
  else Line.ofText tabSpaces number depth text

theorem read_false (tabSpaces number depth : Nat) (text : List Char) :
    Line.read tabSpaces number false depth text = Line.ofText tabSpaces number depth text := rfl

/-- The lines of some texts, whatever is open behind the last of them. -/
def readLines (tabSpaces : Nat) : (number : Nat) → (inRaw : Bool) → (depth : Nat) →
    List (List Char) → List Line
  | _, _, _, [] => []
  | number, inRaw, depth, text :: rest =>
    let line := Line.read tabSpaces number inRaw depth text
    line :: readLines tabSpaces (number + 1) (rawAfter inRaw text) line.depthBehind rest

theorem classify_ne_raw (content : List Char) : LineKind.classify content ≠ .raw := by
  unfold LineKind.classify
  dsimp only
  split_ifs <;> simp

theorem rawBehind_read (tabSpaces number : Nat) (inRaw : Bool) (depth : Nat) (text : List Char) :
    (Line.read tabSpaces number inRaw depth text).rawBehind inRaw = rawAfter inRaw text := by
  cases inRaw with
  | true =>
    simp only [Line.read, Line.rawBehind, rawAfter, ↓reduceIte]
    cases startsFence (trimStart text) <;> rfl
  | false =>
    have hfence : (LineKind.classify (trim text) == .rawFence) = startsFence (trim text) := by
      rw [Bool.eq_iff_iff, beq_iff_eq, classify_eq_rawFence_iff]
    simp only [Line.read, Line.rawBehind, rawAfter, Line.ofText, ← trim_eq, hfence,
      Bool.false_eq_true, ↓reduceIte]

theorem depthBehind_read_true (tabSpaces number depth : Nat) (text : List Char) :
    (Line.read tabSpaces number true depth text).depthBehind = depth := by
  cases hfence : startsFence (trimStart text) <;> simp [Line.depthBehind, Line.read, hfence]

theorem map_cons_eq_ok_iff {line : Line} {x : Except FormatError (List Line)} {p : Prop}
    {rest ls : List Line} (h : ∀ {l}, x = .ok l ↔ p ∧ l = rest) :
    x.map (line :: ·) = .ok ls ↔ p ∧ ls = line :: rest := by
  cases x with
  | error e =>
    have hp : ¬ p := fun hp => nomatch h.mpr ⟨hp, rfl⟩
    simp [Except.map, hp]
  | ok l =>
    obtain ⟨hp, rfl⟩ := h.mp rfl
    simp [Except.map, hp, eq_comm]

/-- **Lines are read** just if no raw block is open behind the last of them. -/
theorem linesFrom_eq_ok_iff {tabSpaces number depth : Nat} {opened : Option Nat}
    {texts : List (List Char)} {ls : List Line} :
    linesFrom tabSpaces number opened depth texts = .ok ls ↔
      texts.foldl rawAfter opened.isSome = false ∧
        ls = readLines tabSpaces number opened.isSome depth texts := by
  induction texts generalizing number opened depth ls with
  | nil => cases opened <;> simp [linesFrom, readLines, eq_comm]
  | cons text texts ih =>
    cases opened with
    | none =>
      have hopened : (if (Line.ofText tabSpaces number depth text).kind = .rawFence ∧
          togglesRaw (Line.ofText tabSpaces number depth text).content = true then some number
          else none).isSome = rawAfter false text := by
        rw [← rawBehind_read tabSpaces number false depth text]
        simp only [Line.read, Line.rawBehind, Bool.false_eq_true, ↓reduceIte]
        split_ifs with h <;> simp_all
      have hdepth : (if (Line.ofText tabSpaces number depth text).kind = .rawFence then depth
          else depthAfter false depth (Line.ofText tabSpaces number depth text).content) =
            (Line.ofText tabSpaces number depth text).depthBehind := by
        by_cases hkind : LineKind.classify (trimStart (trimEnd text)) = .rawFence <;>
          simp [Line.depthBehind, Line.ofText, classify_ne_raw, hkind]
      rw [linesFrom, map_cons_eq_ok_iff ih, hopened, hdepth]
      rfl
    | some start =>
      rw [linesFrom, map_cons_eq_ok_iff ih]
      simp only [readLines, Line.read, rawAfter, Line.depthBehind, List.foldl_cons, Option.isSome_some,
        ↓reduceIte]
      cases startsFence (trimStart text) <;> simp

theorem documentLines_eq_ok_iff {tabSpaces : Nat} {source : List Char} {ls : List Line} :
    documentLines tabSpaces source = .ok ls ↔
      (sourceLines source).foldl rawAfter false = false ∧
        ls = readLines tabSpaces 1 false 0 (sourceLines source) :=
  linesFrom_eq_ok_iff

/-! ### Lines one after the other -/

section readLines

variable (tabSpaces : Nat)

/-- How many braces are open behind some texts. -/
def depthBehind : (inRaw : Bool) → (depth : Nat) → List (List Char) → Nat
  | _, depth, [] => depth
  | inRaw, depth, text :: rest =>
    depthBehind (rawAfter inRaw text) (Line.read tabSpaces 1 inRaw depth text).depthBehind rest

theorem depthBehind_read (number number' : Nat) (inRaw : Bool) (depth : Nat) (text : List Char) :
    (Line.read tabSpaces number inRaw depth text).depthBehind =
      (Line.read tabSpaces number' inRaw depth text).depthBehind := by
  cases inRaw <;> rfl

theorem readLines_append (number : Nat) (inRaw : Bool) (depth : Nat)
    (before after : List (List Char)) :
    readLines tabSpaces number inRaw depth (before ++ after) =
      readLines tabSpaces number inRaw depth before ++
        readLines tabSpaces (number + before.length) (before.foldl rawAfter inRaw)
          (depthBehind tabSpaces inRaw depth before) after := by
  induction before generalizing number inRaw depth with
  | nil => rfl
  | cons text before ih =>
    simp only [List.cons_append, readLines, ih, List.foldl_cons, depthBehind, List.length_cons,
      depthBehind_read tabSpaces number 1]
    rw [Nat.add_assoc, Nat.add_comm 1]

theorem length_readLines (number : Nat) (inRaw : Bool) (depth : Nat) (texts : List (List Char)) :
    (readLines tabSpaces number inRaw depth texts).length = texts.length := by
  induction texts generalizing number inRaw depth with
  | nil => rfl
  | cons text texts ih => simp [readLines, ih]

/-- The first of some lines are those of the first texts. -/
theorem exists_of_readLines_eq_append {number : Nat} {inRaw : Bool} {depth : Nat}
    {texts : List (List Char)} {before after : List Line}
    (h : readLines tabSpaces number inRaw depth texts = before ++ after) :
    ∃ textsBefore textsAfter, texts = textsBefore ++ textsAfter ∧
      before = readLines tabSpaces number inRaw depth textsBefore ∧
      after = readLines tabSpaces (number + textsBefore.length) (textsBefore.foldl rawAfter inRaw)
        (depthBehind tabSpaces inRaw depth textsBefore) textsAfter := by
  -- each text gives one line, so the texts are cut where the lines are
  have hlength := congrArg List.length h
  rw [length_readLines, List.length_append] at hlength
  have htexts : texts = texts.take before.length ++ texts.drop before.length :=
    (List.take_append_drop _ _).symm
  rw [htexts, readLines_append] at h
  obtain ⟨hbefore, hafter⟩ := List.append_inj h (by
    rw [length_readLines, List.length_take]
    omega)
  exact ⟨_, _, htexts, hbefore.symm, hafter.symm⟩

theorem foldl_rawBehind_readLines (number : Nat) (inRaw : Bool) (depth : Nat)
    (texts : List (List Char)) :
    (readLines tabSpaces number inRaw depth texts).foldl Line.rawBehind inRaw =
      texts.foldl rawAfter inRaw := by
  induction texts generalizing number inRaw depth with
  | nil => rfl
  | cons text texts ih => rw [readLines, List.foldl_cons, List.foldl_cons, rawBehind_read, ih]

theorem openBehind_take_readLines (texts : List (List Char)) (n : Nat) :
    openBehind ((readLines tabSpaces 1 false 0 texts).take n) =
      (texts.take n).foldl rawAfter false := by
  have htake : (readLines tabSpaces 1 false 0 texts).take n =
      readLines tabSpaces 1 false 0 (texts.take n) := by
    conv_lhs => rw [← List.take_append_drop n texts, readLines_append]
    by_cases hn : n ≤ texts.length
    · exact List.take_left' (by rw [length_readLines, List.length_take, Nat.min_eq_left hn])
    · have hdrop : texts.drop n = [] := List.drop_eq_nil_of_le (by omega)
      rw [hdrop, readLines, List.append_nil, List.take_of_length_le]
      rw [length_readLines, List.length_take]
      omega
  rw [htake, openBehind, foldl_rawBehind_readLines]

/-- One of some lines is read with what is open before it. -/
theorem exists_read_of_readLines_eq_append {number : Nat} {inRaw : Bool} {depth : Nat}
    {texts : List (List Char)} {before after : List Line} {line : Line}
    (h : readLines tabSpaces number inRaw depth texts = before ++ line :: after) :
    ∃ number' depth' text,
      line = Line.read tabSpaces number' (before.foldl Line.rawBehind inRaw) depth' text := by
  obtain ⟨textsBefore, rest, -, hbefore, hrest⟩ := exists_of_readLines_eq_append _ h
  rcases rest with _ | ⟨text, rest⟩
  · cases hrest
  · obtain ⟨rfl, -⟩ := List.cons.inj hrest
    rw [hbefore, foldl_rawBehind_readLines]
    exact ⟨_, _, text, rfl⟩

theorem exists_read_of_mem_readLines {number : Nat} {inRaw : Bool} {depth : Nat}
    {texts : List (List Char)} {line : Line}
    (h : line ∈ readLines tabSpaces number inRaw depth texts) :
    ∃ number' inRaw' depth', ∃ text ∈ texts,
      line = Line.read tabSpaces number' inRaw' depth' text := by
  induction texts generalizing number inRaw depth with
  | nil => cases h
  | cons text texts ih =>
    rcases List.mem_cons.mp h with rfl | h
    · exact ⟨number, inRaw, depth, text, List.mem_cons_self, rfl⟩
    · obtain ⟨number', inRaw', depth', text', hmem, hline⟩ := ih h
      exact ⟨number', inRaw', depth', text', List.mem_cons_of_mem _ hmem, hline⟩

end readLines

/-! ### Raw blocks -/

/-- A raw block among the lines of a document: the fence that opens it, the lines inside, and the
fence that closes it. -/
structure RawBlock (ls before : List Line) (opening : Line) (interior : List Line) (closing : Line)
    (after : List Line) : Prop where
  eq : ls = before ++ opening :: (interior ++ closing :: after)
  outside : openBehind before = false
  opens : opening.rawBehind false = true
  inside : ∀ line ∈ interior, line.kind = .raw
  closes : closing.kind = .rawFence

/-- How many raw blocks are closed by a line with an even number of fences. -/
def evenClosings : (inRaw : Bool) → List Line → Nat
  | _, [] => 0
  | inRaw, line :: rest =>
    (if inRaw && line.kind == .rawFence && !togglesRaw line.content then 1 else 0) +
      evenClosings (line.rawBehind inRaw) rest

end Tincture.Format
