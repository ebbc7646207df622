import Tincture.Proofs.Text.BrokenLines

/-!
# What ends a line

A line of a text is a content without line breaks and what ends it: one line break, a carriage
return together with its line feed, or nothing at the end of the text (`LineEnding`). A text is cut
behind the ending of its first line (`exists_firstLine`), and the rest is the text of the other
lines, so that the lines from any one on are those of the text from its start on
(`brokenLines_drop_lineStart`). With that, places are counted from the start of their line
(`lineAt_lineStart_add`), and `exists_line` says where a line goes and where the next one begins.

A line is shown without the line feed that ends it, and without the carriage return of that line feed
(`IsTrimmed`); any other break stays with its line (`trimLineFeed_append`).
-/

namespace Tincture.Text

/-- What can end a line; nothing ends the last one. -/
inductive LineEnding : List Char → Prop where
  | none : LineEnding []
  | returnFeed : LineEnding ['\r', '\n']
  | single {c : Char} (h : isLineBreak c = true) : LineEnding [c]

/-- A text is a first line, that is, a content and its ending, and a rest. Only the end of the text
is no line break, and a carriage return that ends a line is not parted from a line feed. -/
structure FirstLine (s content ending rest : List Char) : Prop where
  eq : s = content ++ ending ++ rest
  plain : ∀ c ∈ content, isLineBreak c = false
  isEnding : LineEnding ending
  ended : ending = [] → rest = []
  parted : ending = ['\r'] → rest.head? ≠ some '\n'

theorem exists_firstLine (s : List Char) : ∃ content ending rest, FirstLine s content ending rest := by
  induction s with
  | nil => exact ⟨[], [], [], rfl, by simp, .none, fun _ => rfl, by simp⟩
  | cons c s ih =>
    by_cases hc : isLineBreak c = true
    · by_cases hfeed : c = '\r' ∧ s.head? = some '\n'
      · obtain ⟨rfl, hhead⟩ := hfeed
        obtain ⟨rest, rfl⟩ := List.head?_eq_some_iff.mp hhead
        exact ⟨[], ['\r', '\n'], rest, rfl, by simp, .returnFeed, by simp, by simp⟩
      · refine ⟨[], [c], s, rfl, by simp, .single hc, by simp, fun hreturn hhead => ?_⟩
        exact hfeed ⟨List.singleton_inj.mp hreturn, hhead⟩
    · obtain ⟨content, ending, rest, hfirst⟩ := ih
      have hplain : ∀ d ∈ c :: content, isLineBreak d = false :=
        List.forall_mem_cons.mpr ⟨by simpa using hc, hfirst.plain⟩
      exact ⟨c :: content, ending, rest, by simp [hfirst.eq], hplain, hfirst.isEnding, hfirst.ended,
        hfirst.parted⟩

namespace FirstLine

variable {s content ending rest : List Char}

/-- **The lines of a text** are its first one and those of the rest. -/
theorem brokenLines_eq (h : FirstLine s content ending rest) :
    brokenLines s = (content ++ ending) :: if ending = [] then [] else brokenLines rest := by
  obtain ⟨rfl, hplain, hending, hended, hparted⟩ := h
  induction content with
  | nil =>
    cases hending with
    | none =>
      obtain rfl := hended rfl
      rfl
    | returnFeed => rfl
    | single hc =>
      exact brokenLines_of_isLineBreak hc fun hreturn => hparted (by rw [hreturn])
  | cons c content ih =>
    obtain ⟨hc, hcontent⟩ := List.forall_mem_cons.mp hplain
    rw [List.cons_append, List.cons_append, brokenLines_of_not_isLineBreak hc, ih hcontent]
    rfl

/-- What is left of a text behind a part of its first line. -/
theorem drop (h : FirstLine s content ending rest) {n : Nat} (hn : n ≤ content.length) :
    FirstLine (s.drop n) (content.drop n) ending rest where
  eq := by rw [h.eq, List.append_assoc, List.drop_append_of_le_length hn, List.append_assoc]
  plain := fun c hc => h.plain c (List.mem_of_mem_drop hc)
  isEnding := h.isEnding
  ended := h.ended
  parted := h.parted

theorem breaks_eq (h : FirstLine s content ending rest) :
    breaks s = if ending = [] then 0 else breaks rest + 1 := by
  rw [breaks, h.brokenLines_eq]
  split_ifs with hnil
  · rfl
  · rw [List.length_cons, length_brokenLines, Nat.add_sub_cancel]

/-- The content of the first line is on it, its end included. -/
theorem lineAt_of_le (h : FirstLine s content ending rest) {n : Nat} (hn : n ≤ content.length) :
    lineAt s n = 0 := by
  have hbreaks := breaks_eq_lineAt_add s n
  have hdrop := (h.drop hn).breaks_eq
  rw [← h.breaks_eq] at hdrop
  omega

/-- Behind an ending the next line begins. -/
theorem lineAt_length (h : FirstLine s content ending rest) (hne : ending ≠ []) :
    lineAt s (content ++ ending).length = 1 := by
  have hbreaks := breaks_eq_lineAt_add s (content ++ ending).length
  have hdrop : s.drop (content ++ ending).length = rest := by rw [h.eq, List.drop_left]
  rw [hdrop, h.breaks_eq, if_neg hne] at hbreaks
  omega

end FirstLine

/-! ### From line to line -/

@[simp] theorem lineStart_zero (s : List Char) : lineStart s 0 = 0 := rfl

/-- A later line starts in the rest behind the first one. -/
theorem FirstLine.lineStart_succ {s content ending rest : List Char}
    (h : FirstLine s content ending rest) (hne : ending ≠ []) (line : Nat) :
    lineStart s (line + 1) = (content ++ ending).length + lineStart rest line := by
  rw [lineStart, h.brokenLines_eq, if_neg hne, List.take_succ_cons, List.flatten_cons,
    List.length_append]
  rfl

/-- **The lines from one on** are those of the text from its start on. -/
theorem brokenLines_drop_lineStart {s : List Char} {line : Nat}
    (h : line < (brokenLines s).length) :
    brokenLines (s.drop (lineStart s line)) = (brokenLines s).drop line := by
  induction line generalizing s with
  | zero => rfl
  | succ line ih =>
    obtain ⟨content, ending, rest, hfirst⟩ := exists_firstLine s
    have hlines := hfirst.brokenLines_eq
    by_cases hne : ending = []
    · -- a text of one line has no other
      rw [hlines, if_pos hne] at h
      simp at h
    · rw [if_neg hne] at hlines
      have hdrop : s.drop (content ++ ending).length = rest := by rw [hfirst.eq, List.drop_left]
      rw [hlines, List.length_cons, Nat.succ_lt_succ_iff] at h
      rw [hfirst.lineStart_succ hne, ← List.drop_drop, hdrop, ih h, hlines, List.drop_succ_cons]

/-- **Places** are counted from the start of their line. -/
theorem lineAt_lineStart_add {s : List Char} {line : Nat} (h : line < (brokenLines s).length)
    (n : Nat) : lineAt s (lineStart s line + n) = line + lineAt (s.drop (lineStart s line)) n := by
  have hrest := length_brokenLines (s.drop (lineStart s line))
  rw [brokenLines_drop_lineStart h, List.length_drop, length_brokenLines] at hrest
  rw [length_brokenLines] at h
  have hall := breaks_eq_lineAt_add s (lineStart s line + n)
  have hbehind := breaks_eq_lineAt_add (s.drop (lineStart s line)) n
  rw [List.drop_drop] at hbehind
  omega

/-- **A line** is a content and an ending. All places of the content are on it, and behind the ending
is the next line. -/
theorem exists_line {s : List Char} {line : Nat} (h : line < (brokenLines s).length) :
    ∃ content ending, (brokenLines s)[line]? = some (content ++ ending) ∧
      (∀ c ∈ content, isLineBreak c = false) ∧ LineEnding ending ∧
      (∀ n ≤ content.length, lineAt s (lineStart s line + n) = line) ∧
      (ending ≠ [] → lineAt s (lineStart s line + (content ++ ending).length) = line + 1) := by
  obtain ⟨content, ending, rest, hfirst⟩ := exists_firstLine (s.drop (lineStart s line))
  refine ⟨content, ending, ?_, hfirst.plain, hfirst.isEnding, fun n hn => ?_, fun hne => ?_⟩
  · rw [← List.head?_drop, ← brokenLines_drop_lineStart h, hfirst.brokenLines_eq, List.head?_cons]
  · rw [lineAt_lineStart_add h, hfirst.lineAt_of_le hn, Nat.add_zero]
  · rw [lineAt_lineStart_add h, hfirst.lineAt_length hne]

/-! ### Lines that are shown -/

/-- An ending that is not shown with its line. -/
def IsTrimmed (ending : List Char) : Prop :=
  ending = [] ∨ ending = ['\n'] ∨ ending = ['\r', '\n']

instance (ending : List Char) : Decidable (IsTrimmed ending) :=
  inferInstanceAs (Decidable (ending = [] ∨ ending = ['\n'] ∨ ending = ['\r', '\n']))

theorem trimLineFeed_of_getLast?_ne {line : List Char} (h : line.getLast? ≠ some '\n') :
    trimLineFeed line = line := by
  rw [← List.head?_reverse] at h
  rw [trimLineFeed]
  split
  · rename_i heq
    exact absurd (by rw [heq]; rfl) h
  · rename_i heq
    exact absurd (by rw [heq]; rfl) h
  · rfl

theorem trimLineFeed_append_returnFeed (line : List Char) :
    trimLineFeed (line ++ ['\r', '\n']) = line := by
  simp [trimLineFeed]

theorem trimLineFeed_append_feed {line : List Char} (h : line.getLast? ≠ some '\r') :
    trimLineFeed (line ++ ['\n']) = line := by
  rcases line.eq_nil_or_concat' with rfl | ⟨start, c, rfl⟩
  · rfl
  · have hc : c ≠ '\r' := by simpa using h
    simp [trimLineFeed, hc]

/-- **What is shown of a line** is its content, and its ending as far as that is not trimmed. -/
theorem trimLineFeed_append {content ending : List Char}
    (hplain : ∀ c ∈ content, isLineBreak c = false) (hending : LineEnding ending) :
    trimLineFeed (content ++ ending) =
      if IsTrimmed ending then content else content ++ ending := by
  have hlast : ∀ {c}, isLineBreak c = true → content.getLast? ≠ some c := by
    intro c hc heq
    rw [hplain c (List.mem_of_getLast? heq)] at hc
    cases hc
  cases hending with
  | none =>
    rw [if_pos (.inl rfl), List.append_nil]
    exact trimLineFeed_of_getLast?_ne (hlast rfl)
  | returnFeed =>
    rw [if_pos (.inr (.inr rfl))]
    exact trimLineFeed_append_returnFeed content
  | @single c hc =>
    by_cases hfeed : c = '\n'
    · subst hfeed
      rw [if_pos (.inr (.inl rfl))]
      exact trimLineFeed_append_feed (hlast rfl)
    · rw [if_neg (by simp [IsTrimmed, hfeed])]
      exact trimLineFeed_of_getLast?_ne (by simpa using hfeed)

end Tincture.Text
