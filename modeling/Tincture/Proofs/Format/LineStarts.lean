import Tincture.Proofs.Format.Collapsing
import Tincture.Proofs.Format.ImportItems

/-!
# How a line starts

A line is classified by its start, up to its first blank at most (`classify_of_sameStart`). Neither
collapsing blanks nor sorting the items of an import changes that start (`sameStart_collapseSpaces`,
`sameStart_sortImportItems`).
-/

namespace Tincture.Format

open Text

/-- Texts that are the same, or the same up to and with their first blank. -/
def SameStart (s t : List Char) : Prop :=
  s = t ∨ ∃ word x y, ' ' ∉ word ∧ s = word ++ ' ' :: x ∧ t = word ++ ' ' :: y

/-- What a text with blanks in it starts with, if that has a blank at its end at most. -/
theorem prefix_append_blank_iff {p word : List Char} (hp : ' ' ∉ p.dropLast) (x : List Char) :
    p <+: word ++ ' ' :: x ↔ p <+: word ++ [' '] := by
  have hword : word ++ [' '] <+: word ++ ' ' :: x := by
    rw [List.prefix_append_right_inj, List.cons_prefix_cons]
    exact ⟨rfl, List.nil_prefix⟩
  refine ⟨fun h => ?_, fun h => h.trans hword⟩
  rcases List.prefix_or_prefix_of_prefix h hword with hshort | ⟨more, rfl⟩
  · exact hshort
  · -- whatever follows the blank would put it before the last character
    rcases more with _ | ⟨c, more⟩
    · exact List.append_nil _ ▸ List.prefix_rfl
    · refine absurd ?_ hp
      rw [List.dropLast_append_of_ne_nil (List.cons_ne_nil c more)]
      simp

theorem isPrefixOf_of_sameStart {s t : List Char} (h : SameStart s t) {p : List Char}
    (hp : ' ' ∉ p.dropLast) : p.isPrefixOf s = p.isPrefixOf t := by
  rcases h with rfl | ⟨word, x, y, -, rfl, rfl⟩
  · rfl
  · rw [Bool.eq_iff_iff, List.isPrefixOf_iff_prefix, List.isPrefixOf_iff_prefix,
      prefix_append_blank_iff hp x, prefix_append_blank_iff hp y]

theorem takeWhile_of_sameStart {s t : List Char} (h : SameStart s t) {p : Char → Bool}
    (hp : p ' ' = false) : s.takeWhile p = t.takeWhile p := by
  rcases h with rfl | ⟨word, x, y, -, rfl, rfl⟩
  · rfl
  · simp only [List.takeWhile_append, List.takeWhile_cons, hp, Bool.false_eq_true, ↓reduceIte]

/-- Lines are classified by their start. -/
theorem classify_of_sameStart {s t : List Char} (h : SameStart s t) :
    LineKind.classify s = LineKind.classify t := by
  have hempty : s.isEmpty = t.isEmpty := by
    rcases h with rfl | ⟨word, x, y, -, rfl, rfl⟩
    · rfl
    · cases word <;> rfl
  have hfence : startsFence s = startsFence t := isPrefixOf_of_sameStart h (by decide)
  unfold LineKind.classify
  simp only [hempty, hfence, isPrefixOf_of_sameStart h (p := "=".toList) (by decide),
    isPrefixOf_of_sameStart h (p := "- ".toList) (by decide),
    isPrefixOf_of_sameStart h (p := "+ ".toList) (by decide),
    isPrefixOf_of_sameStart h (p := "/ ".toList) (by decide),
    isPrefixOf_of_sameStart h (p := "//".toList) (by decide),
    isPrefixOf_of_sameStart h (p := "/*".toList) (by decide),
    isPrefixOf_of_sameStart h (p := "#import ".toList) (by decide),
    isPrefixOf_of_sameStart h (p := "#".toList) (by decide),
    takeWhile_of_sameStart h (p := (· == '=')) (by decide),
    takeWhile_of_sameStart h (p := (· != ' ')) (by decide)]

theorem SameStart.trans {s t u : List Char} (h : SameStart s t) (h' : SameStart t u) :
    SameStart s u := by
  rcases h with rfl | ⟨word, x, y, hword, rfl, rfl⟩
  · exact h'
  rcases h' with rfl | ⟨word', y', z, hword', heq, rfl⟩
  · exact .inr ⟨word, x, y, hword, rfl, rfl⟩
  · -- the first blank of the text between is in one place
    have htake : ∀ {w : List Char} (v : List Char), ' ' ∉ w →
        (w ++ ' ' :: v).takeWhile (· != ' ') = w := fun {w} v hw => by
      rw [List.takeWhile_append_of_pos fun c hc => by
        simpa using fun hblank : c = ' ' => hw (hblank ▸ hc)]
      simp
    obtain rfl : word = word' := by rw [← htake y hword, heq, htake y' hword']
    exact .inr ⟨word, x, z, hword, rfl, rfl⟩

theorem SameStart.trimStart_eq {s t : List Char} (h : SameStart s t) (ht : trimStart t = t) :
    trimStart s = s := by
  rcases h with rfl | ⟨word, x, y, -, rfl, rfl⟩
  · exact ht
  rcases word with _ | ⟨c, word⟩
  · exact absurd (isBlank_eq_false_of_trimStart_eq_cons ht) (by decide)
  · exact trimStart_cons_of_not_isBlank (isBlank_eq_false_of_trimStart_eq_cons ht) _

theorem SameStart.ne_nil {s t : List Char} (h : SameStart s t) (ht : t ≠ []) : s ≠ [] := by
  rcases h with rfl | ⟨word, x, y, -, rfl, rfl⟩
  · exact ht
  · simp

/-! ### Collapsing and sorting -/

theorem sameStart_collapseSpaces (s : List Char) : SameStart (collapseSpaces s) s := by
  have hword : ' ' ∉ s.takeWhile (· != ' ') := fun hmem => by
    simpa using List.mem_takeWhile_imp hmem
  obtain ⟨q, r, hcollapse⟩ := collapseFrom_append hword false false (s.dropWhile (· != ' '))
  have hs : s.takeWhile (· != ' ') ++ s.dropWhile (· != ' ') = s := List.takeWhile_append_dropWhile
  rw [hs] at hcollapse
  cases hrest : s.dropWhile (· != ' ') with
  | nil =>
    rw [hrest, List.append_nil] at hs
    rw [hrest, hs] at hcollapse
    exact .inl (hcollapse.trans (List.append_nil s))
  | cons c rest =>
    -- what stops the first word is a blank, and it is kept
    have hc : c = ' ' := by
      have hhead := List.head?_dropWhile_not (· != ' ') s
      rw [hrest] at hhead
      simpa using hhead
    subst hc
    obtain ⟨q', r', b', -, hkeep⟩ := collapseFrom_false_cons q r ' '
    rw [hrest, hkeep] at hcollapse
    rw [hrest] at hs
    exact .inr ⟨_, _, rest, hword, hcollapse, hs.symm⟩

theorem prefix_of_classify_eq_importLine {content : List Char}
    (h : LineKind.classify content = .importLine) : "#import ".toList <+: content := by
  unfold LineKind.classify at h
  dsimp only at h
  split_ifs at h with h1 h2 h3 h4 h5 h6
  exact List.isPrefixOf_iff_prefix.mp h6

theorem sameStart_sortImportItems {content : List Char}
    (h : LineKind.classify content = .importLine) : SameStart (sortImportItems content) content := by
  obtain ⟨y, hy⟩ := prefix_of_classify_eq_importLine h
  obtain ⟨x, hx⟩ := prefix_sortImportItems (by decide) (prefix_of_classify_eq_importLine h)
  refine .inr ⟨"#import".toList, x, y, by decide, ?_, ?_⟩
  · rw [← hx]
    rfl
  · rw [← hy]
    rfl

end Tincture.Format
