import Mathlib.Data.List.DropRight
import Mathlib.Data.List.TakeWhile
import Tincture.Text.Blank
import Tincture.Text.Lines

/-!
# Trimming

A text is the white space at its start, the trimmed text, and the white space at its end
(`exists_eq_append_trim`). What starts and ends with other characters is trimmed already
(`trim_eq_self_iff`), and it is what remains of it after white space
(`trimStart_append_of_isBlank`, `trimEnd_append`).
-/

namespace Tincture.Text

/-! ### The end -/

theorem trimEnd_eq_rdropWhile (s : List Char) : trimEnd s = s.rdropWhile isBlank := rfl

@[simp] theorem trimEnd_nil : trimEnd [] = [] := rfl

theorem trimEnd_eq_nil_iff {s : List Char} : trimEnd s = [] ↔ ∀ c ∈ s, isBlank c = true :=
  List.rdropWhile_eq_nil_iff

/-- Only white space is cut off. -/
theorem exists_eq_trimEnd_append (s : List Char) :
    ∃ trail, (∀ c ∈ trail, isBlank c = true) ∧ s = trimEnd s ++ trail :=
  ⟨s.rtakeWhile isBlank, fun _ hc => List.mem_rtakeWhile_imp hc,
    List.rdropWhile_append_rtakeWhile.symm⟩

theorem trimEnd_prefix_self (s : List Char) : trimEnd s <+: s :=
  List.rdropWhile_prefix _ _

theorem trimEnd_concat_of_isBlank {c : Char} (hc : isBlank c = true) (s : List Char) :
    trimEnd (s ++ [c]) = trimEnd s :=
  List.rdropWhile_concat_pos _ _ _ hc

theorem trimEnd_concat_of_not_isBlank {c : Char} (hc : isBlank c = false) (s : List Char) :
    trimEnd (s ++ [c]) = s ++ [c] :=
  List.rdropWhile_concat_neg _ _ _ (by simp [hc])

/-- A text ends in another character just if nothing is cut off. -/
theorem trimEnd_eq_self_iff {s : List Char} :
    trimEnd s = s ↔ ∀ c, s.getLast? = some c → isBlank c = false := by
  rw [trimEnd_eq_rdropWhile, List.rdropWhile_eq_self_iff]
  constructor
  · intro h c hc
    obtain ⟨t, rfl⟩ := List.getLast?_eq_some_iff.mp hc
    simpa using h (by simp)
  · intro h hne
    simpa using h _ (List.getLast?_eq_some_getLast hne)

theorem trimEnd_append_eq_self_iff {p : List Char} (h : p ≠ []) (s : List Char) :
    trimEnd (s ++ p) = s ++ p ↔ trimEnd p = p := by
  rw [trimEnd_eq_self_iff, trimEnd_eq_self_iff, List.getLast?_append_of_ne_nil _ h]

@[simp] theorem trimEnd_trimEnd (s : List Char) : trimEnd (trimEnd s) = trimEnd s :=
  List.rdropWhile_idempotent _ _

theorem trimEnd_append_of_isBlank {trail : List Char} (h : ∀ c ∈ trail, isBlank c = true)
    (s : List Char) : trimEnd (s ++ trail) = trimEnd s := by
  induction trail using List.reverseRecOn with
  | nil => simp
  | append_singleton trail c ih =>
    rw [← List.append_assoc, trimEnd_concat_of_isBlank (h c (by simp)),
      ih fun d hd => h d (by simp [hd])]

/-- What stands before another character stays. -/
theorem trimEnd_append {t : List Char} (h : trimEnd t ≠ []) (s : List Char) :
    trimEnd (s ++ t) = s ++ trimEnd t := by
  obtain ⟨trail, htrail, ht⟩ := exists_eq_trimEnd_append t
  obtain ⟨u, c, hu⟩ := (List.eq_nil_or_concat' (trimEnd t)).resolve_left h
  have hc : isBlank c = false :=
    trimEnd_eq_self_iff.mp (trimEnd_trimEnd t) c (by simp [hu])
  calc trimEnd (s ++ t) = trimEnd (s ++ trimEnd t) := by
        conv_lhs => rw [ht, ← List.append_assoc, trimEnd_append_of_isBlank htrail]
    _ = s ++ trimEnd t := by
        rw [hu, ← List.append_assoc, trimEnd_concat_of_not_isBlank hc]

theorem trimEnd_stripReturn (s : List Char) : trimEnd (stripReturn s) = trimEnd s := by
  rw [stripReturn]
  split
  · rename_i h
    obtain ⟨t, rfl⟩ := List.getLast?_eq_some_iff.mp h
    rw [List.dropLast_concat, trimEnd_concat_of_isBlank (by decide)]
  · rfl

/-! ### The start -/

theorem trimStart_append_of_isBlank {lead : List Char} (h : ∀ c ∈ lead, isBlank c = true)
    (s : List Char) : trimStart (lead ++ s) = trimStart s := by
  rw [trimStart, List.dropWhile_append_of_pos h, trimStart]

theorem isBlank_eq_false_of_trimStart_eq_cons {s t : List Char} {c : Char}
    (h : trimStart s = c :: t) : isBlank c = false := by
  have hhead := List.head?_dropWhile_not isBlank s
  rw [← trimStart, h] at hhead
  simpa using hhead

theorem trimStart_cons_of_not_isBlank {c : Char} (hc : isBlank c = false) (s : List Char) :
    trimStart (c :: s) = c :: s := by
  simp [trimStart, hc]

/-- The white space at the start of a text, before another character. -/
theorem takeWhile_isBlank_append {lead s : List Char} (h : ∀ c ∈ lead, isBlank c = true)
    (hs : trimStart s = s) : (lead ++ s).takeWhile isBlank = lead := by
  rw [List.takeWhile_append_of_pos h]
  cases s with
  | nil => simp
  | cons c s => simp [isBlank_eq_false_of_trimStart_eq_cons hs]

/-! ### Both ends -/

theorem trim_eq (s : List Char) : trim s = trimStart (trimEnd s) := rfl

/-- A text between white space at both ends. -/
theorem exists_eq_append_trim (s : List Char) :
    ∃ lead trail, (∀ c ∈ lead, isBlank c = true) ∧ (∀ c ∈ trail, isBlank c = true) ∧
      s = lead ++ trim s ++ trail := by
  obtain ⟨trail, htrail, hs⟩ := exists_eq_trimEnd_append s
  refine ⟨(trimEnd s).takeWhile isBlank, trail, fun _ hc => List.mem_takeWhile_imp hc, htrail, ?_⟩
  rw [trim_eq, trimStart, List.takeWhile_append_dropWhile]
  exact hs

/-- A text that starts and ends with other characters. -/
theorem trim_eq_self_iff {s : List Char} :
    trim s = s ↔ trimStart s = s ∧ trimEnd s = s := by
  constructor
  · intro h
    have hend : trimEnd s = s := by
      obtain ⟨trail, -, hs⟩ := exists_eq_trimEnd_append s
      have hstart : trimEnd s <+: s := ⟨trail, hs.symm⟩
      refine hstart.eq_of_length_le ?_
      calc s.length = (trim s).length := by rw [h]
        _ ≤ (trimEnd s).length := List.length_dropWhile_le _ _
    exact ⟨by rwa [trim_eq, hend] at h, hend⟩
  · rintro ⟨hstart, hend⟩
    rw [trim_eq, hend, hstart]

theorem trimEnd_trim (s : List Char) : trimEnd (trim s) = trim s := by
  by_cases hnil : trim s = []
  · rw [hnil, trimEnd_nil]
  -- the trimmed text is the end of one that ends in another character
  have hs : (trimEnd s).takeWhile isBlank ++ trim s = trimEnd s :=
    List.takeWhile_append_dropWhile
  rw [trimEnd_eq_self_iff]
  intro c hc
  refine trimEnd_eq_self_iff.mp (trimEnd_trimEnd s) c ?_
  rw [← hs, List.getLast?_append_of_ne_nil _ hnil, hc]

theorem trimStart_trim (s : List Char) : trimStart (trim s) = trim s :=
  List.dropWhile_idempotent _ _

theorem trim_trim (s : List Char) : trim (trim s) = trim s :=
  trim_eq_self_iff.mpr ⟨trimStart_trim s, trimEnd_trim s⟩

theorem trim_eq_nil_iff {s : List Char} : trim s = [] ↔ ∀ c ∈ s, isBlank c = true := by
  obtain ⟨lead, trail, hlead, htrail, hs⟩ := exists_eq_append_trim s
  constructor
  · intro h c hc
    rw [hs, h] at hc
    simp only [List.append_nil, List.mem_append] at hc
    exact hc.elim (hlead c) (htrail c)
  · intro h
    rw [trim_eq, trimEnd_eq_nil_iff.mpr h]
    rfl

/-- White space before a text does not count. -/
theorem trim_append_of_isBlank {lead : List Char} (h : ∀ c ∈ lead, isBlank c = true)
    (s : List Char) : trim (lead ++ s) = trim s := by
  by_cases hnil : trimEnd s = []
  · have hs : ∀ c ∈ lead ++ s, isBlank c = true := fun c hc =>
      (List.mem_append.mp hc).elim (h c) (trimEnd_eq_nil_iff.mp hnil c)
    rw [trim_eq_nil_iff.mpr hs, trim_eq, hnil]
    rfl
  · rw [trim_eq, trimEnd_append hnil, trimStart_append_of_isBlank h, trim_eq]

theorem trim_blank_cons (s : List Char) : trim (' ' :: s) = trim s :=
  trim_append_of_isBlank (List.forall_mem_singleton.mpr (by decide)) s

/-- Trimming both ends cuts off white space behind what trimming the start leaves. -/
theorem exists_trimStart_eq (s : List Char) :
    ∃ trail, (∀ c ∈ trail, isBlank c = true) ∧ trimStart s = trim s ++ trail := by
  obtain ⟨trail, htrail, hs⟩ := exists_eq_trimEnd_append s
  by_cases hnil : trim s = []
  · refine ⟨trail.dropWhile isBlank,
      fun c hc => htrail c ((List.dropWhile_sublist _).subset hc), ?_⟩
    rw [trim_eq, trimStart] at hnil ⊢
    conv_lhs => rw [hs]
    rw [trimStart, List.dropWhile_append, hnil]
    rfl
  · refine ⟨trail, htrail, ?_⟩
    rw [trim_eq, trimStart] at hnil ⊢
    conv_lhs => rw [hs]
    rw [trimStart, List.dropWhile_append, if_neg (by simpa using hnil)]

end Tincture.Text
