import Mathlib.Data.List.Basic
import Tincture.Text.LineBreak

/-!
# Lines of a text that is put together

Two texts one after the other have the lines of both, where the last line of the first and the first
line of the second are one line (`brokenLines_append`). The one exception is a carriage return from
its line feed (`Parted`), and a text without carriage returns has no such place.

`breaks` counts the breaks of a text. It is the index of the last line, and the line of a place is
the number of breaks before it (`lineAt_eq_breaks`), so a text `a ++ m ++ c` is cut at the lines of
its two places as `take_brokenLines_append` and `drop_brokenLines_append` say.
-/

namespace Tincture.Text

/-! ### Texts that meet -/

/-- No carriage return at the end of `s` is parted from a line feed at the start of `t`. -/
def Parted (s t : List Char) : Prop :=
  s.getLast? = some '\r' → t.head? ≠ some '\n'

theorem parted_nil_left (t : List Char) : Parted [] t := by
  intro h
  simp at h

/-- A text without carriage returns can be followed by anything. -/
theorem parted_of_not_mem {s : List Char} (hs : '\r' ∉ s) (t : List Char) : Parted s t := by
  intro h
  exact absurd (List.mem_of_getLast? h) hs

theorem Parted.tail {c : Char} {s t : List Char} (h : Parted (c :: s) t) : Parted s t := by
  cases s with
  | nil => exact parted_nil_left t
  | cons d s =>
    intro hlast
    apply h
    rw [List.getLast?_cons_cons]
    exact hlast

/-- The lines of two texts, the last of the first and the first of the second being one. -/
def joinLines (ls ms : List (List Char)) : List (List Char) :=
  ls.dropLast ++ (ls.getLast?.getD [] ++ ms.head?.getD []) :: ms.tail

theorem joinLines_singleton (l : List Char) (ms : List (List Char)) :
    joinLines [l] ms = (l ++ ms.head?.getD []) :: ms.tail := by
  simp [joinLines]

theorem joinLines_cons {ls : List (List Char)} (h : ls ≠ []) (l : List Char)
    (ms : List (List Char)) : joinLines (l :: ls) ms = l :: joinLines ls ms := by
  obtain ⟨m, rest, rfl⟩ := List.exists_cons_of_ne_nil h
  simp [joinLines]

theorem joinLines_consLine (c : Char) {ls : List (List Char)} (h : ls ≠ [])
    (ms : List (List Char)) : joinLines (consLine c ls) ms = consLine c (joinLines ls ms) := by
  obtain ⟨l, rest, rfl⟩ := List.exists_cons_of_ne_nil h
  cases rest with
  | nil => simp [consLine, joinLines_singleton]
  | cons m rest =>
    have hne : m :: rest ≠ [] := List.cons_ne_nil m rest
    rw [consLine, joinLines_cons hne, joinLines_cons hne, consLine]

theorem brokenLines_of_isLineBreak {c : Char} {s : List Char} (hc : isLineBreak c = true)
    (h : c = '\r' → s.head? ≠ some '\n') : brokenLines (c :: s) = [c] :: brokenLines s := by
  rw [brokenLines]
  · rw [if_pos hc]
  · intro rest hr hs
    exact h hr (by rw [hs]; rfl)

theorem brokenLines_of_not_isLineBreak {c : Char} {s : List Char} (hc : isLineBreak c = false) :
    brokenLines (c :: s) = consLine c (brokenLines s) := by
  rw [brokenLines]
  · rw [if_neg (by simp [hc])]
  · intro rest hr hs
    rw [hr] at hc
    exact absurd hc (by decide)

/-- **Lines of a text put together**: they are the lines of both parts, of which the two that meet
are one. -/
theorem brokenLines_append (s t : List Char) (h : Parted s t) :
    brokenLines (s ++ t) = joinLines (brokenLines s) (brokenLines t) := by
  -- by the way in which the first text is broken: its end is where the lines are joined
  fun_induction brokenLines s with
  | case1 =>
    obtain ⟨l, rest, hl⟩ := List.exists_cons_of_ne_nil (brokenLines_ne_nil t)
    simp [joinLines_singleton, hl]
  | case2 rest ih =>
    rw [List.cons_append, List.cons_append, brokenLines, ih h.tail.tail,
      joinLines_cons (brokenLines_ne_nil rest)]
  | case3 c rest hcr hc ih =>
    -- what follows must not make the first half of a longer break of `c`
    have hmeet : c = '\r' → (rest ++ t).head? ≠ some '\n' := by
      intro hr
      cases rest with
      | nil => exact h (by simp [hr])
      | cons d rest =>
        intro hd
        exact hcr rest hr (by simpa using hd)
    rw [List.cons_append, brokenLines_of_isLineBreak hc hmeet, ih h.tail,
      joinLines_cons (brokenLines_ne_nil rest)]
  | case4 c rest hcr hc ih =>
    have hc : isLineBreak c = false := by simpa using hc
    rw [List.cons_append, brokenLines_of_not_isLineBreak hc, ih h.tail,
      joinLines_consLine c (brokenLines_ne_nil rest)]

/-! ### Counting breaks -/

/-- The number of line breaks in a text; its last line has this index. -/
def breaks (s : List Char) : Nat :=
  (brokenLines s).length - 1

theorem length_brokenLines (s : List Char) : (brokenLines s).length = breaks s + 1 := by
  have h := List.length_pos_of_ne_nil (brokenLines_ne_nil s)
  rw [breaks]
  omega

@[simp] theorem breaks_nil : breaks [] = 0 := rfl

theorem breaks_append {s t : List Char} (h : Parted s t) :
    breaks (s ++ t) = breaks s + breaks t := by
  have hs := length_brokenLines s
  have ht := length_brokenLines t
  rw [breaks, brokenLines_append s t h, joinLines]
  simp only [List.length_append, List.length_dropLast, List.length_cons, List.length_tail]
  omega

/-- The lines before the last one of `s` do not change when something follows. -/
theorem take_brokenLines_append {s t : List Char} (h : Parted s t) {n : Nat} (hn : n ≤ breaks s) :
    (brokenLines (s ++ t)).take n = (brokenLines s).take n := by
  have hs := length_brokenLines s
  rw [brokenLines_append s t h, joinLines, List.take_append_of_le_length (by simp; omega),
    List.dropLast_eq_take, List.take_take]
  congr 1
  omega

/-- The lines after the one where `s` and `t` meet are those of `t` after its first one. -/
theorem drop_brokenLines_append {s t : List Char} (h : Parted s t) :
    (brokenLines (s ++ t)).drop (breaks s + 1) = (brokenLines t).drop 1 := by
  have hs := length_brokenLines s
  rw [brokenLines_append s t h, joinLines, List.drop_append]
  simp [hs, List.drop_eq_nil_of_le]

/-! ### The line of a place -/

theorem breaks_cons_of_isLineBreak {c : Char} {s : List Char} (hc : isLineBreak c = true)
    (h : c = '\r' → s.head? ≠ some '\n') : breaks (c :: s) = breaks s + 1 := by
  have hs := length_brokenLines s
  rw [breaks, brokenLines_of_isLineBreak hc h, List.length_cons, hs]
  rfl

theorem breaks_cons_of_not_isLineBreak {c : Char} {s : List Char} (hc : isLineBreak c = false) :
    breaks (c :: s) = breaks s := by
  obtain ⟨l, rest, hl⟩ := List.exists_cons_of_ne_nil (brokenLines_ne_nil s)
  rw [breaks, breaks, brokenLines_of_not_isLineBreak hc, hl, consLine]
  rfl

/-- The line of a place is the number of breaks before it, if the place parts no carriage return
from its line feed. -/
theorem lineAt_eq_breaks (s : List Char) (n : Nat) (h : Parted (s.take n) (s.drop n)) :
    lineAt s n = breaks (s.take n) := by
  fun_induction lineAt s n with
  | case1 => simp
  | case2 => simp
  -- the place is between a carriage return and its line feed
  | case3 rest => exact absurd rfl (h rfl)
  | case4 rest n ih =>
    have hlen := length_brokenLines (rest.take n)
    rw [ih h.tail.tail, List.take_succ_cons, List.take_succ_cons, breaks, breaks, brokenLines,
      List.length_cons]
    omega
  | case5 c rest n h1 h2 ih =>
    rw [ih h.tail, List.take_succ_cons]
    by_cases hc : isLineBreak c = true
    · have hmeet : c = '\r' → (rest.take n).head? ≠ some '\n' := by
        intro hr hd
        cases n with
        | zero => simp at hd
        | succ n =>
          cases rest with
          | nil => simp at hd
          | cons d rest => exact h2 rest n hr (by simpa using hd) rfl
      rw [if_pos hc, breaks_cons_of_isLineBreak hc hmeet]
    · rw [if_neg hc, breaks_cons_of_not_isLineBreak (by simpa using hc), Nat.add_zero]

/-! ### Breaks on both sides of a place -/

theorem breaks_crlf (s : List Char) : breaks ('\r' :: '\n' :: s) = breaks s + 1 := by
  rw [breaks, brokenLines, List.length_cons, length_brokenLines]
  rfl

/-- **The breaks of a text** are those that end at or before a place and those of the text behind
it. A break that the place parts is one of the second. -/
theorem breaks_eq_lineAt_add (s : List Char) (n : Nat) :
    breaks s = lineAt s n + breaks (s.drop n) := by
  fun_induction lineAt s n with
  | case1 => simp
  | case2 => simp
  | case3 rest =>
    rw [breaks_crlf, List.drop_succ_cons, List.drop_zero,
      breaks_cons_of_isLineBreak rfl (by simp), Nat.zero_add]
  | case4 rest n ih =>
    rw [breaks_crlf, ih, List.drop_succ_cons, List.drop_succ_cons]
    omega
  | case5 c rest n h1 h2 ih =>
    rw [List.drop_succ_cons]
    by_cases hc : isLineBreak c = true
    · have hmeet : c = '\r' → rest.head? ≠ some '\n' := by
        intro hr hd
        obtain ⟨rest, rfl⟩ := List.head?_eq_some_iff.mp hd
        cases n with
        | zero => exact h1 rest hr rfl rfl
        | succ n => exact h2 rest n hr rfl rfl
      rw [breaks_cons_of_isLineBreak hc hmeet, if_pos hc, ih]
      omega
    · rw [breaks_cons_of_not_isLineBreak (by simpa using hc), if_neg hc, ih, Nat.add_zero]

theorem breaks_le_breaks_append (s t : List Char) : breaks t ≤ breaks (s ++ t) := by
  rw [breaks_eq_lineAt_add (s ++ t) s.length, List.drop_left]
  exact Nat.le_add_left _ _

theorem lineAt_mono (s : List Char) {m n : Nat} (h : m ≤ n) : lineAt s m ≤ lineAt s n := by
  have hm := breaks_eq_lineAt_add s m
  have hn := breaks_eq_lineAt_add s n
  have hle := breaks_le_breaks_append ((s.drop m).take (n - m)) (s.drop n)
  rw [show s.drop n = (s.drop m).drop (n - m) by rw [List.drop_drop, Nat.add_sub_cancel' h],
    List.take_append_drop, List.drop_drop, Nat.add_sub_cancel' h] at hle
  omega

/-- A carriage return and its line feed are one break together, and two when they are parted. -/
theorem breaks_append_of_not_parted {s t : List Char} (h : ¬ Parted s t) :
    breaks (s ++ t) + 1 = breaks s + breaks t := by
  rw [Parted, Classical.not_imp, not_not] at h
  obtain ⟨hs, ht⟩ := h
  obtain ⟨s, rfl⟩ := List.getLast?_eq_some_iff.mp hs
  obtain ⟨t, rfl⟩ := List.head?_eq_some_iff.mp ht
  have hlone : breaks ['\r'] = 1 := rfl
  have hfeed : breaks ('\n' :: t) = breaks t + 1 := breaks_cons_of_isLineBreak rfl (by simp)
  have hparted : ∀ u, Parted s ('\r' :: u) := fun u _ => by simp
  rw [List.append_assoc, List.singleton_append, breaks_append (hparted _), breaks_crlf,
    breaks_append (hparted []), hlone, hfeed]
  omega

/-- At most one break more comes about when a text is cut in two, and none is lost. -/
theorem breaks_append_le (s t : List Char) : breaks (s ++ t) ≤ breaks s + breaks t := by
  by_cases h : Parted s t
  · exact Nat.le_of_eq (breaks_append h)
  · have := breaks_append_of_not_parted h
    omega

theorem breaks_add_le (s t : List Char) : breaks s + breaks t ≤ breaks (s ++ t) + 1 := by
  by_cases h : Parted s t
  · rw [breaks_append h]
    exact Nat.le_succ _
  · exact Nat.le_of_eq (breaks_append_of_not_parted h).symm

/-- As many breaks end before a place as the text before it has, or one less if the place parts
it. -/
theorem lineAt_le_breaks_take (s : List Char) (n : Nat) : lineAt s n ≤ breaks (s.take n) := by
  have hcut := breaks_append_le (s.take n) (s.drop n)
  rw [List.take_append_drop, breaks_eq_lineAt_add s n] at hcut
  omega

end Tincture.Text
