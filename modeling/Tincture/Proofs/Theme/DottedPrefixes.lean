import Mathlib.Data.List.Basic
import Tincture.Theme.Display

/-!
# Dotted prefixes

A scope has for its dotted prefixes the empty text, what stands before each of its dots, and itself
(`mem_dottedPrefixes_iff`). Their paths are the ones that the path of the scope starts with
(`StyleTrie.path_prefix_iff`), and in the order of texts the shorter ones come first
(`pairwise_dottedPrefixes`).
-/

namespace Tincture

open Text

namespace Text

/-- The pieces of a text start with those of another if it goes on after that one with a separator,
or is the same. -/
theorem splitOn_prefix_iff (sep : Char) (a b : List Char) :
    splitOn sep a <+: splitOn sep b ↔ a = b ∨ a ++ [sep] <+: b := by
  have hnil : splitOn sep [] = [[]] := rfl
  -- the induction is on the shorter text; the other one is empty or starts with a separator or not
  induction a generalizing b with
  | nil =>
    rcases b with _ | ⟨c, b⟩
    · simp
    by_cases hc : c = sep
    · subst hc
      simp [hnil, splitOn_cons_self]
    · obtain ⟨piece, more, _, hb⟩ := exists_splitOn_cons_of_ne hc b
      simp [hnil, hb, List.cons_prefix_cons, Ne.symm hc]
  | cons x a ih =>
    by_cases hx : x = sep
    · subst hx
      rw [splitOn_cons_self]
      rcases b with _ | ⟨c, b⟩
      · simp [hnil, List.cons_prefix_cons, splitOn_ne_nil]
      by_cases hc : c = x
      · subst hc
        simp [splitOn_cons_self, List.cons_prefix_cons, ih]
      · obtain ⟨piece, more, _, hb⟩ := exists_splitOn_cons_of_ne hc b
        simp [hb, List.cons_prefix_cons, Ne.symm hc]
    · obtain ⟨piece, more, ha, hxa⟩ := exists_splitOn_cons_of_ne hx a
      rw [hxa]
      rcases b with _ | ⟨c, b⟩
      · simp [hnil, List.cons_prefix_cons]
      by_cases hc : c = sep
      · subst hc
        simp [splitOn_cons_self, List.cons_prefix_cons, hx]
      · obtain ⟨piece', more', hb, hcb⟩ := exists_splitOn_cons_of_ne hc b
        have hrest := ih b
        rw [ha, hb, List.cons_prefix_cons] at hrest
        simp [hcb, List.cons_prefix_cons, and_assoc, hrest, and_or_left]

end Text

/-! ### What stands before dots -/

namespace DisplayToken

/-- What stands before a dot goes on with one. -/
theorem mem_beforeDots_iff (p s : List Char) : p ∈ beforeDots s ↔ p ++ ['.'] <+: s := by
  induction s generalizing p with
  | nil => simp [beforeDots]
  | cons c s ih =>
    have hlonger : p ∈ (beforeDots s).map (c :: ·) ↔ ∃ q, p = c :: q ∧ q ++ ['.'] <+: s := by
      rw [List.mem_map]
      constructor
      · rintro ⟨q, hq, rfl⟩
        exact ⟨q, rfl, (ih q).mp hq⟩
      · rintro ⟨q, rfl, hq⟩
        exact ⟨q, (ih q).mpr hq, rfl⟩
    rw [beforeDots]
    split
    · rename_i hc
      rw [List.mem_cons, hlonger]
      cases p with
      | nil => simp [hc]
      | cons d p => simp [List.cons_prefix_cons, eq_comm, and_comm]
    · rename_i hc
      rw [hlonger]
      cases p with
      | nil => simp [List.cons_prefix_cons, Ne.symm hc]
      | cons d p => simp [List.cons_prefix_cons]

/-- Each piece before a dot goes on in the longer ones. -/
theorem pairwise_beforeDots (s : List Char) :
    (beforeDots s).Pairwise fun a b => a <+: b ∧ a ≠ b := by
  induction s with
  | nil => exact List.Pairwise.nil
  | cons c s ih =>
    have hlonger : ((beforeDots s).map (c :: ·)).Pairwise fun a b => a <+: b ∧ a ≠ b := by
      refine List.pairwise_map.mpr (ih.imp fun {a b} h => ?_)
      exact ⟨List.cons_prefix_cons.mpr ⟨rfl, h.1⟩, fun heq => h.2 (List.cons.inj heq).2⟩
    rw [beforeDots]
    split
    · refine List.pairwise_cons.mpr ⟨fun p hp => ?_, hlonger⟩
      obtain ⟨q, _, rfl⟩ := List.mem_map.mp hp
      exact ⟨List.nil_prefix, (List.cons_ne_nil c q).symm⟩
    · exact hlonger

end DisplayToken

namespace StyleTrie

/-- The dotted prefixes of a scope, the shortest first: the empty text, what stands before each dot,
and the scope itself. -/
def dottedPrefixes (scope : String) : List String :=
  "" :: ((DisplayToken.beforeDots scope.toList ++ [scope.toList]).filter (· ≠ [])).map String.ofList

theorem mem_dottedPrefixes_iff (p scope : String) :
    p ∈ dottedPrefixes scope ↔ p = "" ∨ p = scope ∨ p.toList ++ ['.'] <+: scope.toList := by
  have hmem : p ∈ ((DisplayToken.beforeDots scope.toList ++ [scope.toList]).filter (· ≠ [])).map
      String.ofList ↔ p ≠ "" ∧ (p = scope ∨ p.toList ++ ['.'] <+: scope.toList) := by
    rw [List.mem_map]
    constructor
    · rintro ⟨q, hq, rfl⟩
      simp only [List.mem_filter, List.mem_append, List.mem_singleton, decide_eq_true_eq,
        DisplayToken.mem_beforeDots_iff] at hq
      obtain ⟨hq | rfl, hne⟩ := hq
      · simp [hq, hne]
      · rw [String.ofList_toList]
        exact ⟨fun h => hne (String.toList_eq_nil_iff.mpr h), Or.inl rfl⟩
    · rintro ⟨hne, hp⟩
      refine ⟨p.toList, ?_, String.ofList_toList⟩
      simp only [List.mem_filter, List.mem_append, List.mem_singleton, decide_eq_true_eq,
        DisplayToken.mem_beforeDots_iff]
      refine ⟨?_, fun hnil => hne (String.toList_eq_nil_iff.mp hnil)⟩
      rcases hp with rfl | hp
      · exact Or.inr rfl
      · exact Or.inl hp
  rw [dottedPrefixes, List.mem_cons, hmem]
  tauto

/-- The path of a scope starts with the paths of its dotted prefixes, and with no others. -/
theorem path_prefix_iff (p scope : String) : path p <+: path scope ↔ p ∈ dottedPrefixes scope := by
  rw [mem_dottedPrefixes_iff, path]
  split
  · rename_i hp
    simp [hp]
  rename_i hp
  rw [path]
  split
  · rename_i hscope
    simp [hp, hscope, splitOn_ne_nil]
  · rw [splitOn_prefix_iff, String.toList_inj]
    simp [hp]

/-- A text comes before the ones that it is a proper prefix of. -/
theorem lt_of_prefix {a b : List Char} (h : a <+: b) (hne : a ≠ b) : a < b := by
  induction a generalizing b with
  | nil =>
    obtain ⟨c, b, rfl⟩ := List.exists_cons_of_ne_nil hne.symm
    exact List.nil_lt_cons c b
  | cons c a ih =>
    obtain ⟨rest, rfl⟩ := h
    refine List.cons_lt_cons_self.mpr (ih (List.prefix_append _ _) fun heq => ?_)
    exact hne (congrArg (c :: ·) heq)

/-- **The dotted prefixes** are in the order of texts. -/
theorem pairwise_dottedPrefixes (scope : String) : (dottedPrefixes scope).Pairwise (· < ·) := by
  have hlonger : (DisplayToken.beforeDots scope.toList ++ [scope.toList]).Pairwise (· < ·) := by
    refine List.pairwise_append.mpr ⟨?_, List.pairwise_singleton _ _, fun p hp s hs => ?_⟩
    · exact (DisplayToken.pairwise_beforeDots _).imp fun h => lt_of_prefix h.1 h.2
    · obtain rfl := List.mem_singleton.mp hs
      have hp := (DisplayToken.mem_beforeDots_iff p _).mp hp
      refine lt_of_prefix ((List.prefix_append _ _).trans hp) fun heq => ?_
      have hlength := hp.length_le
      rw [heq, List.length_append, List.length_singleton] at hlength
      omega
  refine List.pairwise_cons.mpr ⟨fun p hp => ?_, ?_⟩
  · obtain ⟨q, hq, rfl⟩ := List.mem_map.mp hp
    have hne : q ≠ [] := by simpa using (List.mem_filter.mp hq).2
    rw [String.lt_iff, String.toList_empty, String.toList_ofList]
    exact lt_of_prefix List.nil_prefix hne.symm
  · refine List.pairwise_map.mpr ((hlonger.filter _).imp fun h => ?_)
    rw [String.lt_iff, String.toList_ofList, String.toList_ofList]
    exact h

end StyleTrie

end Tincture
