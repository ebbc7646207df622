import Mathlib.Data.List.Perm.Basic
import Tincture.Proofs.Format.ImportItems
import Tincture.Proofs.Text.ByteOrder

/-!
# Sorted imports

Sorting an import rewrites what stands behind the last `":` of its line and nothing else: the items
between the commas there, without the white space around them, are put in the order of their bytes and
written with a comma and a blank between them (`sortImportItems_permutes`). The line stays as it is
just if there is no such colon, or what is behind it is not a plain list of items (`IsSortable`).
-/

namespace Tincture.Format

open Text

/-! ### The last colon -/

theorem quoteColon_prefix_cons_iff {c : Char} {s : List Char} :
    ['"', ':'] <+: c :: s ↔ c = '"' ∧ s.head? = some ':' := by
  rw [List.cons_prefix_cons, eq_comm]
  refine and_congr_right fun _ => ?_
  cases s with
  | nil => simp
  | cons d s => simp [List.cons_prefix_cons, eq_comm]

/-- A line is not cut if there is no `":` in it. -/
theorem splitAfterLastColon_eq_none_iff {s : List Char} :
    splitAfterLastColon s = none ↔ ¬ ['"', ':'] <:+: s := by
  induction s with
  | nil => simp [splitAfterLastColon]
  | cons c s ih =>
    rw [splitAfterLastColon_cons, List.infix_cons_iff, quoteColon_prefix_cons_iff]
    cases hs : splitAfterLastColon s with
    | none =>
      have hrest : ¬ ['"', ':'] <:+: s := ih.mp hs
      by_cases hquote : c = '"' ∧ s.head? = some ':' <;> simp [hquote, hrest]
    | some found =>
      have hrest : ['"', ':'] <:+: s := by
        by_contra hnone
        rw [ih.mpr hnone] at hs
        cases hs
      simp [hrest]

/-- **The place where a line is cut** is behind its last `":`. -/
theorem splitAfterLastColon_of_last {rest : List Char} (h : ¬ ['"', ':'] <:+: rest)
    (pre : List Char) :
    splitAfterLastColon (pre ++ '"' :: ':' :: rest) = some (pre ++ ['"', ':'], rest) := by
  induction pre with
  | nil =>
    have hcolon : splitAfterLastColon (':' :: rest) = none := by
      rw [splitAfterLastColon_cons, splitAfterLastColon_eq_none_iff.mpr h]
      exact if_neg fun hquote => absurd hquote.1 (by decide)
    rw [List.nil_append, splitAfterLastColon_cons, hcolon]
    exact if_pos ⟨rfl, rfl⟩
  | cons c pre ih =>
    rw [List.cons_append, splitAfterLastColon_cons, ih]
    rfl

/-- Behind it there is no other one. -/
theorem not_infix_of_splitAfterLastColon {s head rest : List Char}
    (h : splitAfterLastColon s = some (head, rest)) : ¬ ['"', ':'] <:+: rest := by
  induction s generalizing head with
  | nil => cases h
  | cons c s ih =>
    rw [splitAfterLastColon_cons] at h
    cases hs : splitAfterLastColon s with
    | some found =>
      rw [hs] at h
      obtain ⟨-, rfl⟩ := Prod.mk.inj (Option.some.inj h)
      exact ih hs
    | none =>
      rw [hs] at h
      dsimp only at h
      split_ifs at h
      obtain ⟨-, rfl⟩ := Prod.mk.inj (Option.some.inj h)
      exact fun hother => splitAfterLastColon_eq_none_iff.mp hs
        (hother.trans (List.tail_suffix s).isInfix)

/-! ### Items -/

/-- White space around a list is none of its items. -/
theorem importItems_trim (s : List Char) : importItems (trim s) = importItems s := by
  obtain ⟨lead, trail, hlead, htrail, hs⟩ := exists_eq_append_trim s
  have hcomma : ∀ {t : List Char}, (∀ c ∈ t, isBlank c = true) → ',' ∉ t := by
    intro t ht hmem
    exact absurd (ht ',' hmem) (by decide)
  obtain ⟨piece, more, hsplit, hleft⟩ := exists_splitOn_append_left (hcomma hlead) (trim s)
  obtain ⟨front, last, hfront, hright⟩ := exists_splitOn_append_right (hcomma htrail) (lead ++ trim s)
  have hlast : trim (last ++ trail) = trim last := by
    rw [trim_eq, trimEnd_append_of_isBlank htrail, ← trim_eq]
  calc importItems (trim s) = ((piece :: more).map trim).filter (!·.isEmpty) := by
        rw [importItems, hsplit]
    _ = (((lead ++ piece) :: more).map trim).filter (!·.isEmpty) := by
        rw [List.map_cons, List.map_cons, trim_append_of_isBlank hlead]
    _ = ((front ++ [last]).map trim).filter (!·.isEmpty) := by rw [← hleft, hfront]
    _ = ((front ++ [last ++ trail]).map trim).filter (!·.isEmpty) := by
        rw [List.map_append, List.map_append, List.map_singleton, List.map_singleton, hlast]
    _ = importItems s := by
        rw [← hright, ← hs]
        rfl

/-- Sorted items are in the order of their bytes. -/
theorem pairwise_sortItems (items : List (List Char)) :
    (sortItems items).Pairwise fun a b => ¬ utf8 b < utf8 a := by
  refine (List.pairwise_mergeSort sorted_trans sorted_total items).imp fun {a b} h => ?_
  have hnot : ¬ b < a := by
    simpa only [Bool.not_eq_true', decide_eq_false_iff_not] using h
  rwa [utf8_lt_iff]

theorem sortItems_perm (items : List (List Char)) : (sortItems items).Perm items :=
  List.mergeSort_perm items _

/-- There is one way to put items in that order. -/
theorem sortItems_eq {items sorted : List (List Char)} (hperm : sorted.Perm items)
    (hsorted : sorted.Pairwise fun a b => ¬ b < a) : sortItems items = sorted := by
  have hpairwise : (sortItems items).Pairwise fun a b => ¬ b < a :=
    (pairwise_sortItems items).imp fun {a b} h => by rwa [utf8_lt_iff] at h
  refine List.Perm.eq_of_pairwise ?_ hpairwise hsorted ((sortItems_perm items).trans hperm.symm)
  intro a b _ _ hab hba
  exact List.le_antisymm (List.not_lt.mp hab) (List.not_lt.mp hba)

/-! ### Lines -/

/-- **Sorting an import** leaves the line alone, if there is no list of items behind its last `":`, or
else keeps the line up to that, and puts a permutation of the items behind it that is in the order of
their bytes. Sorting again changes nothing. -/
theorem sortImportItems_permutes (content : List Char) :
    (sortImportItems content = content ∧
        (∀ pre rest, content = pre ++ '"' :: ':' :: rest → ¬ ['"', ':'] <:+: rest →
          ¬ IsSortable rest) ∨
      ∃ pre rest items, content = pre ++ '"' :: ':' :: rest ∧ ¬ ['"', ':'] <:+: rest ∧
        IsSortable rest ∧ items.Perm (importItems rest) ∧
        items.Pairwise (fun a b => ¬ utf8 b < utf8 a) ∧
        sortImportItems content = pre ++ '"' :: ':' :: ' ' :: joinWith [',', ' '] items) ∧
      sortImportItems (sortImportItems content) = sortImportItems content := by
  refine ⟨?_, sortImportItems_sortImportItems content⟩
  cases hsplit : splitAfterLastColon content with
  | none =>
    refine .inl ⟨sortImportItems_of_none hsplit, fun pre rest heq hlast _ => ?_⟩
    rw [heq, splitAfterLastColon_of_last hlast] at hsplit
    cases hsplit
  | some found =>
    obtain ⟨head, rest⟩ := found
    by_cases hrest : IsSortable rest
    · obtain ⟨pre, rfl, hcontent⟩ := exists_of_splitAfterLastColon hsplit
      have hlast := not_infix_of_splitAfterLastColon hsplit
      refine .inr ⟨pre, rest, sortItems (importItems rest), hcontent, hlast, hrest,
        sortItems_perm _, pairwise_sortItems _, ?_⟩
      rw [sortImportItems_of_isSortable hsplit hrest, importItems_trim, List.append_assoc]
      rfl
    · refine .inl ⟨sortImportItems_of_not_isSortable hsplit hrest, fun pre rest' heq hlast => ?_⟩
      rw [heq, splitAfterLastColon_of_last hlast, Option.some.injEq, Prod.mk.injEq] at hsplit
      rwa [hsplit.2]

end Tincture.Format
