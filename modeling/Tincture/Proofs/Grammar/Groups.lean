import Mathlib.Data.List.Basic
import Tincture.Grammar.Flatten

/-!
# Groups that lead to each other

The search for what a rule looks for opens each group once, however the groups lead to each other. So
a bound that lets it open all rules of the table passes by none of them (`collect_eq_of_le`).
-/

namespace Tincture.Flatten

/-- How many numbers of the table stand for nothing that was opened. -/
def unopened (rules : Array Rule) (opened : List RuleId) : Nat :=
  ((List.range rules.size).filter (· ∉ opened)).length

theorem unopened_le_of_subset (rules : Array Rule) {opened opened' : List RuleId}
    (h : opened ⊆ opened') : unopened rules opened' ≤ unopened rules opened := by
  refine (List.monotone_filter_right _ fun id hid => ?_).length_le
  simp only [decide_eq_true_eq] at hid ⊢
  exact fun hmem => hid (h hmem)

theorem unopened_cons_lt {rules : Array Rule} {opened : List RuleId} {id : RuleId}
    (hid : id < rules.size) (hnew : id ∉ opened) :
    unopened rules (id :: opened) < unopened rules opened := by
  have hfilter : (List.range rules.size).filter (· ∉ id :: opened) =
      ((List.range rules.size).filter (· ∉ opened)).filter (· ≠ id) := by
    rw [List.filter_filter]
    refine List.filter_congr fun other _ => ?_
    simp
  have hmem : id ∈ (List.range rules.size).filter (· ∉ opened) :=
    List.mem_filter.mpr ⟨List.mem_range.mpr hid, by simpa using hnew⟩
  rw [unopened, unopened, hfilter, List.length_filter_lt_length_iff_exists]
  exact ⟨id, hmem, by simp⟩

theorem unopened_le_size (rules : Array Rule) (opened : List RuleId) :
    unopened rules opened ≤ rules.size := by
  have hfilter := List.length_filter_le (· ∉ opened) (List.range rules.size)
  rwa [List.length_range] at hfilter

/-- What was opened counts as opened from then on. -/
theorem opened_subset_collect (rules : Array Rule) (fuel : Nat) (children : List RuleId)
    (found : Found) : found.opened ⊆ (collect rules fuel children found).opened := by
  induction fuel using Nat.strongRecOn generalizing children found with
  | ind fuel ih =>
  induction children generalizing found with
  | nil =>
    rw [collect]
    exact List.Subset.refl _
  | cons child rest ihrest =>
    rw [collect]
    refine List.Subset.trans ?_ (ihrest _)
    split
    · exact List.Subset.refl _
    · split
      · split
        · exact List.Subset.refl _
        · split
          · exact List.Subset.refl _
          · intro id hid
            exact ih _ (Nat.lt_succ_self _) _ _ (List.mem_cons_of_mem child hid)
      · exact List.Subset.refl _

/-- A search goes the same way under each bound that is not smaller than the number of rules that
were not opened. -/
theorem collect_eq_of_unopened_le (rules : Array Rule) (fuel fuel' : Nat) (children : List RuleId)
    (found : Found) (hfuel : unopened rules found.opened ≤ fuel)
    (hfuel' : unopened rules found.opened ≤ fuel') :
    collect rules fuel children found = collect rules fuel' children found := by
  induction fuel using Nat.strongRecOn generalizing fuel' children found with
  | ind fuel ih =>
  induction children generalizing found with
  | nil => rw [collect, collect]
  | cons child rest ihrest =>
    rw [collect, collect]
    cases hrule : rules[child]? with
    | none => exact ihrest found hfuel hfuel'
    | some rule =>
      dsimp only
      cases rule.kind with
      | single | region | whileRegion => exact ihrest _ hfuel hfuel'
      | group patterns =>
        dsimp only
        split
        · exact ihrest found hfuel hfuel'
        rename_i hopened
        -- one more group is opened, so one step less is enough inside it
        have hlt : unopened rules (child :: found.opened) < unopened rules found.opened :=
          unopened_cons_lt (Array.getElem?_eq_some_iff.mp hrule).1 (by simpa using hopened)
        obtain ⟨more, rfl⟩ : ∃ more, fuel = more + 1 := ⟨fuel - 1, by omega⟩
        obtain ⟨more', rfl⟩ : ∃ more', fuel' = more' + 1 := ⟨fuel' - 1, by omega⟩
        have hinside := ih more (Nat.lt_succ_self more) more' patterns
          { found with opened := child :: found.opened }
          (Nat.le_of_lt_succ (Nat.lt_of_lt_of_le hlt hfuel))
          (Nat.le_of_lt_succ (Nat.lt_of_lt_of_le hlt hfuel'))
        have hle := unopened_le_of_subset rules (List.Subset.trans
          (List.subset_cons_self child found.opened) (opened_subset_collect rules more patterns
            { found with opened := child :: found.opened }))
        dsimp only
        rw [← hinside]
        exact ihrest _ (Nat.le_trans hle hfuel) (Nat.le_trans hle hfuel')

/-- **A search** passes by no group: it goes the same way under each larger bound. -/
theorem collect_eq_of_le (rules : Array Rule) {fuel : Nat} (hle : rules.size ≤ fuel)
    (children : List RuleId) (found : Found) :
    collect rules fuel children found = collect rules rules.size children found := by
  have hsize := unopened_le_size rules found.opened
  exact collect_eq_of_unopened_le rules fuel rules.size children found
    (Nat.le_trans hsize hle) hsize

end Tincture.Flatten
