import Mathlib.Data.List.Perm.Subperm
import Mathlib.Logic.Relation
import Tincture.Grammar.Compile

/-!
# Chains of includes

An include by name leads to an entry of the open repositories, which may be an include again. Such a
chain ends unless it comes to an entry that it leads back to (`Endless`): then no bound on its length
is enough (`follow_of_endless`), and if there are fewer entries than the bound allows steps, the bound
is met in no other case (`endless_of_follow`). Where a chain ends does not depend on the bound
(`follow_of_le`).
-/

namespace Tincture.Compile

variable {scopeName : String} {repositories : List Repository}

/-- The entry that an include by name leads to. -/
def next? (scopeName : String) (repositories : List Repository) (spec : RuleSpec) :
    Option (Address × RuleSpec) :=
  match spec.includeTarget with
  | none => none
  | some target =>
    if target = "$self" ∨ target = "$base" ∨ target = scopeName then none
    else match target.toList with
      | '#' :: name => lookUp (String.ofList name) repositories
      | _ => none

/-- One include leads to another rule. -/
def Leads (scopeName : String) (repositories : List Repository) (spec target : RuleSpec) : Prop :=
  ∃ address, next? scopeName repositories spec = some (address, target)

/-- The includes lead on for ever: they come to a rule that they lead back to. -/
def Endless (scopeName : String) (repositories : List Repository) (spec : RuleSpec) : Prop :=
  ∃ again, Relation.ReflTransGen (Leads scopeName repositories) spec again ∧
    Relation.TransGen (Leads scopeName repositories) again again

/-! ### One step of a chain -/

theorem follow_of_next?_some {spec target : RuleSpec} {address' : Address}
    (h : next? scopeName repositories spec = some (address', target)) (fuel : Nat)
    (address : Address) :
    follow scopeName repositories (fuel + 1) address spec =
      follow scopeName repositories fuel address' target := by
  unfold next? at h
  rw [follow]
  cases htarget : spec.includeTarget with
  | none =>
    rw [htarget] at h
    cases h
  | some name =>
    rw [htarget] at h
    dsimp only at h ⊢
    by_cases hself : name = "$self" ∨ name = "$base" ∨ name = scopeName
    · rw [if_pos hself] at h
      cases h
    rw [if_neg hself] at h ⊢
    cases htext : name.toList with
    | nil =>
      rw [htext] at h
      cases h
    | cons c rest =>
      rw [htext] at h
      by_cases hc : c = '#'
      · subst hc
        simp only at h ⊢
        rw [h]
      · simp [hc] at h

theorem exists_lookUp_of_next? {spec : RuleSpec} {entry : Address × RuleSpec}
    (h : next? scopeName repositories spec = some entry) :
    ∃ name, lookUp name repositories = some entry := by
  unfold next? at h
  split at h
  · cases h
  split at h
  · cases h
  split at h
  · exact ⟨_, h⟩
  · cases h

/-- A chain ends at an include that leads to no entry. -/
theorem exists_follow_of_next?_none {spec : RuleSpec}
    (h : next? scopeName repositories spec = none) (address : Address) :
    ∃ target, (target = .rule address spec ∨ target = .root ∨ target = .nothing) ∧
      ∀ fuel, follow scopeName repositories (fuel + 1) address spec = .ok target := by
  unfold next? at h
  simp only [follow]
  cases htarget : spec.includeTarget with
  | none => exact ⟨_, Or.inl rfl, fun _ => rfl⟩
  | some name =>
    rw [htarget] at h
    dsimp only at h ⊢
    by_cases hself : name = "$self" ∨ name = "$base" ∨ name = scopeName
    · simp only [if_pos hself]
      exact ⟨_, Or.inr (Or.inl rfl), fun _ => rfl⟩
    rw [if_neg hself] at h
    simp only [if_neg hself]
    cases htext : name.toList with
    | nil => exact ⟨_, Or.inr (Or.inr rfl), fun _ => rfl⟩
    | cons c rest =>
      by_cases hc : c = '#'
      · subst hc
        rw [htext] at h
        simp only at h ⊢
        rw [h]
        exact ⟨_, Or.inr (Or.inr rfl), fun _ => rfl⟩
      · simp [hc]

/-! ### Chains -/

/-- Where a chain ends does not depend on the bound. -/
theorem follow_of_le {fuel fuel' : Nat} (hle : fuel ≤ fuel') {address : Address} {spec : RuleSpec}
    (h : follow scopeName repositories fuel address spec ≠ .error .endlessInclude) :
    follow scopeName repositories fuel' address spec =
      follow scopeName repositories fuel address spec := by
  induction fuel generalizing fuel' address spec with
  | zero => exact absurd rfl h
  | succ fuel ih =>
    obtain ⟨more, rfl⟩ : ∃ more, fuel' = more + 1 := ⟨fuel' - 1, by omega⟩
    cases hentry : next? scopeName repositories spec with
    | none =>
      obtain ⟨target, _, hfollow⟩ := exists_follow_of_next?_none hentry address
      rw [hfollow, hfollow]
    | some entry =>
      rw [follow_of_next?_some hentry] at h
      rw [follow_of_next?_some hentry, follow_of_next?_some hentry]
      exact ih (Nat.le_of_succ_le_succ hle) h

/-- Nothing else is wrong with a chain. -/
theorem eq_endlessInclude_of_follow {fuel : Nat} {address : Address} {spec : RuleSpec}
    {e : CompileError} (h : follow scopeName repositories fuel address spec = .error e) :
    e = .endlessInclude := by
  induction fuel generalizing address spec with
  | zero => exact (Except.error.inj h).symm
  | succ fuel ih =>
    cases hentry : next? scopeName repositories spec with
    | none =>
      obtain ⟨target, _, hfollow⟩ := exists_follow_of_next?_none hentry address
      rw [hfollow] at h
      cases h
    | some entry =>
      rw [follow_of_next?_some hentry] at h
      exact ih h

/-- A chain that ends at a rule ends where it starts or at an entry. -/
theorem mem_of_follow {places : List (Address × RuleSpec)}
    (hplaces : ∀ name entry, lookUp name repositories = some entry → entry ∈ places)
    {fuel : Nat} {address address' : Address} {spec spec' : RuleSpec}
    (hspec : (address, spec) ∈ places)
    (h : follow scopeName repositories fuel address spec = .ok (.rule address' spec')) :
    (address', spec') ∈ places := by
  induction fuel generalizing address spec with
  | zero => cases h
  | succ fuel ih =>
    cases hentry : next? scopeName repositories spec with
    | none =>
      obtain ⟨target, htarget, hfollow⟩ := exists_follow_of_next?_none hentry address
      rw [hfollow] at h
      obtain rfl := Except.ok.inj h
      rcases htarget with htarget | htarget | htarget
      · obtain ⟨rfl, rfl⟩ := Target.rule.inj htarget
        exact hspec
      · cases htarget
      · cases htarget
    | some entry =>
      obtain ⟨name, hname⟩ := exists_lookUp_of_next? hentry
      rw [follow_of_next?_some hentry] at h
      exact ih (hplaces name entry hname) h

/-- The rule at which a chain ends is no include. -/
theorem includeTarget_of_follow {fuel : Nat} {address address' : Address} {spec spec' : RuleSpec}
    (h : follow scopeName repositories fuel address spec = .ok (.rule address' spec')) :
    spec'.includeTarget = none := by
  induction fuel generalizing address spec with
  | zero => cases h
  | succ fuel ih =>
    rw [follow] at h
    split at h
    · rename_i htarget
      obtain ⟨_, rfl⟩ := Target.rule.inj (Except.ok.inj h)
      exact htarget
    split at h
    · cases h
    split at h
    · split at h
      · exact ih h
      · cases h
    · cases h

/-! ### Chains that do not end -/

/-- A chain that leads on for ever does so after one step. -/
theorem Endless.exists_next {spec : RuleSpec} (h : Endless scopeName repositories spec) :
    ∃ entry, next? scopeName repositories spec = some entry ∧
      Endless scopeName repositories entry.2 := by
  obtain ⟨again, hto, hback⟩ := h
  rcases Relation.ReflTransGen.cases_head hto with rfl | ⟨target, ⟨address, hstep⟩, hrest⟩
  · obtain ⟨target, ⟨address, hstep⟩, hrest⟩ := Relation.TransGen.head'_iff.mp hback
    exact ⟨(address, target), hstep, spec, hrest, hback⟩
  · exact ⟨(address, target), hstep, again, hrest, hback⟩

/-- **No bound** is enough for a chain that leads on for ever. -/
theorem follow_of_endless {spec : RuleSpec} (h : Endless scopeName repositories spec) (fuel : Nat)
    (address : Address) :
    follow scopeName repositories fuel address spec = .error .endlessInclude := by
  induction fuel generalizing address spec with
  | zero => rfl
  | succ fuel ih =>
    obtain ⟨entry, hentry, hrest⟩ := h.exists_next
    rw [follow_of_next?_some hentry]
    exact ih hrest entry.1

/-- The entries that a chain went through, which lead to where it is now, are all different until it
comes back to one of them. -/
theorem endless_of_follow_of_visited {places visited : List (Address × RuleSpec)}
    (hplaces : ∀ name entry, lookUp name repositories = some entry → entry ∈ places)
    {fuel : Nat} {address : Address} {spec : RuleSpec}
    (hsubset : visited ⊆ places) (hnodup : visited.Nodup)
    (hleads : ∀ entry ∈ visited,
      Relation.ReflTransGen (Leads scopeName repositories) entry.2 spec)
    (hfuel : places.length < fuel + visited.length)
    (h : follow scopeName repositories fuel address spec = .error .endlessInclude) :
    Endless scopeName repositories spec := by
  induction fuel generalizing address spec visited with
  | zero =>
    have hle := (List.subperm_of_subset hnodup hsubset).length_le
    omega
  | succ fuel ih =>
    cases hentry : next? scopeName repositories spec with
    | none =>
      obtain ⟨target, _, hfollow⟩ := exists_follow_of_next?_none hentry address
      rw [hfollow] at h
      cases h
    | some entry =>
      have hstep : Leads scopeName repositories spec entry.2 := ⟨entry.1, hentry⟩
      by_cases hmem : entry ∈ visited
      · exact ⟨entry.2, .single hstep, .tail' (hleads entry hmem) hstep⟩
      · rw [follow_of_next?_some hentry] at h
        have hall : ∀ other ∈ entry :: visited,
            Relation.ReflTransGen (Leads scopeName repositories) other.2 entry.2 :=
          List.forall_mem_cons.mpr ⟨.refl, fun other hother => (hleads other hother).tail hstep⟩
        obtain ⟨name, hname⟩ := exists_lookUp_of_next? hentry
        have hfuel' : places.length < fuel + (entry :: visited).length := by
          rw [List.length_cons]
          omega
        obtain ⟨again, hto, hback⟩ := ih
          (List.cons_subset.mpr ⟨hplaces name entry hname, hsubset⟩)
          (List.nodup_cons.mpr ⟨hmem, hnodup⟩) hall hfuel' h
        exact ⟨again, .head hstep hto, hback⟩

/-- **A chain** that is longer than there are entries leads on for ever. -/
theorem endless_of_follow {places : List (Address × RuleSpec)}
    (hplaces : ∀ name entry, lookUp name repositories = some entry → entry ∈ places)
    {fuel : Nat} {address : Address} {spec : RuleSpec} (hfuel : places.length < fuel)
    (h : follow scopeName repositories fuel address spec = .error .endlessInclude) :
    Endless scopeName repositories spec :=
  endless_of_follow_of_visited hplaces (List.nil_subset places) List.nodup_nil
    (fun _ hentry => absurd hentry List.not_mem_nil) hfuel h

end Tincture.Compile
