import Mathlib.Logic.Relation
import Tincture.Proofs.Grammar.ClosedTable
import Tincture.Proofs.Grammar.Groups

/-!
# What a search comes to

The search for what a rule looks for goes through a list of rules and, in place of a group, through the
list of the group, but not twice through the same. `Collects` says this without a bound, and without a
way to go on at a number that stands for no rule. In a closed table it always comes to an end, with what
`collect` gives (`collects_iff`).

A group that was opened before is passed by wherever that was, so that some ways to a rule are not gone.
No rule is lost by that: when the search is over, each group that was opened has had its whole list
handled (`Collects.handled`), so what came up are just the rules to which groups lead
(`Collects.mem_targets_iff`).
-/

namespace Tincture

namespace Flatten

/-- The rules of a table stand under their own numbers and list numbers of the table. -/
structure Closed (rules : Array Rule) : Prop where
  id_eq : ∀ (id : RuleId) (rule : Rule), rules[id]? = some rule → rule.id = id
  children : ∀ (id : RuleId) (rule : Rule), rules[id]? = some rule →
    ∀ child ∈ rule.kind.children, child < rules.size

/-- The number of a group, with what the group lists. -/
def IsGroup (rules : Array Rule) (id : RuleId) (patterns : List RuleId) : Prop :=
  ∃ rule, rules[id]? = some rule ∧ rule.kind = .group patterns

/-- A group lists a rule. -/
def Lists (rules : Array Rule) (group child : RuleId) : Prop :=
  ∃ patterns, IsGroup rules group patterns ∧ child ∈ patterns

/-- Groups lead from a rule to another; each rule leads to itself. -/
def Reaches (rules : Array Rule) : RuleId → RuleId → Prop :=
  Relation.ReflTransGen (Lists rules)

/-- A search through a list of rules, from what was found before it to what was found after it. -/
inductive Collects (rules : Array Rule) : List RuleId → Found → Found → Prop
  | nil (found : Found) : Collects rules [] found found
  | target {child : RuleId} {rest : List RuleId} {found found' : Found}
      (htarget : IsTarget rules child)
      (hrest : Collects rules rest { found with targets := child :: found.targets } found') :
      Collects rules (child :: rest) found found'
  | again {child : RuleId} {patterns rest : List RuleId} {found found' : Found}
      (hgroup : IsGroup rules child patterns) (hopened : child ∈ found.opened)
      (hrest : Collects rules rest found found') :
      Collects rules (child :: rest) found found'
  | opens {child : RuleId} {patterns rest : List RuleId} {found found₁ found' : Found}
      (hgroup : IsGroup rules child patterns) (hnew : child ∉ found.opened)
      (hinside : Collects rules patterns { found with opened := child :: found.opened } found₁)
      (hrest : Collects rules rest found₁ found') :
      Collects rules (child :: rest) found found'

variable {rules : Array Rule} {children : List RuleId} {found found' : Found}

/-! ### Groups and targets -/

theorem not_isTarget_of_isGroup {id : RuleId} {patterns : List RuleId}
    (hgroup : IsGroup rules id patterns) : ¬ IsTarget rules id := by
  obtain ⟨rule, hrule, hkind⟩ := hgroup
  rintro ⟨rule', hrule', htarget⟩
  obtain rfl := Option.some.inj (hrule.symm.trans hrule')
  rw [hkind] at htarget
  cases htarget

theorem IsGroup.unique {id : RuleId} {patterns patterns' : List RuleId}
    (h : IsGroup rules id patterns) (h' : IsGroup rules id patterns') : patterns = patterns' := by
  obtain ⟨rule, hrule, hkind⟩ := h
  obtain ⟨rule', hrule', hkind'⟩ := h'
  obtain rfl := Option.some.inj (hrule.symm.trans hrule')
  exact RuleKind.group.inj (hkind.symm.trans hkind')

/-- A rule of the table is a group or comes up by itself. -/
theorem isGroup_or_isTarget {id : RuleId} (hid : id < rules.size) :
    (∃ patterns, IsGroup rules id patterns) ∨ IsTarget rules id := by
  have hrule : rules[id]? = some rules[id] := Array.getElem?_eq_getElem hid
  cases hkind : rules[id].kind with
  | group patterns => exact Or.inl ⟨patterns, rules[id], hrule, hkind⟩
  | single | region | whileRegion => exact Or.inr ⟨rules[id], hrule, by rw [hkind]; rfl⟩

/-- What a group of a closed table lists is in the table. -/
theorem Closed.lt_of_isGroup (hclosed : Closed rules) {id : RuleId} {patterns : List RuleId}
    (hgroup : IsGroup rules id patterns) : ∀ child ∈ patterns, child < rules.size := by
  obtain ⟨rule, hrule, hkind⟩ := hgroup
  have hchildren := hclosed.children id rule hrule
  rwa [hkind] at hchildren

/-! ### The search ends -/

/-- What a search comes to is determined by what it starts with. -/
theorem Collects.unique (h : Collects rules children found found') :
    ∀ {found''}, Collects rules children found found'' → found'' = found' := by
  induction h with
  | nil found =>
    rintro _ ⟨⟩
    rfl
  | target htarget _ ih =>
    rintro _ (_ | ⟨_, h⟩ | ⟨hgroup, _, _⟩ | ⟨hgroup, _, _, _⟩)
    · exact ih h
    · exact absurd htarget (not_isTarget_of_isGroup hgroup)
    · exact absurd htarget (not_isTarget_of_isGroup hgroup)
  | again hgroup hopened _ ih =>
    rintro _ (_ | ⟨htarget, _⟩ | ⟨_, _, h⟩ | ⟨_, hnew, _, _⟩)
    · exact absurd htarget (not_isTarget_of_isGroup hgroup)
    · exact ih h
    · exact absurd hopened hnew
  | opens hgroup hnew _ _ ihinside ihrest =>
    rintro _ (_ | ⟨htarget, _⟩ | ⟨_, hopened, _⟩ | ⟨hgroup', _, hinside, hrest⟩)
    · exact absurd htarget (not_isTarget_of_isGroup hgroup)
    · exact absurd hopened hnew
    · obtain rfl := hgroup.unique hgroup'
      obtain rfl := ihinside hinside
      exact ihrest hrest

/-- In a closed table the search comes to an end, and a bound that lets it open all groups that were
not opened cuts nothing off. -/
theorem collects_collect (hclosed : Closed rules) {fuel : Nat}
    (hfuel : unopened rules found.opened ≤ fuel) (hchildren : ∀ child ∈ children, child < rules.size) :
    Collects rules children found (collect rules fuel children found) := by
  -- the induction follows the search: into a group with less fuel, and along a list of rules
  induction fuel using Nat.strongRecOn generalizing children found with
  | ind fuel ih =>
  induction children generalizing found with
  | nil =>
    rw [collect]
    exact .nil found
  | cons child rest ihrest =>
    obtain ⟨hchild, hrest⟩ := List.forall_mem_cons.mp hchildren
    rw [collect]
    have hrule : rules[child]? = some rules[child] := Array.getElem?_eq_getElem hchild
    rw [hrule]
    dsimp only
    cases hkind : rules[child].kind with
    | single | region | whileRegion =>
      refine .target ⟨rules[child], hrule, by rw [hkind]; rfl⟩ (ihrest ?_ hrest)
      exact hfuel
    | group patterns =>
      have hgroup : IsGroup rules child patterns := ⟨rules[child], hrule, hkind⟩
      dsimp only
      by_cases hopened : child ∈ found.opened
      · rw [if_pos (List.contains_iff_mem.mpr hopened)]
        exact .again hgroup hopened (ihrest hfuel hrest)
      · rw [if_neg (fun h => hopened (List.contains_iff_mem.mp h))]
        have hlt := unopened_cons_lt hchild hopened
        obtain ⟨more, rfl⟩ : ∃ more, fuel = more + 1 := ⟨fuel - 1, by omega⟩
        have hmore : unopened rules (child :: found.opened) ≤ more := by omega
        have hinside : Collects rules patterns { found with opened := child :: found.opened }
            (collect rules more patterns { found with opened := child :: found.opened }) :=
          ih more (Nat.lt_succ_self more) hmore (hclosed.lt_of_isGroup hgroup)
        refine .opens hgroup hopened hinside (ihrest ?_ hrest)
        have hsubset := List.Subset.trans (List.subset_cons_self child found.opened)
          (opened_subset_collect rules more patterns { found with opened := child :: found.opened })
        exact Nat.le_trans (unopened_le_of_subset rules hsubset) hfuel

/-- **A search ends** in a closed table, whatever was opened before, and comes to what is computed under
a bound. -/
theorem collects_iff (hclosed : Closed rules) (hchildren : ∀ child ∈ children, child < rules.size) :
    Collects rules children found found' ↔ found' = collect rules rules.size children found := by
  have hcollects := collects_collect hclosed (unopened_le_size rules found.opened) hchildren
  constructor
  · intro h
    exact hcollects.unique h
  · rintro rfl
    exact hcollects

/-! ### What comes up -/

theorem Collects.opened_subset (h : Collects rules children found found') :
    found.opened ⊆ found'.opened := by
  induction h with
  | nil found => exact List.Subset.refl _
  | target _ _ ih => exact ih
  | again _ _ _ ih => exact ih
  | opens _ _ _ _ ihinside ihrest =>
    intro id hid
    exact ihrest (ihinside (List.mem_cons_of_mem _ hid))

theorem Collects.targets_subset (h : Collects rules children found found') :
    found.targets ⊆ found'.targets := by
  induction h with
  | nil found => exact List.Subset.refl _
  | target _ _ ih =>
    intro id hid
    exact ih (List.mem_cons_of_mem _ hid)
  | again _ _ _ ih => exact ih
  | opens _ _ _ _ ihinside ihrest =>
    intro id hid
    exact ihrest (ihinside hid)

/-- What came up is no group, and groups lead to it. -/
theorem Collects.reaches_of_mem (h : Collects rules children found found') {target : RuleId}
    (htarget : target ∈ found'.targets) : target ∈ found.targets ∨
      IsTarget rules target ∧ ∃ child ∈ children, Reaches rules child target := by
  induction h with
  | nil found => exact Or.inl htarget
  | @target child rest _ _ hchild _ ih =>
    rcases ih htarget with hmem | ⟨his, other, hother, hreaches⟩
    · rcases List.mem_cons.mp hmem with rfl | hmem
      · exact Or.inr ⟨hchild, target, List.mem_cons_self, .refl⟩
      · exact Or.inl hmem
    · exact Or.inr ⟨his, other, List.mem_cons_of_mem _ hother, hreaches⟩
  | again _ _ _ ih =>
    rcases ih htarget with hmem | ⟨his, other, hother, hreaches⟩
    · exact Or.inl hmem
    · exact Or.inr ⟨his, other, List.mem_cons_of_mem _ hother, hreaches⟩
  | @opens child patterns rest _ _ _ hgroup _ _ _ ihinside ihrest =>
    rcases ihrest htarget with hmem | ⟨his, other, hother, hreaches⟩
    · rcases ihinside hmem with hmem | ⟨his, other, hother, hreaches⟩
      · exact Or.inl hmem
      · -- the group leads to what its list leads to
        have hlists : Lists rules child other := ⟨patterns, hgroup, hother⟩
        exact Or.inr ⟨his, child, List.mem_cons_self, hreaches.head hlists⟩
    · exact Or.inr ⟨his, other, List.mem_cons_of_mem _ hother, hreaches⟩

/-- A rule came up or, if it is a group, was opened. -/
def Handled (rules : Array Rule) (found : Found) (id : RuleId) : Prop :=
  (IsTarget rules id → id ∈ found.targets) ∧
    ∀ patterns, IsGroup rules id patterns → id ∈ found.opened

theorem Handled.mono {id : RuleId} (h : Handled rules found id)
    (hcollects : Collects rules children found found') : Handled rules found' id :=
  ⟨fun htarget => hcollects.targets_subset (h.1 htarget),
    fun patterns hgroup => hcollects.opened_subset (h.2 patterns hgroup)⟩

/-- When a search is over, its list was handled, and so was the list of each group that it opened. -/
theorem Collects.handled (h : Collects rules children found found') :
    (∀ child ∈ children, Handled rules found' child) ∧
    ∀ group patterns, IsGroup rules group patterns → group ∈ found'.opened →
      group ∈ found.opened ∨ ∀ child ∈ patterns, Handled rules found' child := by
  induction h with
  | nil found =>
    constructor
    · intro child hchild
      cases hchild
    · intro group patterns _ hopened
      exact Or.inl hopened
  | @target child rest found found' hchild hrest ih =>
    refine ⟨List.forall_mem_cons.mpr ⟨⟨?_, ?_⟩, ih.1⟩, ih.2⟩
    · intro _
      exact hrest.targets_subset List.mem_cons_self
    · intro patterns hgroup
      exact absurd hchild (not_isTarget_of_isGroup hgroup)
  | @again child _ rest found found' hgroup hopened hrest ih =>
    refine ⟨List.forall_mem_cons.mpr ⟨⟨?_, ?_⟩, ih.1⟩, ih.2⟩
    · intro htarget
      exact absurd htarget (not_isTarget_of_isGroup hgroup)
    · intro _ _
      exact hrest.opened_subset hopened
  | @opens child patterns rest found found₁ found' hgroup hnew hinside hrest ihinside ihrest =>
    constructor
    · refine List.forall_mem_cons.mpr ⟨⟨?_, ?_⟩, ihrest.1⟩
      · intro htarget
        exact absurd htarget (not_isTarget_of_isGroup hgroup)
      · intro _ _
        exact hrest.opened_subset (hinside.opened_subset List.mem_cons_self)
    · intro group patterns' hgroup' hopened
      rcases ihrest.2 group patterns' hgroup' hopened with hbefore | hhandled
      · rcases ihinside.2 group patterns' hgroup' hbefore with hbefore | hhandled
        · rcases List.mem_cons.mp hbefore with rfl | hbefore
          · -- the group itself: its list is what was searched inside
            obtain rfl := hgroup.unique hgroup'
            exact Or.inr fun other hother => (ihinside.1 other hother).mono hrest
          · exact Or.inl hbefore
        · exact Or.inr fun other hother => (hhandled other hother).mono hrest
      · exact Or.inr hhandled

/-- **What a search for a rule finds** are just the rules that are no groups and to which groups lead
from its list. -/
theorem Collects.mem_targets_iff {id : RuleId} (h : Collects rules children ⟨[id], []⟩ found)
    (hid : ∀ patterns, IsGroup rules id patterns → patterns = children) (target : RuleId) :
    target ∈ found.targets ↔
      IsTarget rules target ∧ ∃ child ∈ children, Reaches rules child target := by
  constructor
  · intro htarget
    rcases h.reaches_of_mem htarget with hmem | hreaches
    · cases hmem
    · exact hreaches
  · rintro ⟨htarget, child, hchild, hreaches⟩
    -- if the rule is a group, what it lists is the list of the search
    have hlisted : ∀ group patterns, IsGroup rules group patterns → group ∈ found.opened →
        ∀ child ∈ patterns, Handled rules found child := by
      intro group patterns hgroup hopened
      rcases h.handled.2 group patterns hgroup hopened with hfirst | hhandled
      · obtain rfl := List.mem_singleton.mp hfirst
        rw [hid patterns hgroup]
        exact h.handled.1
      · exact hhandled
    have hhandled : ∀ id, Reaches rules child id → Handled rules found id := by
      intro id hreaches
      induction hreaches with
      | refl => exact h.handled.1 child hchild
      | tail _ hlists ih =>
        obtain ⟨patterns, hgroup, hmem⟩ := hlists
        exact hlisted _ patterns hgroup (ih.2 patterns hgroup) _ hmem
    exact (hhandled target hreaches).1 htarget

end Flatten

/-- The table of a closed grammar is closed. -/
theorem Grammar.Closed.rules {g : Grammar} (h : g.Closed) : Flatten.Closed g.rules where
  id_eq := h.id_eq
  children := fun _ rule hrule => h.children rule (Array.mem_of_getElem? hrule)

end Tincture
