import Tincture.Data.Table
import Tincture.Proofs.Theme.DottedPrefixes

/-!
# The most specific rule

In the tree of a theme each node got the style above it when it was made, and kept it from then on.
This does no harm since rules are inserted in the order of their scopes: no rule is inserted above a
node that is already there (`ClearBelow`), and so the style of a scope is that of all rules for its
dotted prefixes, applied one after the other (`styleAt_foldl_insert`). In that order the rules of
longer prefixes come last, and those of the same scope stay as they were. So each attribute is what the
longest dotted prefix gives it that has a rule for it, by its last such rule (`lookup_ofRules`).
-/

namespace Tincture

namespace StyleTrie

/-! ### One rule more -/

/-- The tree has no node below the end of a path. -/
def ClearBelow : List (List Char) → StyleTrie → Prop
  | [], t => t.children = []
  | segment :: path, t => ∀ child, t.children.lookup segment = some child → ClearBelow path child

theorem clearBelow_of_children_eq_nil {t : StyleTrie} (h : t.children = [])
    (path : List (List Char)) : ClearBelow path t := by
  cases path with
  | nil => exact h
  | cons segment path =>
    intro child hchild
    rw [h] at hchild
    cases hchild

theorem lookup_putChild (segment other : List Char) (t : StyleTrie)
    (children : List (List Char × StyleTrie)) :
    (putChild segment t children).lookup other =
      if other = segment then some t else children.lookup other := by
  induction children with
  | nil => simp [putChild, Table.lookup_cons]
  | cons child rest ih =>
    obtain ⟨s, u⟩ := child
    rw [putChild]
    split
    · rename_i hs
      subst hs
      simp only [Table.lookup_cons]
      split <;> rfl
    · rename_i hs
      simp only [Table.lookup_cons, ih]
      by_cases h : other = s
      · simp [h, hs]
      · simp [h]

/-- The subtree that a rule goes to; if it is missing, its style is the one above it. -/
theorem styleAt_child (segment : List Char) (path : List (List Char)) (t : StyleTrie) :
    styleAt path ((t.children.lookup segment).getD (node t.style [])) =
      styleAt (segment :: path) t := by
  rw [styleAt]
  cases t.children.lookup segment with
  | some child => rfl
  | none => cases path <;> rfl

/-- Nor is there a node below the path in the subtree that it goes to. -/
theorem ClearBelow.child {segment : List Char} {path : List (List Char)} {t : StyleTrie}
    (h : ClearBelow (segment :: path) t) :
    ClearBelow path ((t.children.lookup segment).getD (node t.style [])) := by
  cases hchild : t.children.lookup segment with
  | some child => exact h child hchild
  | none => exact clearBelow_of_children_eq_nil rfl path

/-- **A rule** that is inserted above no node changes the styles of the paths that start with its own,
and leaves all others. -/
theorem styleAt_insertAt (r : StyleRule) {path : List (List Char)} {t : StyleTrie}
    (h : ClearBelow path t) (p : List (List Char)) :
    styleAt p (insertAt r path t) =
      if path <+: p then (styleAt p t).apply r else styleAt p t := by
  -- the induction is on the path of the rule, which the path of the style follows or leaves
  induction path generalizing t p with
  | nil =>
    have hchildren : t.children = [] := h
    rw [if_pos List.nil_prefix, insertAt]
    cases p with
    | nil => rfl
    | cons segment p =>
      rw [styleAt, styleAt, hchildren]
      rfl
  | cons segment path ih =>
    rw [insertAt]
    cases p with
    | nil => simp [styleAt, style]
    | cons other p =>
      have hother : (node t.style (putChild segment (insertAt r path
          ((t.children.lookup segment).getD (node t.style []))) t.children)).children.lookup other =
          if other = segment then some (insertAt r path
            ((t.children.lookup segment).getD (node t.style []))) else t.children.lookup other :=
        lookup_putChild _ _ _ _
      by_cases hs : other = segment
      · subst hs
        rw [if_pos rfl] at hother
        rw [styleAt, hother]
        simp only [ih h.child, styleAt_child, List.cons_prefix_cons, true_and]
      · rw [if_neg hs] at hother
        have hne : ¬ segment :: path <+: other :: p := fun hp =>
          hs (List.cons_prefix_cons.mp hp).1.symm
        rw [if_neg hne, styleAt, hother, styleAt]
        rfl

/-- Below the end of a path that the path of a rule does not go on from, nothing is added. -/
theorem clearBelow_insertAt (r : StyleRule) {q path : List (List Char)} {t : StyleTrie}
    (h : ClearBelow q t) (hq : ¬ (q <+: path ∧ q ≠ path)) : ClearBelow q (insertAt r path t) := by
  induction q generalizing t path with
  | nil =>
    obtain rfl : path = [] := by
      by_contra hne
      exact hq ⟨List.nil_prefix, Ne.symm hne⟩
    exact h
  | cons segment q ih =>
    cases path with
    | nil => exact h
    | cons other path =>
      intro child hchild
      rw [insertAt] at hchild
      have hchild := (lookup_putChild other segment _ _).symm.trans hchild
      by_cases hs : segment = other
      · subst hs
        rw [if_pos rfl, Option.some.injEq] at hchild
        subst hchild
        refine ih h.child fun hp => hq ?_
        exact ⟨List.cons_prefix_cons.mpr ⟨rfl, hp.1⟩, fun heq => hp.2 (List.cons.inj heq).2⟩
      · rw [if_neg hs] at hchild
        exact h child hchild

/-! ### All rules -/

/-- The style of a path is the one before, with all rules for its dotted prefixes applied: no rule may
come after one for a longer scope. -/
theorem styleAt_foldl_insert {rules : List StyleRule} {t : StyleTrie}
    (hclear : ∀ r ∈ rules, ClearBelow (path r.scope) t)
    (horder : rules.Pairwise fun a b => ¬ (path b.scope <+: path a.scope ∧
      path b.scope ≠ path a.scope)) (p : List (List Char)) :
    styleAt p (rules.foldl insert t) =
      (rules.filter fun r => path r.scope <+: p).foldl Style.apply (styleAt p t) := by
  induction rules generalizing t with
  | nil => rfl
  | cons r rules ih =>
    obtain ⟨hfirst, horder⟩ := List.pairwise_cons.mp horder
    have hstyle : styleAt p (t.insert r) =
        if path r.scope <+: p then (styleAt p t).apply r else styleAt p t :=
      styleAt_insertAt r (hclear r List.mem_cons_self) p
    have hrest : ∀ r' ∈ rules, ClearBelow (path r'.scope) (t.insert r) := fun r' hr' =>
      clearBelow_insertAt r (hclear r' (List.mem_cons_of_mem r hr')) (hfirst r' hr')
    rw [List.foldl_cons, ih hrest horder, hstyle, List.filter_cons]
    by_cases hr : path r.scope <+: p <;> simp [hr]

theorem inOrder_trans (a b c : StyleRule) (hab : (!decide (b.scope < a.scope)) = true)
    (hbc : (!decide (c.scope < b.scope)) = true) : (!decide (c.scope < a.scope)) = true := by
  simp only [Bool.not_eq_true', decide_eq_false_iff_not, String.not_lt] at hab hbc ⊢
  exact String.le_trans hab hbc

theorem inOrder_total (a b : StyleRule) :
    (!decide (b.scope < a.scope) || !decide (a.scope < b.scope)) = true := by
  simpa only [Bool.or_eq_true, Bool.not_eq_true', decide_eq_false_iff_not, String.not_lt] using
    String.le_total a.scope b.scope

theorem pairwise_sortRules (rules : List StyleRule) :
    (sortRules rules).Pairwise fun a b => ¬ b.scope < a.scope :=
  (List.pairwise_mergeSort inOrder_trans inOrder_total rules).imp fun hab => by simpa using hab

theorem lt_of_prefix_path {a b : String} (h : path a <+: path b) (hne : path a ≠ path b) :
    a < b := by
  rw [String.lt_iff]
  refine lt_of_prefix ?_ fun heq => hne (congrArg path (String.toList_inj.mp heq))
  rcases (mem_dottedPrefixes_iff a b).mp ((path_prefix_iff a b).mp h) with rfl | rfl | hdot
  · exact List.nil_prefix
  · exact List.prefix_refl _
  · exact (List.prefix_append _ _).trans hdot

/-- **The style of a scope** in the tree of some rules is that of all rules for its dotted prefixes,
applied in the order of their scopes. -/
theorem lookup_ofRules_eq_foldl (rules : List StyleRule) (scope : String) :
    (ofRules rules).lookup scope = ((sortRules rules).filter fun r =>
      r.scope ∈ dottedPrefixes scope).foldl Style.apply Style.plain := by
  have horder : (sortRules rules).Pairwise fun a b => ¬ (path b.scope <+: path a.scope ∧
      path b.scope ≠ path a.scope) :=
    (pairwise_sortRules rules).imp fun hab hp => hab (lt_of_prefix_path hp.1 hp.2)
  have hclear : ∀ r ∈ sortRules rules, ClearBelow (path r.scope) empty := fun r _ =>
    clearBelow_of_children_eq_nil rfl _
  have hempty : styleAt (path scope) empty = Style.plain := by
    cases path scope <;> rfl
  rw [lookup, ofRules, styleAt_foldl_insert hclear horder, hempty]
  simp only [path_prefix_iff]

/-! ### Attribute by attribute -/

section Attribute

variable {α : Type} (attr : StyleRule → Option α)

/-- What the last rule for a scope that sets an attribute gives it. -/
def lastSet (rules : List StyleRule) (scope : String) : Option α :=
  ((rules.filter (·.scope = scope)).filterMap attr).getLast?

/-- What the longest dotted prefix of a scope gives an attribute among those that have a rule for it. -/
def mostSpecific (rules : List StyleRule) (scope : String) : Option α :=
  (dottedPrefixes scope).reverse.findSome? (lastSet attr rules)

variable {attr}

/-- Of rules that are applied one after the other, the last one that sets an attribute counts. -/
theorem foldl_apply_eq {proj : Style → α}
    (h : ∀ (s : Style) (r : StyleRule), proj (s.apply r) = (attr r).getD (proj s))
    (rules : List StyleRule) (s : Style) :
    proj (rules.foldl Style.apply s) = (rules.filterMap attr).getLast?.getD (proj s) := by
  induction rules generalizing s with
  | nil => rfl
  | cons r rules ih =>
    rw [List.foldl_cons, ih, h, List.filterMap_cons]
    cases attr r with
    | none => rfl
    | some a => simp [List.getLast?_cons]

end Attribute

/-- Rules for the same scope stay in their order. -/
theorem filter_scope_sortRules (rules : List StyleRule) (scope : String) :
    (sortRules rules).filter (·.scope = scope) = rules.filter (·.scope = scope) := by
  have hsame : (rules.filter (·.scope = scope)).Pairwise
      fun a b => (!decide (b.scope < a.scope)) = true :=
    List.pairwise_of_forall_mem_list fun a ha b hb => by
      simp [of_decide_eq_true (List.mem_filter.mp ha).2, of_decide_eq_true (List.mem_filter.mp hb).2]
  have hsublist : (rules.filter (·.scope = scope)).Sublist (sortRules rules) :=
    List.sublist_mergeSort inOrder_trans inOrder_total hsame List.filter_sublist
  have hfilter := hsublist.filter fun r => decide (r.scope = scope)
  simp only [List.filter_filter, Bool.and_self] at hfilter
  exact (hfilter.eq_of_length ((List.mergeSort_perm _ _).filter _).length_eq.symm).symm

/-- In sorted rules those with smaller scopes come first. -/
theorem filter_or_of_lt {rules : List StyleRule}
    (horder : rules.Pairwise fun a b => ¬ b.scope < a.scope) {P Q : StyleRule → Bool}
    (hlt : ∀ a b, P a → Q b → a.scope < b.scope) :
    rules.filter (fun r => P r || Q r) = rules.filter P ++ rules.filter Q := by
  induction rules with
  | nil => rfl
  | cons r rules ih =>
    obtain ⟨hfirst, horder⟩ := List.pairwise_cons.mp horder
    by_cases hP : P r
    · have hQ : ¬ Q r := fun hQ => String.lt_irrefl _ (hlt r r hP hQ)
      simp [hP, hQ, ih horder]
    by_cases hQ : Q r
    · -- what comes after the first of the larger ones is not smaller
      have hnone : rules.filter P = [] :=
        List.filter_eq_nil_iff.mpr fun a ha hPa => hfirst a ha (hlt a r hPa hQ)
      simp [hP, hQ, ih horder, hnone]
    · simp [hP, hQ, ih horder]

/-- In sorted rules those for some scopes stand scope by scope. -/
theorem filter_mem_eq_flatMap {rules : List StyleRule}
    (horder : rules.Pairwise fun a b => ¬ b.scope < a.scope) {scopes : List String}
    (hscopes : scopes.Pairwise (· < ·)) :
    rules.filter (·.scope ∈ scopes) = scopes.flatMap fun scope => rules.filter (·.scope = scope) := by
  induction scopes with
  | nil => simp
  | cons scope scopes ih =>
    obtain ⟨hfirst, hscopes⟩ := List.pairwise_cons.mp hscopes
    have hlt : ∀ a b : StyleRule, decide (a.scope = scope) → decide (b.scope ∈ scopes) →
        a.scope < b.scope := fun a b ha hb => by
      rw [of_decide_eq_true ha]
      exact hfirst b.scope (of_decide_eq_true hb)
    simp only [List.mem_cons, Bool.decide_or, List.flatMap_cons, ← ih hscopes]
    exact filter_or_of_lt horder hlt

/-- **An attribute** of the style of a scope is what the longest dotted prefix gives it that has a
rule which sets it, or else what the plain style has. -/
theorem attribute_lookup_ofRules {α : Type} (attr : StyleRule → Option α) (proj : Style → α)
    (h : ∀ (s : Style) (r : StyleRule), proj (s.apply r) = (attr r).getD (proj s))
    (rules : List StyleRule) (scope : String) :
    proj ((ofRules rules).lookup scope) =
      (mostSpecific attr rules scope).getD (proj Style.plain) := by
  have hlast : (((sortRules rules).filter fun r =>
      r.scope ∈ dottedPrefixes scope).filterMap attr).getLast? = mostSpecific attr rules scope := by
    rw [filter_mem_eq_flatMap (pairwise_sortRules rules) (pairwise_dottedPrefixes scope),
      List.filterMap_flatMap, List.getLast?_flatMap]
    simp only [filter_scope_sortRules]
    rfl
  rw [lookup_ofRules_eq_foldl, foldl_apply_eq h, hlast]

/-- **The style of a scope** in the tree of some rules: each attribute is the one of the longest
dotted prefix for which some rule sets it, by the last such rule, and that of the plain style if no
rule for a dotted prefix sets it. -/
theorem lookup_ofRules (rules : List StyleRule) (scope : String) :
    (ofRules rules).lookup scope =
      { foreground := (mostSpecific StyleRule.foreground rules scope).getD Style.plain.foreground
        background := (mostSpecific StyleRule.background rules scope).getD Style.plain.background
        font := (mostSpecific StyleRule.font rules scope).getD Style.plain.font } := by
  have hforeground := attribute_lookup_ofRules StyleRule.foreground Style.foreground
    (fun _ _ => rfl) rules scope
  have hbackground := attribute_lookup_ofRules StyleRule.background Style.background
    (fun _ _ => rfl) rules scope
  have hfont := attribute_lookup_ofRules StyleRule.font Style.font (fun _ _ => rfl) rules scope
  rw [← hforeground, ← hbackground, ← hfont]

end StyleTrie

end Tincture
