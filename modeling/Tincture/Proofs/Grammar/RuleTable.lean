import Tincture.Proofs.Grammar.Numbering

/-!
# The rule table

Each rule of a compiled grammar stands in the table under its own number (`Grammar.rule?_id`), and
the first one is the group of the patterns that the grammar lists (`Grammar.rule?_root`). What a rule
looks for are rules of the table that are no groups (`Grammar.isTarget_of_scanner?`): a group never
comes up in a search, for what it lists comes up in its place.
-/

namespace Tincture

/-! ### What a rule looks for -/

namespace Flatten

/-- The number of a rule of the table that is no group. -/
def IsTarget (rules : Array Rule) (id : RuleId) : Prop :=
  ∃ rule, rules[id]? = some rule ∧ rule.kind.isGroup = false

/-- Only rules that are no groups come up, however the groups lead to each other. -/
theorem isTarget_collect (rules : Array Rule) (fuel : Nat) (children : List RuleId) (found : Found)
    (hfound : ∀ id ∈ found.targets, IsTarget rules id) :
    ∀ id ∈ (collect rules fuel children found).targets, IsTarget rules id := by
  -- the induction follows the search: into a group with less fuel, and along a list of rules
  induction fuel using Nat.strongRecOn generalizing children found with
  | ind fuel ih =>
  induction children generalizing found with
  | nil =>
    rw [collect]
    exact hfound
  | cons child rest ihrest =>
    rw [collect]
    refine ihrest _ ?_
    split
    · exact hfound
    · rename_i rule hrule
      split
      · split
        · exact hfound
        · split
          · exact hfound
          · exact ih _ (Nat.lt_succ_self _) _ _ hfound
      · rename_i hkind
        refine List.forall_mem_cons.mpr ⟨⟨rule, hrule, ?_⟩, hfound⟩
        cases hrulekind : rule.kind with
        | group patterns => exact absurd hrulekind (hkind patterns)
        | single | region | whileRegion => rfl

theorem isTarget_of_mem_targets {rules : Array Rule} {id : RuleId} {children : List RuleId} :
    ∀ target ∈ targets rules id children, IsTarget rules target := by
  intro target htarget
  refine isTarget_collect rules rules.size children ⟨[id], []⟩ ?_ target
    (List.mem_reverse.mp htarget)
  exact fun _ h => absurd h List.not_mem_nil

theorem isTarget_of_mem_scanner {rules : Array Rule} {rule : Rule} {s : RuleScanner}
    (h : scanner rules rule = some s) : ∀ id ∈ s.rules, IsTarget rules id := by
  unfold scanner at h
  split at h
  · cases h
  · obtain rfl := Option.some.inj h
    exact isTarget_of_mem_targets

/-- Each slot of a scanner is for a rule, and has its pattern. -/
theorem patterns_of_scanner {rules : Array Rule} {rule : Rule} {s : RuleScanner}
    (h : scanner rules rule = some s) : s.scanner.patterns = s.rules.map (entry rules) := by
  unfold scanner at h
  split at h
  · cases h
  · obtain rfl := Option.some.inj h
    rfl

end Flatten

namespace Compile

/-! ### Numbers in the table -/

/-- What two steps give one after the other, if neither fails. -/
theorem exists_of_run_bind_ok {α β : Type} {x : Numbering α} {f : α → Numbering β} {s s' : State}
    {b : β} (h : (x >>= f).run s = .ok (b, s')) :
    ∃ a s₁, x.run s = .ok (a, s₁) ∧ (f a).run s₁ = .ok (b, s') := by
  rw [StateT.run_bind] at h
  obtain ⟨⟨a, s₁⟩, hx, hf⟩ := exists_of_bind_ok h
  exact ⟨a, s₁, hx, hf⟩

theorem id_of_made {options : EngineOptions} {id : RuleId} {r : Rule} (h : Made options id r) :
    r.id = id := by
  cases h with
  | root => rfl
  | ofSpec => rfl

/-- The table does not shrink. -/
theorem stable_size (options : EngineOptions) (n : Nat) :
    Stable options fun s => n ≤ s.rules.size where
  allocate := by
    intro s hs
    rw [Array.size_push]
    exact Nat.le_succ_of_le hs
  note := fun _ _ _ hs => hs
  fill := by
    intro s id r _ hs
    rw [Array.size_setIfInBounds]
    exact hs

/-- The first number stands for the patterns that the grammar lists. -/
theorem root_of_numberGrammar {ctx : Context} {g : GrammarSpec} {s : State}
    (h : (numberGrammar ctx g).run {} = .ok ((), s)) :
    ∃ patterns, s.rules[Grammar.root]? = some (some { id := Grammar.root, kind := .group patterns }) := by
  unfold numberGrammar at h
  obtain ⟨root, s₁, hroot, hrest⟩ := exists_of_run_bind_ok h
  obtain ⟨patterns, s₂, hpatterns, hlast⟩ := exists_of_run_bind_ok hrest
  obtain ⟨rfl, rfl⟩ := Prod.mk.inj (Except.ok.inj hroot)
  have hsize : 1 ≤ s₂.rules.size :=
    (keeps_number (stable_size ctx.options 1)).2 _ _ _ _ _ _ patterns s₂ hpatterns (Nat.le_refl 1)
  obtain ⟨_, rfl⟩ := Prod.mk.inj (Except.ok.inj hlast)
  exact ⟨patterns, Array.getElem?_setIfInBounds_self_of_lt hsize⟩

theorem length_of_mapM_ok {ε α β : Type} {f : α → Except ε β} {as : List α} {bs : List β}
    (h : as.mapM f = .ok bs) : bs.length = as.length := by
  induction as generalizing bs with
  | nil =>
    rw [List.mapM_nil] at h
    obtain rfl := Except.ok.inj h
    rfl
  | cons a as ih =>
    rw [List.mapM_cons] at h
    obtain ⟨b, _, h⟩ := exists_of_bind_ok h
    obtain ⟨bs', hrest, h⟩ := exists_of_bind_ok h
    obtain rfl := Except.ok.inj h
    rw [List.length_cons, List.length_cons, ih hrest]

theorem length_ruleTable {rules : Array (Option Rule)} {table : List Rule}
    (h : ruleTable rules = .ok table) : table.length = rules.size := by
  rw [length_of_mapM_ok h, List.length_zipIdx, Array.length_toList]

/-- The rules that were filled in have their places in the table. -/
theorem ruleTable_getElem? {rules : Array (Option Rule)} {table : List Rule}
    (h : ruleTable rules = .ok table) {id : RuleId} {r : Rule} (hr : rules[id]? = some (some r)) :
    table[id]? = some r := by
  have hid : id < table.length := by
    rw [length_ruleTable h]
    exact (Array.getElem?_eq_some_iff.mp hr).1
  have hfilled := getElem?_of_ruleTable h (List.getElem?_eq_getElem hid)
  rw [hr] at hfilled
  rw [List.getElem?_eq_getElem hid, ← Option.some.inj (Option.some.inj hfilled)]

end Compile

namespace Grammar

variable {options : EngineOptions} {spec : GrammarSpec} {g : Grammar}

/-- **A rule** stands in the table under its own number. -/
theorem rule?_id (hg : Grammar.compile options spec = .ok g) {r : Rule} (hr : r ∈ g.rules) :
    g.rule? r.id = some r := by
  obtain ⟨id, hid⟩ := Array.getElem?_of_mem hr
  rw [Compile.id_of_made ((Compile.made_of_compile hg).2 id r hid)]
  exact hid

/-- **The first rule** is the group of the patterns that the grammar lists. -/
theorem rule?_root (hg : Grammar.compile options spec = .ok g) :
    ∃ patterns, g.rule? Grammar.root = some { id := Grammar.root, kind := .group patterns } := by
  unfold Grammar.compile at hg
  obtain ⟨⟨_, s⟩, hrun, hg⟩ := Compile.exists_of_bind_ok hg
  obtain ⟨table, htable, hg⟩ := Compile.exists_of_bind_ok hg
  obtain rfl := Except.ok.inj hg
  obtain ⟨patterns, hroot⟩ := Compile.root_of_numberGrammar hrun
  refine ⟨patterns, ?_⟩
  rw [Grammar.rule?, List.getElem?_toArray]
  exact Compile.ruleTable_getElem? htable hroot

/-- The scanner of a number is made for the rule of the number. -/
theorem exists_scanner_of_scanner? (hg : Grammar.compile options spec = .ok g) {id : RuleId}
    {s : RuleScanner} (hs : g.scanner? id = some s) :
    ∃ rule, g.rule? id = some rule ∧ Flatten.scanner g.rules rule = some s := by
  unfold Grammar.compile at hg
  obtain ⟨⟨_, _⟩, _, hg⟩ := Compile.exists_of_bind_ok hg
  obtain ⟨table, _, hg⟩ := Compile.exists_of_bind_ok hg
  obtain rfl := Except.ok.inj hg
  rw [Grammar.scanner?, Array.getElem?_map] at hs
  cases hrule : table.toArray[id]? with
  | none =>
    rw [hrule] at hs
    cases hs
  | some rule =>
    rw [hrule] at hs
    exact ⟨rule, hrule, hs⟩

/-- **What a rule looks for** are rules of the table that are no groups. -/
theorem isTarget_of_scanner? (hg : Grammar.compile options spec = .ok g) {id : RuleId}
    {s : RuleScanner} (hs : g.scanner? id = some s) :
    ∀ target ∈ s.rules, Flatten.IsTarget g.rules target := by
  obtain ⟨_, _, hscanner⟩ := exists_scanner_of_scanner? hg hs
  exact Flatten.isTarget_of_mem_scanner hscanner

end Grammar

end Tincture
