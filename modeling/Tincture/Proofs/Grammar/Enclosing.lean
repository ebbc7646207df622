import Tincture.Proofs.Grammar.EndlessIncludes

/-!
# Enclosing repositories

Each rule of a file has its place in the text, and with it the repositories that enclose it, the
innermost first (`Stands`); they are those of the file and of rules around it (`Stands.encloses`). An
include by name leads to the entry in the innermost of these repositories that has one under the name
(`lookUp_eq_some_iff`), and from there, if the entry is an include, to what that leads to where it stands
(`Resolves`).

The walk through a file may come to a rule with more repositories open than those that enclose it
(`Comes`), for it takes them along from an include to the entry that this leads to. If each include finds
there what it finds where it stands (`Faithful`), the walk follows it to what it resolves to
(`resolves_of_follow`). So it is in a file in which no name is hidden by another repository and none is
used where its repository does not enclose it (`Unambiguous.faithful`).
-/

namespace Tincture.Compile

/-- The repository of a file, which encloses all of it. -/
def fileRepository (g : GrammarSpec) : List Repository :=
  [⟨[], g.repository⟩]

/-- A rule of a file, with the repositories that enclose it and its address. -/
inductive Stands (g : GrammarSpec) : List Repository → Address → RuleSpec → Prop
  | pattern {i : Nat} {rule : RuleSpec} (hrule : g.patterns[i]? = some rule) :
      Stands g (fileRepository g) [.pattern i] rule
  | entry {name : String} {rule : RuleSpec} (hrule : g.repository.lookup name = some rule) :
      Stands g (fileRepository g) [.named name] rule
  | listed {repositories : List Repository} {address : Address} {spec rule : RuleSpec} {i : Nat}
      (h : Stands g repositories address spec) (hrule : (spec.patterns.getD [])[i]? = some rule) :
      Stands g (openRepository address spec repositories) (.pattern i :: address) rule
  | kept {repositories : List Repository} {address : Address} {spec rule : RuleSpec} {name : String}
      (h : Stands g repositories address spec)
      (hrule : (spec.repository.getD []).lookup name = some rule) :
      Stands g (openRepository address spec repositories) (.named name :: address) rule

/-- What a rule leads to that leads to no entry: itself, if it is no include, the file, or nothing. -/
def ending (scopeName : String) (address : Address) (spec : RuleSpec) : Target :=
  match spec.includeTarget with
  | none => .rule address spec
  | some target =>
    if target = "$self" ∨ target = "$base" ∨ target = scopeName then .root else .nothing

/-- What a rule leads to in the text, if these repositories enclose it: each include on the way leads to
the entry in the innermost of the repositories that enclose it where it stands. -/
inductive Resolves (g : GrammarSpec) : List Repository → Address → RuleSpec → Target → Prop
  | ends {repositories : List Repository} {address : Address} {spec : RuleSpec}
      (hnext : next? g.scopeName repositories spec = none) :
      Resolves g repositories address spec (ending g.scopeName address spec)
  | leads {repositories repositories' : List Repository} {address address' : Address}
      {spec spec' : RuleSpec} {target : Target}
      (hnext : next? g.scopeName repositories spec = some (address', spec'))
      (hstands : Stands g repositories' address' spec')
      (hrest : Resolves g repositories' address' spec' target) :
      Resolves g repositories address spec target

/-- The walk through a file may come to a rule with these repositories open. -/
inductive Comes (g : GrammarSpec) : List Repository → Address → RuleSpec → Prop
  | pattern {i : Nat} {rule : RuleSpec} (hrule : g.patterns[i]? = some rule) :
      Comes g (fileRepository g) [.pattern i] rule
  | follows {repositories : List Repository} {address address' : Address} {spec spec' : RuleSpec}
      (h : Comes g repositories address spec)
      (hnext : next? g.scopeName repositories spec = some (address', spec')) :
      Comes g repositories address' spec'
  | listed {repositories : List Repository} {address : Address} {spec rule : RuleSpec} {i : Nat}
      (h : Comes g repositories address spec) (hrule : (listed spec)[i]? = some rule) :
      Comes g (openRepository address spec repositories) (.pattern i :: address) rule

/-- Wherever the walk may come to an include, it finds what it finds where it stands. -/
def Faithful (g : GrammarSpec) : Prop :=
  ∀ repositories repositories' address spec, Comes g repositories address spec →
    Stands g repositories' address spec →
    next? g.scopeName repositories spec = next? g.scopeName repositories' spec

variable {g : GrammarSpec} {repositories repositories' : List Repository} {address : Address}
  {spec : RuleSpec}

/-! ### Places in the text -/

theorem Stands.ne_nil (h : Stands g repositories address spec) : address ≠ [] := by
  cases h <;> exact List.cons_ne_nil _ _

/-- One rule stands at an address, and the same repositories enclose it always. -/
theorem Stands.unique (h : Stands g repositories address spec) {spec' : RuleSpec}
    (h' : Stands g repositories' address spec') : repositories = repositories' ∧ spec = spec' := by
  -- the first step of the address, and whether it is the only one, tell how a rule stands there
  induction h generalizing repositories' spec' with
  | pattern hrule =>
    cases h' with
    | pattern hrule' => exact ⟨rfl, Option.some.inj (hrule.symm.trans hrule')⟩
    | listed hholder => exact absurd rfl hholder.ne_nil
  | entry hrule =>
    cases h' with
    | entry hrule' => exact ⟨rfl, Option.some.inj (hrule.symm.trans hrule')⟩
    | kept hholder => exact absurd rfl hholder.ne_nil
  | listed hholder hrule ih =>
    cases h' with
    | pattern => exact absurd rfl hholder.ne_nil
    | listed hholder' hrule' =>
      obtain ⟨rfl, rfl⟩ := ih hholder'
      exact ⟨rfl, Option.some.inj (hrule.symm.trans hrule')⟩
  | kept hholder hrule ih =>
    cases h' with
    | entry => exact absurd rfl hholder.ne_nil
    | kept hholder' hrule' =>
      obtain ⟨rfl, rfl⟩ := ih hholder'
      exact ⟨rfl, Option.some.inj (hrule.symm.trans hrule')⟩

/-- Of the repositories that are open inside a rule, one is that of the rule, if it has one. -/
theorem mem_openRepository_iff {r : Repository} :
    r ∈ openRepository address spec repositories ↔
      (∃ rules, spec.repository = some rules ∧ r = ⟨address, rules⟩) ∨ r ∈ repositories := by
  unfold openRepository
  cases spec.repository with
  | none => simp
  | some rules => simp

/-- **The repositories that enclose a rule** are those of rules around it and of the file. -/
theorem Stands.encloses (h : Stands g repositories address spec) :
    ∀ r ∈ repositories, r.address <:+ address.tail := by
  induction h with
  | pattern | entry =>
    intro r hr
    obtain rfl := List.mem_singleton.mp hr
    exact List.suffix_refl []
  | listed _ _ ih | kept _ _ ih =>
    intro r hr
    rcases mem_openRepository_iff.mp hr with ⟨_, _, rfl⟩ | hr
    · exact List.suffix_refl _
    · exact (ih r hr).trans (List.tail_suffix _)

/-- There is one way only in which a rule resolves. -/
theorem Resolves.unique {target target' : Target} (h : Resolves g repositories address spec target)
    (h' : Resolves g repositories address spec target') : target = target' := by
  induction h with
  | ends hnext =>
    cases h' with
    | ends => rfl
    | leads hnext' => cases hnext.symm.trans hnext'
  | leads hnext hstands _ ih =>
    cases h' with
    | ends hnext' => cases hnext.symm.trans hnext'
    | leads hnext' hstands' hrest' =>
      obtain ⟨rfl, rfl⟩ := Prod.mk.inj (Option.some.inj (hnext.symm.trans hnext'))
      obtain ⟨rfl, _⟩ := hstands.unique hstands'
      exact ih hrest'

/-! ### Where the walk comes to -/

theorem getElem?_patterns_of_listed {i : Nat} {rule : RuleSpec}
    (hrule : (listed spec)[i]? = some rule) : (spec.patterns.getD [])[i]? = some rule := by
  unfold listed at hrule
  split at hrule
  · cases hrule
  · exact hrule

/-- What a repository has under a name, with its address. -/
def entryOf? (name : String) (r : Repository) : Option (Address × RuleSpec) :=
  (r.rules.lookup name).map (.named name :: r.address, ·)

theorem entryOf?_eq_some_iff {r : Repository} {name : String} {entry : Address × RuleSpec} :
    entryOf? name r = some entry ↔
      r.rules.lookup name = some entry.2 ∧ entry.1 = .named name :: r.address := by
  obtain ⟨address, rule⟩ := entry
  rw [entryOf?, Option.map_eq_some_iff]
  constructor
  · rintro ⟨_, hrule, heq⟩
    obtain ⟨rfl, rfl⟩ := Prod.mk.inj heq
    exact ⟨hrule, rfl⟩
  · rintro ⟨hrule, rfl⟩
    exact ⟨rule, hrule, rfl⟩

theorem entryOf?_eq_none_iff {r : Repository} {name : String} :
    entryOf? name r = none ↔ r.rules.lookup name = none :=
  Option.map_eq_none_iff

/-- The repositories are asked from the innermost to the outermost. -/
theorem lookUp_eq_findSome? (name : String) (repositories : List Repository) :
    lookUp name repositories = repositories.findSome? (entryOf? name) := by
  induction repositories with
  | nil => rfl
  | cons r rest ih =>
    rw [lookUp, List.findSome?_cons, entryOf?]
    cases r.rules.lookup name with
    | some rule => rfl
    | none => exact ih

/-- **What is found under a name** is what the innermost repository has that has something under it. -/
theorem lookUp_eq_some_iff {name : String} {entry : Address × RuleSpec} :
    lookUp name repositories = some entry ↔ ∃ inner r outer, repositories = inner ++ r :: outer ∧
      (∀ r' ∈ inner, r'.rules.lookup name = none) ∧ r.rules.lookup name = some entry.2 ∧
      entry.1 = .named name :: r.address := by
  simp only [lookUp_eq_findSome?, List.findSome?_eq_some_iff, entryOf?_eq_some_iff,
    entryOf?_eq_none_iff]
  constructor
  · rintro ⟨inner, r, outer, hsplit, ⟨hrule, haddress⟩, hinner⟩
    exact ⟨inner, r, outer, hsplit, hinner, hrule, haddress⟩
  · rintro ⟨inner, r, outer, hsplit, hinner, hrule, haddress⟩
    exact ⟨inner, r, outer, hsplit, ⟨hrule, haddress⟩, hinner⟩

theorem lookUp_eq_none_iff {name : String} :
    lookUp name repositories = none ↔ ∀ r ∈ repositories, r.rules.lookup name = none := by
  simp only [lookUp_eq_findSome?, List.findSome?_eq_none_iff, entryOf?_eq_none_iff]

/-- A repository of a file: that of the file itself or of a rule in it. -/
def IsRepository (g : GrammarSpec) (r : Repository) : Prop :=
  r ∈ fileRepository g ∨ ∃ repositories address spec rules, Stands g repositories address spec ∧
    spec.repository = some rules ∧ r = ⟨address, rules⟩

/-- Repositories of the file are open, and with each of them those that enclose its entries. -/
def Enclosed (g : GrammarSpec) (repositories : List Repository) : Prop :=
  ∀ r ∈ repositories, IsRepository g r ∧ ∀ name rule, r.rules.lookup name = some rule →
    ∃ enclosing, Stands g enclosing (.named name :: r.address) rule ∧ enclosing ⊆ repositories

theorem enclosed_fileRepository (g : GrammarSpec) : Enclosed g (fileRepository g) := by
  intro r hr
  refine ⟨Or.inl hr, fun name rule hrule => ?_⟩
  obtain rfl := List.mem_singleton.mp hr
  exact ⟨_, .entry hrule, List.Subset.refl _⟩

theorem subset_openRepository : repositories ⊆ openRepository address spec repositories :=
  fun _ hr => mem_openRepository_iff.mpr (Or.inr hr)

/-- The repository of a rule may be opened where those are open that enclose the rule. -/
theorem Stands.enclosed (h : Stands g repositories' address spec)
    (hsubset : repositories' ⊆ repositories) (henclosed : Enclosed g repositories) :
    openRepository address spec repositories' ⊆ openRepository address spec repositories ∧
      Enclosed g (openRepository address spec repositories) := by
  have hopen : openRepository address spec repositories' ⊆
      openRepository address spec repositories := by
    intro r hr
    rcases mem_openRepository_iff.mp hr with hown | hr
    · exact mem_openRepository_iff.mpr (Or.inl hown)
    · exact subset_openRepository (hsubset hr)
  refine ⟨hopen, fun r hr => ?_⟩
  rcases mem_openRepository_iff.mp hr with ⟨rules, hrules, rfl⟩ | hr
  · refine ⟨Or.inr ⟨_, _, _, rules, h, hrules, rfl⟩, fun name rule hrule => ?_⟩
    exact ⟨_, h.kept (by rw [hrules]; exact hrule), hopen⟩
  · obtain ⟨hrepository, hentries⟩ := henclosed r hr
    refine ⟨hrepository, fun name rule hrule => ?_⟩
    obtain ⟨enclosing, hstands, henclosing⟩ := hentries name rule hrule
    exact ⟨enclosing, hstands, List.Subset.trans henclosing subset_openRepository⟩

/-- What an include leads to stands in the text, and the repositories that enclose it are open. -/
theorem Enclosed.exists_stands (henclosed : Enclosed g repositories) {spec' : RuleSpec}
    (hnext : next? g.scopeName repositories spec = some (address, spec')) :
    ∃ enclosing, Stands g enclosing address spec' ∧ enclosing ⊆ repositories := by
  obtain ⟨name, hname⟩ := exists_lookUp_of_next? hnext
  obtain ⟨inner, r, outer, rfl, _, hr, rfl⟩ := lookUp_eq_some_iff.mp hname
  exact (henclosed r (List.mem_append_right inner List.mem_cons_self)).2 name _ hr

/-- **What the walk comes to** stands in the text, and of the repositories that are open there, some are
those that enclose it. -/
theorem Comes.stands (h : Comes g repositories address spec) :
    (∃ enclosing, Stands g enclosing address spec ∧ enclosing ⊆ repositories) ∧
      Enclosed g repositories := by
  induction h with
  | pattern hrule =>
    exact ⟨⟨_, .pattern hrule, List.Subset.refl _⟩, enclosed_fileRepository g⟩
  | follows _ hnext ih => exact ⟨ih.2.exists_stands hnext, ih.2⟩
  | listed _ hrule ih =>
    obtain ⟨⟨_, hstands, hsubset⟩, henclosed⟩ := ih
    obtain ⟨hopen, henclosed'⟩ := hstands.enclosed hsubset henclosed
    exact ⟨⟨_, hstands.listed (getElem?_patterns_of_listed hrule), hopen⟩, henclosed'⟩

/-- A chain that the walk follows ends where it may come to. -/
theorem Comes.of_follow (h : Comes g repositories address spec) {fuel : Nat} {address' : Address}
    {spec' : RuleSpec}
    (hfollow : follow g.scopeName repositories fuel address spec = .ok (.rule address' spec')) :
    Comes g repositories address' spec' := by
  induction fuel generalizing address spec with
  | zero => cases hfollow
  | succ fuel ih =>
    cases hnext : next? g.scopeName repositories spec with
    | some entry =>
      rw [follow_of_next?_some hnext] at hfollow
      exact ih (h.follows hnext) hfollow
    | none =>
      obtain ⟨target, htarget, hends⟩ := exists_follow_of_next?_none hnext address
      rw [hends] at hfollow
      obtain rfl := Except.ok.inj hfollow
      rcases htarget with htarget | htarget | htarget
      · obtain ⟨rfl, rfl⟩ := Target.rule.inj htarget
        exact h
      · cases htarget
      · cases htarget

/-! ### Chains in the text -/

/-- A chain ends at a rule that leads to no entry. -/
theorem follow_of_next?_none {scopeName : String}
    (hnext : next? scopeName repositories spec = none) (fuel : Nat) (address : Address) :
    follow scopeName repositories (fuel + 1) address spec = .ok (ending scopeName address spec) := by
  unfold next? at hnext
  unfold ending
  rw [follow]
  cases htarget : spec.includeTarget with
  | none => rfl
  | some target =>
    rw [htarget] at hnext
    dsimp only at hnext ⊢
    by_cases hself : target = "$self" ∨ target = "$base" ∨ target = scopeName
    · rw [if_pos hself, if_pos hself]
    · rw [if_neg hself] at hnext
      rw [if_neg hself, if_neg hself]
      split
      · rename_i name htext
        simp only [htext] at hnext
        rw [hnext]
      · rfl

/-- **The walk follows** an include to what it resolves to, if includes are found the same everywhere. -/
theorem resolves_of_follow (hfaithful : Faithful g) (hcomes : Comes g repositories address spec)
    (hstands : Stands g repositories' address spec) {fuel : Nat} {target : Target}
    (hfollow : follow g.scopeName repositories fuel address spec = .ok target) :
    Resolves g repositories' address spec target := by
  induction fuel generalizing repositories' address spec with
  | zero => cases hfollow
  | succ fuel ih =>
    have hsame := hfaithful _ _ _ _ hcomes hstands
    cases hnext : next? g.scopeName repositories spec with
    | none =>
      rw [follow_of_next?_none hnext] at hfollow
      obtain rfl := Except.ok.inj hfollow
      exact .ends (hsame.symm.trans hnext)
    | some entry =>
      obtain ⟨address', spec'⟩ := entry
      rw [follow_of_next?_some hnext] at hfollow
      -- the walk keeps the repositories of the include open; others may enclose what it leads to
      obtain ⟨_, hstands', _⟩ := hcomes.stands.2.exists_stands hnext
      exact .leads (hsame.symm.trans hnext) hstands' (ih (hcomes.follows hnext) hstands' hfollow)

/-! ### Names that are found the same everywhere -/

/-- If each include leads to what the same repositories enclose, the walk comes to rules with those open
that enclose them. -/
theorem faithful_of_stands (h : ∀ repositories address spec entry, Stands g repositories address spec →
    next? g.scopeName repositories spec = some entry → Stands g repositories entry.1 entry.2) :
    Faithful g := by
  have hcomes : ∀ repositories address spec, Comes g repositories address spec →
      Stands g repositories address spec := by
    intro repositories address spec hcomes
    induction hcomes with
    | pattern hrule => exact .pattern hrule
    | follows _ hnext ih => exact h _ _ _ _ ih hnext
    | listed _ hrule ih => exact ih.listed (getElem?_patterns_of_listed hrule)
  intro repositories repositories' address spec hfrom hstands
  rw [((hcomes _ _ _ hfrom).unique hstands).1]

/-- A rule leads nowhere in all repositories, or to what they have under one name. -/
theorem next?_cases (scopeName : String) (spec : RuleSpec) :
    (∀ repositories, next? scopeName repositories spec = none) ∨
      ∃ name, ∀ repositories, next? scopeName repositories spec = lookUp name repositories := by
  unfold next?
  cases spec.includeTarget with
  | none => exact Or.inl fun _ => rfl
  | some target =>
    dsimp only
    by_cases hself : target = "$self" ∨ target = "$base" ∨ target = scopeName
    · exact Or.inl fun _ => if_pos hself
    · simp only [if_neg hself]
      split
      · exact Or.inr ⟨_, fun _ => rfl⟩
      · exact Or.inl fun _ => rfl

/-- No two repositories of the file have something under one name, and an include that finds nothing where
it stands finds nothing in any of them. -/
structure Unambiguous (g : GrammarSpec) : Prop where
  distinct : ∀ r r' name rule rule', IsRepository g r → IsRepository g r' →
    r.rules.lookup name = some rule → r'.rules.lookup name = some rule' → r = r'
  nowhere : ∀ repositories address spec, Stands g repositories address spec →
    next? g.scopeName repositories spec = none → ∀ repositories',
      (∀ r ∈ repositories', IsRepository g r) → next? g.scopeName repositories' spec = none

/-- **In a file without ambiguous names** includes are found the same everywhere. -/
theorem Unambiguous.faithful (h : Unambiguous g) : Faithful g := by
  intro repositories repositories' address spec hcomes hstands
  obtain ⟨⟨enclosing, hstands', hsubset⟩, henclosed⟩ := hcomes.stands
  obtain ⟨rfl, -⟩ := hstands.unique hstands'
  cases hnext : next? g.scopeName repositories' spec with
  | none => exact h.nowhere _ _ _ hstands hnext repositories fun r hr => (henclosed r hr).1
  | some entry =>
    rcases next?_cases g.scopeName spec with hnone | ⟨name, hname⟩
    · cases (hnone _).symm.trans hnext
    rw [hname] at hnext ⊢
    -- the repository in which the entry was found is open here too, maybe behind others
    obtain ⟨inner, r, outer, rfl, _, hr, haddress⟩ := lookUp_eq_some_iff.mp hnext
    have hmem : r ∈ repositories := hsubset (List.mem_append_right inner List.mem_cons_self)
    cases hfound : lookUp name repositories with
    | none =>
      cases hr.symm.trans (lookUp_eq_none_iff.mp hfound r hmem)
    | some entry' =>
      obtain ⟨inner', r', outer', rfl, _, hr', haddress'⟩ := lookUp_eq_some_iff.mp hfound
      have hmem' : r' ∈ inner' ++ r' :: outer' := List.mem_append_right inner' List.mem_cons_self
      obtain rfl := h.distinct r r' name _ _ (henclosed r hmem).1 (henclosed r' hmem').1 hr hr'
      rw [hr] at hr'
      refine congrArg some (Prod.ext ?_ (Option.some.inj hr').symm)
      rw [haddress, haddress']

end Tincture.Compile
