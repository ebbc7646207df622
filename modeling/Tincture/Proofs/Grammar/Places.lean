import Mathlib.Data.List.Basic
import Tincture.Grammar.Compile

/-!
# The places of a file

The rules of a grammar file with their addresses (`places`). There are as many as the file has rules
(`length_places`), and what a rule lists or keeps in its repository is among them
(`mem_places_of_lookUp`, `Repository.InFile`).
-/

namespace Tincture.Compile

mutual

/-- The rules in a rule, itself included, with their addresses. -/
def rulePlaces (address : Address) : RuleSpec → List (Address × RuleSpec)
  | spec@⟨_, _, _, _, _, _, _, _, _, _, _, patterns, repository, _⟩ =>
    (address, spec) :: ((match patterns with
      | some rules => listPlaces address 0 rules
      | none => []) ++ match repository with
      | some rules => entriesPlaces address rules
      | none => [])

/-- The rules in a list that a rule holds. -/
def listPlaces (parent : Address) (index : Nat) : List RuleSpec → List (Address × RuleSpec)
  | [] => []
  | spec :: rest => rulePlaces (.pattern index :: parent) spec ++ listPlaces parent (index + 1) rest

/-- The rules in a repository that a rule holds. -/
def entriesPlaces (parent : Address) : List (String × RuleSpec) → List (Address × RuleSpec)
  | [] => []
  | (name, spec) :: rest => rulePlaces (.named name :: parent) spec ++ entriesPlaces parent rest

end

/-- The rules of a grammar file, with their addresses. -/
def places (g : GrammarSpec) : List (Address × RuleSpec) :=
  listPlaces [] 0 g.patterns ++ entriesPlaces [] g.repository

theorem rulePlaces_eq (address : Address) (spec : RuleSpec) :
    rulePlaces address spec = (address, spec) :: (listPlaces address 0 (spec.patterns.getD []) ++
      entriesPlaces address (spec.repository.getD [])) := by
  obtain ⟨_, _, _, _, _, _, _, _, _, _, _, patterns, repository, _⟩ := spec
  cases patterns <;> cases repository <;> simp [rulePlaces, listPlaces, entriesPlaces]

theorem ruleCount_eq (spec : RuleSpec) :
    ruleCount spec = 1 + listCount (spec.patterns.getD []) +
      entriesCount (spec.repository.getD []) := by
  obtain ⟨_, _, _, _, _, _, _, _, _, _, _, patterns, repository, _⟩ := spec
  cases patterns <;> cases repository <;> simp [ruleCount, listCount, entriesCount]

/-- Rules hold each other in lists and repositories, and in no other way. -/
theorem ruleSpec_induction {motive : RuleSpec → Prop}
    (h : ∀ spec : RuleSpec, (∀ rule ∈ spec.patterns.getD [], motive rule) →
      (∀ entry ∈ spec.repository.getD [], motive entry.2) → motive spec) (spec : RuleSpec) :
    motive spec := by
  refine @RuleSpec.rec motive (fun rules? => ∀ rule ∈ rules?.getD [], motive rule)
    (fun entries? => ∀ entry ∈ entries?.getD [], motive entry.2)
    (fun rules => ∀ rule ∈ rules, motive rule) (fun entries => ∀ entry ∈ entries, motive entry.2)
    (fun entry => motive entry.2) ?_ ?_ ?_ ?_ ?_ ?_ ?_ ?_ ?_ ?_ spec
  · intros
    exact h ⟨_, _, _, _, _, _, _, _, _, _, _, _, _, _⟩ ‹_› ‹_›
  · simp
  · exact fun _ hrules => hrules
  · simp
  · exact fun _ hentries => hentries
  · simp
  · exact fun _ _ hfirst hrest => List.forall_mem_cons.mpr ⟨hfirst, hrest⟩
  · simp
  · exact fun _ _ hfirst hrest => List.forall_mem_cons.mpr ⟨hfirst, hrest⟩
  · exact fun _ _ hspec => hspec

theorem length_listPlaces {rules : List RuleSpec}
    (h : ∀ rule ∈ rules, ∀ address, (rulePlaces address rule).length = ruleCount rule)
    (parent : Address) (index : Nat) :
    (listPlaces parent index rules).length = listCount rules := by
  induction rules generalizing index with
  | nil => rfl
  | cons rule rest ih =>
    obtain ⟨hfirst, hrest⟩ := List.forall_mem_cons.mp h
    rw [listPlaces, listCount, List.length_append, hfirst, ih hrest]

theorem length_entriesPlaces {entries : List (String × RuleSpec)}
    (h : ∀ entry ∈ entries, ∀ address, (rulePlaces address entry.2).length = ruleCount entry.2)
    (parent : Address) : (entriesPlaces parent entries).length = entriesCount entries := by
  induction entries with
  | nil => rfl
  | cons entry rest ih =>
    obtain ⟨hfirst, hrest⟩ := List.forall_mem_cons.mp h
    rw [entriesPlaces, entriesCount, List.length_append, hfirst, ih hrest]

theorem length_rulePlaces (spec : RuleSpec) (address : Address) :
    (rulePlaces address spec).length = ruleCount spec := by
  induction spec using ruleSpec_induction generalizing address with
  | h spec hpatterns hrepository =>
    rw [rulePlaces_eq, ruleCount_eq, List.length_cons, List.length_append,
      length_listPlaces hpatterns, length_entriesPlaces hrepository]
    omega

/-- **A file** has as many places as rules. -/
theorem length_places (g : GrammarSpec) : (places g).length = specCount g := by
  rw [places, specCount, List.length_append,
    length_listPlaces fun rule _ => length_rulePlaces rule,
    length_entriesPlaces fun entry _ => length_rulePlaces entry.2]

/-! ### Rules inside others -/

theorem mem_listPlaces_iff {place : Address × RuleSpec} {parent : Address} {index : Nat}
    {rules : List RuleSpec} :
    place ∈ listPlaces parent index rules ↔ ∃ i rule, rules[i]? = some rule ∧
      place ∈ rulePlaces (.pattern (index + i) :: parent) rule := by
  induction rules generalizing index with
  | nil => simp [listPlaces]
  | cons rule rest ih =>
    rw [listPlaces, List.mem_append, ih]
    constructor
    · rintro (hfirst | ⟨i, rule', hrule', hplace⟩)
      · exact ⟨0, rule, rfl, hfirst⟩
      · exact ⟨i + 1, rule', hrule', by rwa [← Nat.add_assoc, Nat.add_right_comm]⟩
    · rintro ⟨i, rule', hrule', hplace⟩
      cases i with
      | zero =>
        obtain rfl := Option.some.inj hrule'
        exact Or.inl hplace
      | succ i => exact Or.inr ⟨i, rule', hrule', by rwa [Nat.add_right_comm, Nat.add_assoc]⟩

theorem mem_entriesPlaces_iff {place : Address × RuleSpec} {parent : Address}
    {entries : List (String × RuleSpec)} :
    place ∈ entriesPlaces parent entries ↔ ∃ name rule, (name, rule) ∈ entries ∧
      place ∈ rulePlaces (.named name :: parent) rule := by
  induction entries with
  | nil => simp [entriesPlaces]
  | cons entry rest ih =>
    obtain ⟨name, rule⟩ := entry
    rw [entriesPlaces, List.mem_append, ih]
    constructor
    · rintro (hfirst | ⟨name', rule', hrule', hplace⟩)
      · exact ⟨name, rule, List.mem_cons_self, hfirst⟩
      · exact ⟨name', rule', List.mem_cons_of_mem _ hrule', hplace⟩
    · rintro ⟨name', rule', hrule', hplace⟩
      rcases List.mem_cons.mp hrule' with heq | hrule'
      · obtain ⟨rfl, rfl⟩ := Prod.mk.inj heq
        exact Or.inl hplace
      · exact Or.inr ⟨name', rule', hrule', hplace⟩

theorem self_mem_rulePlaces (address : Address) (spec : RuleSpec) :
    (address, spec) ∈ rulePlaces address spec := by
  rw [rulePlaces_eq]
  exact List.mem_cons_self

/-- What a rule of a file holds is in the file. -/
theorem rulePlaces_subset {place : Address × RuleSpec} {address : Address} {spec : RuleSpec}
    (h : place ∈ rulePlaces address spec) :
    rulePlaces place.1 place.2 ⊆ rulePlaces address spec := by
  induction spec using ruleSpec_induction generalizing address with
  | h spec hpatterns hrepository =>
    intro inner hinner
    rw [rulePlaces_eq] at h ⊢
    rcases List.mem_cons.mp h with rfl | h
    · rwa [← rulePlaces_eq]
    refine List.mem_cons_of_mem _ (List.mem_append.mpr ?_)
    rcases List.mem_append.mp h with h | h
    · obtain ⟨i, rule, hrule, h⟩ := mem_listPlaces_iff.mp h
      have hmem := hpatterns rule (List.mem_of_getElem? hrule) h hinner
      exact Or.inl (mem_listPlaces_iff.mpr ⟨i, rule, hrule, hmem⟩)
    · obtain ⟨name, rule, hrule, h⟩ := mem_entriesPlaces_iff.mp h
      have hmem := hrepository (name, rule) hrule h hinner
      exact Or.inr (mem_entriesPlaces_iff.mpr ⟨name, rule, hrule, hmem⟩)

theorem rulePlaces_subset_places {g : GrammarSpec} {place : Address × RuleSpec}
    (h : place ∈ places g) : rulePlaces place.1 place.2 ⊆ places g := by
  intro inner hinner
  refine List.mem_append.mpr ?_
  rcases List.mem_append.mp h with h | h
  · obtain ⟨i, rule, hrule, h⟩ := mem_listPlaces_iff.mp h
    exact Or.inl (mem_listPlaces_iff.mpr ⟨i, rule, hrule, rulePlaces_subset h hinner⟩)
  · obtain ⟨name, rule, hrule, h⟩ := mem_entriesPlaces_iff.mp h
    exact Or.inr (mem_entriesPlaces_iff.mpr ⟨name, rule, hrule, rulePlaces_subset h hinner⟩)

/-- What a rule of a file lists is in the file. -/
theorem listPlaces_subset_places {g : GrammarSpec} {address : Address} {spec : RuleSpec}
    (h : (address, spec) ∈ places g) :
    listPlaces address 0 (spec.patterns.getD []) ⊆ places g := by
  have hrule := rulePlaces_subset_places h
  rw [rulePlaces_eq] at hrule
  exact (List.append_subset.mp (List.cons_subset.mp hrule).2).1

/-! ### Open repositories -/

/-- The entries of a repository are rules of the file. -/
def InFile (g : GrammarSpec) (r : Repository) : Prop :=
  ∀ entry ∈ r.rules, (.named entry.1 :: r.address, entry.2) ∈ places g

theorem inFile_of_entriesPlaces_subset {g : GrammarSpec} {r : Repository}
    (h : entriesPlaces r.address r.rules ⊆ places g) : InFile g r := fun entry hentry =>
  h (mem_entriesPlaces_iff.mpr ⟨entry.1, entry.2, hentry, self_mem_rulePlaces _ _⟩)

theorem inFile_repository (g : GrammarSpec) :
    ∀ r ∈ [(⟨[], g.repository⟩ : Repository)], InFile g r :=
  List.forall_mem_singleton.mpr (inFile_of_entriesPlaces_subset (List.subset_append_right _ _))

/-- The repository of a rule of the file is one of the file. -/
theorem inFile_openRepository {g : GrammarSpec} {address : Address} {spec : RuleSpec}
    {repositories : List Repository} (h : (address, spec) ∈ places g)
    (hopen : ∀ r ∈ repositories, InFile g r) :
    ∀ r ∈ openRepository address spec repositories, InFile g r := by
  unfold openRepository
  split
  · rename_i rules hrules
    refine List.forall_mem_cons.mpr ⟨inFile_of_entriesPlaces_subset ?_, hopen⟩
    have hrule := rulePlaces_subset_places h
    rw [rulePlaces_eq, hrules] at hrule
    exact (List.append_subset.mp (List.cons_subset.mp hrule).2).2
  · exact hopen

/-- What is found under a name is an entry of that name in a repository. -/
theorem exists_of_lookUp {repositories : List Repository} {name : String}
    {entry : Address × RuleSpec} (h : lookUp name repositories = some entry) :
    ∃ r ∈ repositories, (name, entry.2) ∈ r.rules ∧ entry.1 = .named name :: r.address := by
  induction repositories with
  | nil => cases h
  | cons r rest ih =>
    rw [lookUp] at h
    split at h
    · rename_i rule hrule
      obtain rfl := Option.some.inj h
      obtain ⟨before, after, hrules, _⟩ := List.lookup_eq_some_iff.mp hrule
      exact ⟨r, List.mem_cons_self, hrules ▸ List.mem_append_right before List.mem_cons_self, rfl⟩
    · obtain ⟨r', hr', hfound⟩ := ih h
      exact ⟨r', List.mem_cons_of_mem r hr', hfound⟩

/-- An entry that is found is a rule of the file. -/
theorem mem_places_of_lookUp {g : GrammarSpec} {repositories : List Repository}
    (hopen : ∀ r ∈ repositories, InFile g r) {name : String} {entry : Address × RuleSpec}
    (h : lookUp name repositories = some entry) : entry ∈ places g := by
  obtain ⟨address, spec⟩ := entry
  obtain ⟨r, hr, hentry, rfl⟩ := exists_of_lookUp h
  exact hopen r hr (name, spec) hentry

end Tincture.Compile
