import Tincture.Proofs.Grammar.ClosedTable
import Tincture.Proofs.Grammar.Enclosing

/-!
# What includes are bound to

In a compiled grammar a rule lists the numbers of what the rules of its list are bound to (`Binds`). What
binds them is the walk: it follows each include once, through the repositories that are open on one of
the ways on which it comes to the rule (`bound_number`). So the repositories that enclose an include do
not decide on it, but the way on which the rule around it got its number, which stands for it
everywhere.

If includes are found the same on all ways (`Faithful`), each is bound to what it resolves to in the text
(`compile_bound`).
-/

namespace Tincture.Compile

/-- The number of what a rule leads to, if it leads anywhere. -/
inductive HasNumber (numbers : List (Address × RuleId)) : Target → Option RuleId → Prop
  | root : HasNumber numbers .root (some Grammar.root)
  | nothing : HasNumber numbers .nothing none
  | rule {address : Address} {spec : RuleSpec} {id : RuleId} (hid : (address, id) ∈ numbers) :
      HasNumber numbers (.rule address spec) (some id)

/-- The numbers of what the rules of a list are bound to, in their order; those that are bound to nothing
are left out. -/
inductive Binds (numbers : List (Address × RuleId)) (bound : Address → RuleSpec → Target → Prop)
    (parent : Address) : (index : Nat) → List RuleSpec → List RuleId → Prop
  | nil {index : Nat} : Binds numbers bound parent index [] []
  | cons {index : Nat} {rule : RuleSpec} {rest : List RuleSpec} {target : Target}
      {id? : Option RuleId} {ids : List RuleId}
      (hbound : bound (.pattern index :: parent) rule target) (hid : HasNumber numbers target id?)
      (hrest : Binds numbers bound parent (index + 1) rest ids) :
      Binds numbers bound parent index (rule :: rest) (id?.toList ++ ids)

/-- What the walk follows a rule to, with these repositories open. -/
def Follows (g : GrammarSpec) (repositories : List Repository) (address : Address) (spec : RuleSpec)
    (target : Target) : Prop :=
  ∃ fuel, follow g.scopeName repositories fuel address spec = .ok target

/-- The rule under a number is made of a rule of the file, and lists what the rules of its list are bound
to, if these repositories are open around it. -/
structure BoundRule (options : EngineOptions) (numbers : List (Address × RuleId))
    (bound : List Repository → Address → RuleSpec → Target → Prop) (repositories : List Repository)
    (address : Address) (spec : RuleSpec) (id : RuleId) (r : Rule) : Prop where
  made : MadeOf options spec id r
  binds : Binds numbers (bound (openRepository address spec repositories)) address 0 (listed spec)
    r.kind.children

/-- The rules of a grammar are made of the rules of a file that have their numbers. They list what the
rules of their lists are bound to, with the repositories open that are `around` them. -/
structure BoundGrammar (options : EngineOptions) (g : GrammarSpec) (grammar : Grammar)
    (numbers : List (Address × RuleId)) (around : List Repository → Address → RuleSpec → Prop)
    (bound : List Repository → Address → RuleSpec → Target → Prop) : Prop where
  root : ∃ r, grammar.rule? Grammar.root = some r ∧
    Binds numbers (bound (fileRepository g)) [] 0 g.patterns r.kind.children
  rules : ∀ address id, (address, id) ∈ numbers → ∃ repositories spec r,
    around repositories address spec ∧ spec.includeTarget = none ∧ grammar.rule? id = some r ∧
      BoundRule options numbers bound repositories address spec id r

variable {options : EngineOptions} {g : GrammarSpec} {repositories : List Repository}
  {address : Address} {spec : RuleSpec} {numbers numbers' : List (Address × RuleId)}

/-! ### Lists of numbers -/

theorem HasNumber.mono {target : Target} {id? : Option RuleId} (h : HasNumber numbers target id?)
    (hsubset : numbers ⊆ numbers') : HasNumber numbers' target id? := by
  cases h with
  | root => exact .root
  | nothing => exact .nothing
  | rule hid => exact .rule (hsubset hid)

/-- Numbers stay what they are when rules get more of them, and when more is bound. -/
theorem Binds.mono {bound bound' : Address → RuleSpec → Target → Prop} {parent : Address}
    {index : Nat} {rules : List RuleSpec} {ids : List RuleId}
    (h : Binds numbers bound parent index rules ids) (hsubset : numbers ⊆ numbers')
    (hbound : ∀ i rule target, rules[i]? = some rule →
      bound (.pattern (index + i) :: parent) rule target →
      bound' (.pattern (index + i) :: parent) rule target) :
    Binds numbers' bound' parent index rules ids := by
  induction h with
  | nil => exact .nil
  | @cons index rule rest target id? ids hfirst hid _ ih =>
    refine .cons (hbound 0 rule target rfl hfirst) (hid.mono hsubset) (ih fun i rule target hrule => ?_)
    have hlater := hbound (i + 1) rule target hrule
    rwa [← Nat.add_assoc, Nat.add_right_comm] at hlater

/-- Each rule of a list is bound to something, the number of which is among the numbers. -/
theorem Binds.exists_target {bound : Address → RuleSpec → Target → Prop} {parent : Address}
    {index : Nat} {rules : List RuleSpec} {ids : List RuleId}
    (h : Binds numbers bound parent index rules ids) {i : Nat} {rule : RuleSpec}
    (hrule : rules[i]? = some rule) : ∃ target id?, bound (.pattern (index + i) :: parent) rule target ∧
      HasNumber numbers target id? ∧ id?.toList ⊆ ids := by
  induction h generalizing i with
  | nil => cases hrule
  | @cons index first rest target id? ids hbound hid _ ih =>
    cases i with
    | zero =>
      obtain rfl := Option.some.inj hrule
      exact ⟨target, id?, hbound, hid, List.subset_append_left _ _⟩
    | succ i =>
      obtain ⟨target', other?, hbound', hid', hsubset⟩ := ih hrule
      rw [Nat.add_right_comm, Nat.add_assoc] at hbound'
      exact ⟨target', other?, hbound', hid', List.subset_append_of_subset_right _ hsubset⟩

/-- A rule lists just what was numbered inside it. -/
theorem children_eq_of_kindOf {children : List RuleId} {kind : RuleKind}
    (h : kindOf options spec children = .ok kind)
    (hsingle : spec.matchPattern.isSome = true → children = []) : kind.children = children := by
  unfold kindOf at h
  dsimp only at h
  split at h
  · rename_i hmatch
    obtain ⟨_, _, h⟩ := exists_of_bind_ok h
    obtain rfl := Except.ok.inj h
    exact (hsingle (by rw [hmatch]; rfl)).symm
  · split at h
    · obtain ⟨_, _, h⟩ := exists_of_bind_ok h
      obtain ⟨_, _, h⟩ := exists_of_bind_ok h
      obtain rfl := Except.ok.inj h
      rfl
    · obtain ⟨_, _, h⟩ := exists_of_bind_ok h
      obtain ⟨_, _, h⟩ := exists_of_bind_ok h
      obtain rfl := Except.ok.inj h
      rfl
    · cases h
  · obtain rfl := Except.ok.inj h
    rfl

theorem BoundRule.mono {bound : List Repository → Address → RuleSpec → Target → Prop} {id : RuleId}
    {r : Rule} (h : BoundRule options numbers bound repositories address spec id r)
    (hsubset : numbers ⊆ numbers') :
    BoundRule options numbers' bound repositories address spec id r :=
  ⟨h.made, h.binds.mono hsubset fun _ _ _ _ hbound => hbound⟩

/-! ### The walk -/

/-- All rules that are filled in are bound as the walk followed their includes. -/
def AsFollowed (options : EngineOptions) (g : GrammarSpec) (s : State) : Prop :=
  ∀ address id, (address, id) ∈ s.numbers → ∃ repositories spec, Comes g repositories address spec ∧
    spec.includeTarget = none ∧ ∀ r, s.rules[id]? = some (some r) →
      BoundRule options s.numbers (Follows g) repositories address spec id r

/-- What the walk comes to is a rule of the file, and so are the entries of open repositories. -/
theorem Comes.inFile (h : Comes g repositories address spec) :
    (∀ r ∈ repositories, InFile g r) ∧ (address, spec) ∈ places g := by
  induction h with
  | @pattern i rule hrule =>
    refine ⟨inFile_repository g, List.mem_append_left _ ?_⟩
    refine mem_listPlaces_iff.mpr ⟨i, rule, hrule, ?_⟩
    rw [Nat.zero_add]
    exact self_mem_rulePlaces _ _
  | follows _ hnext ih =>
    obtain ⟨name, hname⟩ := exists_lookUp_of_next? hnext
    exact ⟨ih.1, mem_places_of_lookUp ih.1 hname⟩
  | @listed _ _ _ rule i _ hrule ih =>
    refine ⟨inFile_openRepository ih.2 ih.1, listPlaces_listed_subset_places ih.2 ?_⟩
    refine mem_listPlaces_iff.mpr ⟨i, rule, hrule, ?_⟩
    rw [Nat.zero_add]
    exact self_mem_rulePlaces _ _

variable {s s' : State}

/-- A rule that gets its number is not filled in yet. -/
theorem AsFollowed.entered (h : AsFollowed options g s) (hinOrder : InOrder options g s)
    (hcomes : Comes g repositories address spec) (hinclude : spec.includeTarget = none) :
    AsFollowed options g (s.entered address) := by
  intro address' id hid
  rcases List.mem_cons.mp hid with heq | hid
  · obtain ⟨rfl, rfl⟩ := Prod.mk.inj heq
    refine ⟨repositories, spec, hcomes, hinclude, fun r hr => ?_⟩
    -- the place of the rule itself is still empty
    rw [State.entered, Array.getElem?_push_size] at hr
    cases Option.some.inj hr
  · obtain ⟨repositories', spec', hcomes', hinclude', hbound⟩ := h address' id hid
    refine ⟨repositories', spec', hcomes', hinclude', fun r hr => ?_⟩
    rw [State.entered, Array.getElem?_push, if_neg (Nat.ne_of_lt (hinOrder.id_lt hid).2)] at hr
    exact (hbound r hr).mono (List.subset_cons_self _ _)

/-- A rule is filled in with what the rules of its list were followed to. -/
theorem AsFollowed.fill (h : AsFollowed options g s) (hinOrder : InOrder options g s) {id : RuleId}
    {r : Rule} (hid : (address, id) ∈ s.numbers) (hcomes : Comes g repositories address spec)
    (hinclude : spec.includeTarget = none)
    (hbound : BoundRule options s.numbers (Follows g) repositories address spec id r) :
    AsFollowed options g { s with rules := s.rules.setIfInBounds id (some r) } := by
  intro address' id' hid'
  by_cases heq : id = id'
  · subst heq
    obtain rfl := hinOrder.address_eq hid hid'
    refine ⟨repositories, spec, hcomes, hinclude, fun r' hr' => ?_⟩
    rw [Array.getElem?_setIfInBounds_self_of_lt (hinOrder.id_lt hid).2] at hr'
    rwa [← Option.some.inj (Option.some.inj hr')]
  · obtain ⟨repositories', spec', hcomes', hinclude', hbound'⟩ := h address' id' hid'
    refine ⟨repositories', spec', hcomes', hinclude', fun r' hr' => hbound' r' ?_⟩
    rwa [Array.getElem?_setIfInBounds_ne heq] at hr'

/-- A rule that was walked through is filled in, and its number is what is given back. -/
theorem AsFollowed.finished (h : AsFollowed options g s) (hinOrder : InOrder options g s) {id : RuleId}
    (hid : (address, id) ∈ s.numbers) (hcomes : Comes g repositories address spec)
    (hinclude : spec.includeTarget = none) {ids : List RuleId}
    (hbinds : Binds s.numbers (Follows g (openRepository address spec repositories)) address 0
      (listed spec) ids) {id? : Option RuleId}
    (hrun : Compile.finished options spec id (ids, s) = .ok (id?, s')) :
    AsFollowed options g s' ∧ id? = some id ∧ s'.numbers = s.numbers := by
  unfold Compile.finished at hrun
  obtain ⟨kind, hkind, hrun⟩ := exists_of_bind_ok hrun
  obtain ⟨rfl, rfl⟩ := Prod.mk.inj (Except.ok.inj hrun)
  have hchildren : kind.children = ids := by
    refine children_eq_of_kindOf hkind fun hmatch => ?_
    -- a rule with a pattern of its own lists nothing
    rw [listed, if_pos hmatch] at hbinds
    cases hbinds
    rfl
  rw [← hchildren] at hbinds
  exact ⟨h.fill hinOrder hid hcomes hinclude ⟨⟨ids, kind, hkind, rfl⟩, hbinds⟩, rfl, rfl⟩

theorem WalksTo.of_ok {α : Type} {numbered : α → List RuleId} {x : Except CompileError (α × State)}
    (h : WalksTo options g s numbered x) {a : α} (hx : x = .ok (a, s')) :
    Grows s s' ∧ InOrder options g s' := by
  cases h with
  | ok hgrows hinOrder _ =>
    obtain rfl := Except.ok.inj hx
    exact ⟨hgrows, hinOrder⟩
  | error _ => cases hx

/-- **The walk** binds each include to what it follows it to, through the repositories that are open where
it comes to the rule around it. -/
theorem bound_number (options : EngineOptions) (g : GrammarSpec) (limit : Nat) :
    (∀ repositories fuel address spec, Comes g repositories address spec → ∀ s id? s',
      InOrder options g s → AsFollowed options g s →
      (number ⟨g.scopeName, options, limit⟩ repositories fuel address spec).run s = .ok (id?, s') →
      AsFollowed options g s' ∧ ∃ target, Follows g repositories address spec target ∧
        HasNumber s'.numbers target id?) ∧
    ∀ repositories fuel parent index rules,
      (∀ i rule, rules[i]? = some rule → Comes g repositories (.pattern (index + i) :: parent) rule) →
      ∀ s ids s', InOrder options g s → AsFollowed options g s →
      (numberAll ⟨g.scopeName, options, limit⟩ repositories fuel parent index rules).run s =
        .ok (ids, s') →
      AsFollowed options g s' ∧ s.numbers ⊆ s'.numbers ∧
        Binds s'.numbers (Follows g repositories) parent index rules ids := by
  refine number.mutual_induct _ _ ?_ ?_ ?_ ?_
  · intro repositories address spec _ s id? s' _ _ hrun
    rw [run_number_zero] at hrun
    cases hrun
  · intro repositories fuel address spec hlisted hcomes s id? s' hinOrder hs hrun
    rw [run_number] at hrun
    obtain ⟨target, hfollow, hrun⟩ := exists_of_bind_ok hrun
    have hfollows : Follows g repositories address spec target := ⟨_, hfollow⟩
    cases target with
    | root =>
      obtain ⟨rfl, rfl⟩ := Prod.mk.inj (Except.ok.inj hrun)
      exact ⟨hs, .root, hfollows, .root⟩
    | nothing =>
      obtain ⟨rfl, rfl⟩ := Prod.mk.inj (Except.ok.inj hrun)
      exact ⟨hs, .nothing, hfollows, .nothing⟩
    | rule address' spec' =>
      dsimp only at hrun
      have hcomes' := hcomes.of_follow hfollow
      have hinclude := includeTarget_of_follow hfollow
      cases hid : s.numbers.lookup address' with
      | some id =>
        rw [hid] at hrun
        obtain ⟨rfl, rfl⟩ := Prod.mk.inj (Except.ok.inj hrun)
        obtain ⟨before, after, hnumbers, _⟩ := List.lookup_eq_some_iff.mp hid
        have hmem : (address', id) ∈ s.numbers :=
          hnumbers ▸ List.mem_append_right before List.mem_cons_self
        exact ⟨hs, _, hfollows, .rule hmem⟩
      | none =>
        rw [hid] at hrun
        dsimp only at hrun
        obtain ⟨⟨ids, s₁⟩, hinside, hrun⟩ := exists_of_bind_ok hrun
        obtain ⟨hopen, hplace⟩ := hcomes'.inFile
        have hentered := hinOrder.entered hid hplace hinclude
        -- the rules inside are followed with the repository of the rule open, and then it is filled in
        have hcomesInside : ∀ i rule, (listed spec')[i]? = some rule →
            Comes g (openRepository address' spec' repositories) (.pattern (0 + i) :: address') rule := by
          intro i rule hrule
          rw [Nat.zero_add]
          exact hcomes'.listed hrule
        obtain ⟨hs₁, _, hbinds⟩ := hlisted address' spec' hcomesInside _ _ _ hentered
          (hs.entered hinOrder hcomes' hinclude) hinside
        obtain ⟨hgrows, hinOrder₁⟩ := ((walksTo_number options g limit).2 _ _ _ _ _
          (inFile_openRepository hplace hopen) (listPlaces_listed_subset_places hplace) _
          hentered).of_ok hinside
        have hnoted : (address', s.rules.size) ∈ s₁.numbers :=
          hgrows.noted.subset List.mem_cons_self
        obtain ⟨hs', rfl, hnumbers⟩ := hs₁.finished hinOrder₁ hnoted hcomes' hinclude hbinds hrun
        refine ⟨hs', _, hfollows, .rule ?_⟩
        rw [hnumbers]
        exact hnoted
  · intro repositories fuel index parent _ s ids s' _ hs hrun
    rw [numberAll] at hrun
    obtain ⟨rfl, rfl⟩ := Prod.mk.inj (Except.ok.inj hrun)
    exact ⟨hs, List.Subset.refl _, .nil⟩
  · intro repositories fuel parent index spec rest hspec hrest hcomes s ids s' hinOrder hs hrun
    rw [run_numberAll_cons] at hrun
    obtain ⟨⟨id?, s₁⟩, hfirst, hrun⟩ := exists_of_bind_ok hrun
    obtain ⟨⟨ids', s₂⟩, hothers, hrun⟩ := exists_of_bind_ok hrun
    obtain ⟨rfl, rfl⟩ := Prod.mk.inj (Except.ok.inj hrun)
    have hcomesFirst : Comes g repositories (.pattern index :: parent) spec := hcomes 0 spec rfl
    have hcomesRest : ∀ i rule, rest[i]? = some rule →
        Comes g repositories (.pattern (index + 1 + i) :: parent) rule := by
      intro i rule hrule
      have hlater := hcomes (i + 1) rule hrule
      rwa [← Nat.add_assoc, Nat.add_right_comm] at hlater
    obtain ⟨hopen, hplace⟩ := hcomesFirst.inFile
    have hwalks := (walksTo_number options g limit).1 repositories fuel _ _ hopen hplace s hinOrder
    obtain ⟨hgrows, hinOrder₁⟩ := hwalks.of_ok hfirst
    obtain ⟨hs₁, target, hfollows, hnumber⟩ := hspec hcomesFirst s id? s₁ hinOrder hs hfirst
    obtain ⟨hs₂, hsubset, hbinds⟩ := hrest hcomesRest s₁ ids' s₂ hinOrder₁ hs₁ hothers
    exact ⟨hs₂, List.Subset.trans hgrows.noted.subset hsubset,
      .cons hfollows (hnumber.mono hsubset) hbinds⟩

/-! ### Compiled grammars -/

/-- The rules of a compiled grammar list what the walk followed their includes to. -/
theorem exists_boundGrammar {grammar : Grammar} (hcompile : Grammar.compile options g = .ok grammar) :
    ∃ s, InOrder options g s ∧ s.rules = grammar.rules.map some ∧
      BoundGrammar options g grammar s.numbers (Comes g) (Follows g) := by
  rcases compile_cases options g with ⟨e, he, _⟩ | ⟨grammar', s, hok, hwalk, hinOrder, hrules, _⟩
  · rw [he] at hcompile
    cases hcompile
  obtain rfl := Except.ok.inj (hok.symm.trans hcompile)
  refine ⟨s, hinOrder, hrules, ?_⟩
  rw [walk_eq] at hwalk
  obtain ⟨⟨ids, s₁⟩, hinside, hwalk⟩ := exists_of_bind_ok hwalk
  obtain ⟨_, hs⟩ := Prod.mk.inj (Except.ok.inj hwalk)
  have hnumbers : s.numbers = s₁.numbers := by rw [← hs]
  have hrules₁ : s.rules =
      s₁.rules.setIfInBounds Grammar.root (some { id := Grammar.root, kind := .group ids }) := by
    rw [← hs]
  have hcomes : ∀ i rule, g.patterns[i]? = some rule →
      Comes g (fileRepository g) (.pattern (0 + i) :: []) rule := by
    intro i rule hrule
    rw [Nat.zero_add]
    exact .pattern hrule
  have hstarted : AsFollowed options g State.started := by
    intro address id hid
    cases hid
  obtain ⟨hs₁, _, hbinds⟩ := (bound_number options g (specCount g)).2 (fileRepository g) _ [] 0
    g.patterns hcomes _ _ _ (inOrder_started options g) hstarted hinside
  have hfilled : ∀ (id : RuleId) (r : Rule), grammar'.rule? id = some r ↔
      s.rules[id]? = some (some r) := by
    intro id r
    rw [hrules, Array.getElem?_map, Grammar.rule?]
    simp
  constructor
  · refine ⟨{ id := Grammar.root, kind := .group ids }, (hfilled Grammar.root _).mpr ?_, ?_⟩
    · have hsize : 0 < s.rules.size := by
        rw [hinOrder.size_eq]
        exact Nat.succ_pos _
      rw [hrules₁, Array.size_setIfInBounds] at hsize
      rw [hrules₁]
      exact Array.getElem?_setIfInBounds_self_of_lt hsize
    · rw [hnumbers]
      exact hbinds
  · intro address id hid
    obtain ⟨hpos, hlt⟩ := hinOrder.id_lt hid
    rw [hnumbers] at hid ⊢
    obtain ⟨repositories, spec, hcomesTo, hinclude, hbound⟩ := hs₁ address id hid
    obtain ⟨r, hr⟩ : ∃ r, grammar'.rule? id = some r := by
      rw [hrules, Array.size_map] at hlt
      exact ⟨_, Array.getElem?_eq_getElem hlt⟩
    refine ⟨repositories, spec, r, hcomesTo, hinclude, hr, hbound r ?_⟩
    -- after the walk only the group of the whole file was filled in
    have hrule := (hfilled id r).mp hr
    have hne : Grammar.root ≠ id := Nat.ne_of_lt hpos
    rwa [hrules₁, Array.getElem?_setIfInBounds_ne hne] at hrule

/-- Where the walk follows includes to what they resolve to, they are bound to it. -/
theorem BoundGrammar.resolved {grammar : Grammar} (hfaithful : Faithful g)
    (h : BoundGrammar options g grammar numbers (Comes g) (Follows g)) :
    BoundGrammar options g grammar numbers (Stands g) (Resolves g) := by
  constructor
  · obtain ⟨r, hr, hbinds⟩ := h.root
    refine ⟨r, hr, hbinds.mono (List.Subset.refl _) ?_⟩
    rintro i rule target hrule ⟨fuel, hfollow⟩
    rw [Nat.zero_add] at hfollow ⊢
    exact resolves_of_follow hfaithful (.pattern hrule) (.pattern hrule) hfollow
  · intro address id hid
    obtain ⟨repositories, spec, r, hcomes, hinclude, hr, hbound⟩ := h.rules address id hid
    obtain ⟨⟨enclosing, hstands, _⟩, _⟩ := hcomes.stands
    refine ⟨enclosing, spec, r, hstands, hinclude, hr, hbound.made, ?_⟩
    refine hbound.binds.mono (List.Subset.refl _) ?_
    rintro i rule target hrule ⟨fuel, hfollow⟩
    rw [Nat.zero_add] at hfollow ⊢
    exact resolves_of_follow hfaithful (hcomes.listed hrule)
      (hstands.listed (getElem?_patterns_of_listed hrule)) hfollow

/-- **A compiled grammar** is made of the rules of the file that have its numbers. They list what their
includes lead to through the repositories that are open on some way on which the walk comes to them. If
includes are found the same everywhere, this is what they resolve to where they stand. That is determined
by the text, and takes no repository but those of the file and of rules around the include. -/
theorem compile_bound {grammar : Grammar} (hcompile : Grammar.compile options g = .ok grammar) :
    (∃ numbers : List (Address × RuleId),
      (numbers.map (·.1)).Nodup ∧ (numbers.map (·.2)).Nodup ∧
      (∀ id < grammar.rules.size, id = Grammar.root ∨ ∃ address, (address, id) ∈ numbers) ∧
      BoundGrammar options g grammar numbers (Comes g) (Follows g) ∧
      (Faithful g → BoundGrammar options g grammar numbers (Stands g) (Resolves g))) ∧
    ∀ repositories address spec, Stands g repositories address spec →
      (∀ repositories' spec', Stands g repositories' address spec' →
        repositories = repositories' ∧ spec = spec') ∧
      (∀ r ∈ repositories, r.address <:+ address.tail) ∧
      ∀ target target', Resolves g repositories address spec target →
        Resolves g repositories address spec target' → target = target' := by
  obtain ⟨s, hinOrder, hrules, hbound⟩ := exists_boundGrammar hcompile
  constructor
  · refine ⟨s.numbers, hinOrder.nodup, hinOrder.nodup_ids, fun id hid => ?_, hbound,
      fun h => hbound.resolved h⟩
    rcases Nat.eq_zero_or_pos id with hzero | hpos
    · exact Or.inl hzero
    · refine Or.inr (hinOrder.exists_address hpos ?_)
      rwa [hrules, Array.size_map]
  · intro repositories address spec hstands
    exact ⟨fun _ _ hstands' => hstands.unique hstands', hstands.encloses,
      fun _ _ h h' => h.unique h'⟩

/-! ### Files with local names -/

/-- A region with an entry of its own, which it includes. -/
def localRegion : RuleSpec where
  beginPattern := some "<"
  endPattern := some ">"
  patterns := some [{ includeTarget := some "#a" }]
  repository := some [("a", { matchPattern := some "x" })]

/-- A file with this region, in which the entry hides one of the file. -/
def localSpec : GrammarSpec where
  scopeName := "source.local"
  patterns := [localRegion, { includeTarget := some "#a" }]
  repository := [("a", { matchPattern := some "y" })]

/-- All places of the file, with the repositories that enclose them. -/
theorem stands_localSpec {repositories : List Repository} {address : Address} {spec : RuleSpec}
    (h : Stands localSpec repositories address spec) :
    (repositories, address, spec) ∈ [
      (fileRepository localSpec, [.pattern 0], localRegion),
      (fileRepository localSpec, [.pattern 1], { includeTarget := some "#a" }),
      (fileRepository localSpec, [.named "a"], { matchPattern := some "y" }),
      (openRepository [.pattern 0] localRegion (fileRepository localSpec),
        [.pattern 0, .pattern 0], { includeTarget := some "#a" }),
      (openRepository [.pattern 0] localRegion (fileRepository localSpec),
        [.named "a", .pattern 0], { matchPattern := some "x" })] := by
  have hname : ∀ {name : String} {entry rule : RuleSpec}, List.lookup name [("a", entry)] = some rule →
      name = "a" ∧ rule = entry := by
    intro name entry rule hrule
    by_cases hname : name = "a"
    · subst hname
      exact ⟨rfl, (Option.some.inj hrule).symm⟩
    · rw [List.lookup_cons, beq_eq_false_iff_ne.mpr hname] at hrule
      cases hrule
  induction h with
  | @pattern i rule hrule =>
    rcases i with _ | _ | i
    · obtain rfl := Option.some.inj hrule
      simp
    · obtain rfl := Option.some.inj hrule
      simp
    · cases hrule
  | entry hrule =>
    obtain ⟨rfl, rfl⟩ := hname hrule
    simp
  | @listed _ _ _ rule i _ hrule ih =>
    simp only [List.mem_cons, Prod.mk.injEq, List.not_mem_nil, or_false] at ih
    obtain ⟨rfl, rfl, rfl⟩ | ⟨_, _, rfl⟩ | ⟨_, _, rfl⟩ | ⟨_, _, rfl⟩ | ⟨_, _, rfl⟩ := ih
    · rcases i with _ | i
      · obtain rfl := Option.some.inj hrule
        simp
      · cases hrule
    all_goals cases hrule
  | kept _ hrule ih =>
    simp only [List.mem_cons, Prod.mk.injEq, List.not_mem_nil, or_false] at ih
    obtain ⟨rfl, rfl, rfl⟩ | ⟨_, _, rfl⟩ | ⟨_, _, rfl⟩ | ⟨_, _, rfl⟩ | ⟨_, _, rfl⟩ := ih
    · obtain ⟨rfl, rfl⟩ := hname hrule
      simp
    all_goals cases hrule

/-- Each include leads to what the same repositories enclose. -/
theorem faithful_localSpec : Faithful localSpec := by
  refine faithful_of_stands fun repositories address spec entry hstands hnext => ?_
  have hplace := stands_localSpec hstands
  simp only [List.mem_cons, Prod.mk.injEq, List.not_mem_nil, or_false] at hplace
  obtain ⟨_, _, rfl⟩ | ⟨rfl, rfl, rfl⟩ | ⟨_, _, rfl⟩ | ⟨rfl, rfl, rfl⟩ | ⟨_, _, rfl⟩ := hplace
  · cases hnext
  · obtain rfl := Option.some.inj hnext
    exact .entry rfl
  · cases hnext
  · obtain rfl := Option.some.inj hnext
    exact .kept (.pattern rfl) rfl
  · cases hnext

theorem compile_bound_local :
    Faithful localSpec ∧ ∃ grammar, Grammar.compile {} localSpec = .ok grammar ∧
      ∃ numbers, BoundGrammar {} localSpec grammar numbers (Stands localSpec) (Resolves localSpec) := by
  obtain ⟨grammar, hgrammar⟩ : ∃ grammar, Grammar.compile {} localSpec = .ok grammar := by
    rw [compile_eq_compute]
    exact ⟨_, rfl⟩
  obtain ⟨⟨numbers, _, _, _, _, hbound⟩, _⟩ := compile_bound hgrammar
  exact ⟨faithful_localSpec, grammar, hgrammar, numbers, hbound faithful_localSpec⟩

/-- An entry that includes another one by its name. -/
def sharedRule : RuleSpec where
  name := some "shared"
  patterns := some [{ includeTarget := some "#x" }]

/-- The entry that it includes. -/
def outerRule : RuleSpec where
  name := some "outer"
  matchPattern := some "x"

/-- A file with these entries, whose region has an entry of the same name. -/
def leakingSpec : GrammarSpec where
  scopeName := "source.leak"
  patterns := [
    { name := some "region", beginPattern := some "<", endPattern := some ">"
      patterns := some [{ includeTarget := some "#shared" }]
      repository := some [("x", { name := some "inner", matchPattern := some "x" })] },
    { includeTarget := some "#shared" }]
  repository := [("shared", sharedRule), ("x", outerRule)]

/-- No rule of the compiled grammar is made of the entry of the file. -/
theorem compile_leakingSpec : ∃ grammar, Grammar.compile {} leakingSpec = .ok grammar ∧
    grammar.rules.toList.map (·.name) = [none, some "region", some "shared", some "inner"] := by
  rw [compile_eq_compute]
  exact ⟨_, rfl, rfl⟩

/-- **Not all includes** are bound to what they resolve to: the walk comes to the shared entry from inside
the region first, so that it is bound, for the whole file, to what only the region has. -/
theorem not_always_resolved : ¬ ∀ (options : EngineOptions) (g : GrammarSpec) (grammar : Grammar),
    ¬ MeetsEndless options g → Grammar.compile options g = .ok grammar →
    ∃ numbers, BoundGrammar options g grammar numbers (Stands g) (Resolves g) := by
  intro hall
  obtain ⟨grammar, hcompile, hnames⟩ := compile_leakingSpec
  have hends : ¬ MeetsEndless {} leakingSpec := by
    intro hmeets
    cases hcompile.symm.trans (compile_eq_endlessInclude_iff.mpr hmeets)
  obtain ⟨numbers, hbound⟩ := hall {} leakingSpec grammar hends hcompile
  -- the second pattern of the file is bound to the shared entry
  have hshared : Resolves leakingSpec (fileRepository leakingSpec) [.pattern 1]
      { includeTarget := some "#shared" } (.rule [.named "shared"] sharedRule) :=
    .leads rfl (.entry rfl) (.ends rfl)
  obtain ⟨id, hid⟩ : ∃ id, ([.named "shared"], id) ∈ numbers := by
    obtain ⟨_, _, hbinds⟩ := hbound.root
    obtain ⟨target, _, htarget, hnumber, _⟩ := hbinds.exists_target (i := 1) rfl
    obtain rfl := htarget.unique hshared
    cases hnumber with
    | rule hid => exact ⟨_, hid⟩
  -- and what that includes is bound to the entry of the file
  have houter : Resolves leakingSpec (fileRepository leakingSpec) [.pattern 0, .named "shared"]
      { includeTarget := some "#x" } (.rule [.named "x"] outerRule) :=
    .leads rfl (.entry rfl) (.ends rfl)
  obtain ⟨id', hid'⟩ : ∃ id, ([.named "x"], id) ∈ numbers := by
    obtain ⟨_, _, _, hstands, _, _, hr⟩ := hbound.rules _ _ hid
    obtain ⟨rfl, rfl⟩ := hstands.unique (.entry rfl : Stands leakingSpec _ _ sharedRule)
    obtain ⟨target, _, htarget, hnumber, _⟩ := hr.binds.exists_target (i := 0) rfl
    obtain rfl := htarget.unique houter
    cases hnumber with
    | rule hid => exact ⟨_, hid⟩
  obtain ⟨_, _, r, hstands, _, hr, hrule⟩ := hbound.rules _ _ hid'
  obtain ⟨rfl, rfl⟩ := hstands.unique (.entry rfl : Stands leakingSpec _ _ outerRule)
  obtain ⟨_, _, _, rfl⟩ := hrule.made
  have hname : some "outer" ∈ grammar.rules.toList.map (·.name) :=
    List.mem_map_of_mem (Array.mem_toList_iff.mpr (Array.mem_of_getElem? hr))
  rw [hnames] at hname
  exact absurd hname (by decide)

end Tincture.Compile
