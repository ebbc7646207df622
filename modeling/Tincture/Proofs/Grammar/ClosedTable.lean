import Mathlib.Data.List.Nodup
import Tincture.Proofs.Grammar.Computed
import Tincture.Proofs.Grammar.RuleTable

/-!
# Closed rule tables

A rule gets its number before the rules inside it have theirs, and is filled in after them. So while
the walk through a file goes on, there are numbers without a rule, and rules that list such numbers.
When a part of the walk is over, all numbers that it gave have rules and the earlier ones are as
they were (`Grows`), and each number is that of one rule of the file, which has no other (`InOrder`).
What can go wrong on the way is wrong with a rule of the file by itself (`Fault`), or the walk met
includes that lead on for ever (`walksTo_number`).

So a compiled grammar is closed (`Grammar.Closed`): its rules list numbers of the table only, and a
number without a rule is never reported (`compile_closed`).
-/

namespace Tincture

/-- The numbers in a grammar are those of its rules, and each rule stands under its own. -/
structure Grammar.Closed (g : Grammar) : Prop where
  id_eq : ∀ id r, g.rule? id = some r → r.id = id
  root : ∃ patterns, g.rule? Grammar.root = some { id := Grammar.root, kind := .group patterns }
  children : ∀ r ∈ g.rules, ∀ child ∈ r.kind.children, child < g.rules.size
  scanners_size : g.scanners.size = g.rules.size
  targets : ∀ id s, g.scanner? id = some s → ∀ target ∈ s.rules, target < g.rules.size

namespace Compile

/-! ### What is wrong with a rule -/

/-- A rule begins a region, and neither ends it nor says how long it goes on. -/
def Unended (spec : RuleSpec) (begins : String) : Prop :=
  spec.matchPattern = none ∧ spec.beginPattern = some begins ∧ spec.endPattern = none ∧
    spec.whilePattern = none

/-- The captures that are read for a rule. -/
def readCaptures (spec : RuleSpec) : List (Option CaptureSpecs) :=
  match spec.matchPattern, spec.beginPattern with
  | some _, _ => [spec.captures]
  | none, some _ =>
    [spec.beginCaptures.or spec.captures,
      (if spec.endPattern.isSome then spec.endCaptures else spec.whileCaptures).or spec.captures]
  | none, none => []

/-- Captures name a group whose number is too large for a table of names. -/
def NamesBeyond (captures : Option CaptureSpecs) (n : Nat) : Prop :=
  CaptureNames.capacity ≤ n ∧ ∃ entries, captures = some entries ∧
    ∃ entry ∈ entries, Text.word? entry.1.toList = some n

/-- What is wrong with a rule by itself. -/
inductive Fault (spec : RuleSpec) : CompileError → Prop
  | unended {begins : String} (h : Unended spec begins) : Fault spec (.noEnd begins)
  | namesBeyond {captures : Option CaptureSpecs} {n : Nat} (hread : captures ∈ readCaptures spec)
      (h : NamesBeyond captures n) : Fault spec (.captureOverflow n)

/-- Of two parts one after the other the first fails, or the second does. -/
theorem error_of_bind_error {ε α β : Type} {x : Except ε α} {f : α → Except ε β} {e : ε}
    (h : x >>= f = .error e) : x = .error e ∨ ∃ a, x = .ok a ∧ f a = .error e := by
  cases x with
  | error e' => exact Or.inl (congrArg Except.error (Except.error.inj h))
  | ok a => exact Or.inr ⟨a, rfl, h⟩

/-- Where names break off, a number is too large for their table. -/
theorem namesBeyond_of_captureNames {captures : Option CaptureSpecs} {e : CompileError}
    (h : captureNames captures = .error e) :
    ∃ n, e = .captureOverflow n ∧ NamesBeyond captures n := by
  cases captures with
  | none => cases h
  | some entries =>
    suffices hkey : ∃ n, e = .captureOverflow n ∧ CaptureNames.capacity ≤ n ∧
        ∃ entry ∈ entries, Text.word? entry.1.toList = some n by
      obtain ⟨n, he, hcapacity, hentry⟩ := hkey
      exact ⟨n, he, hcapacity, entries, rfl, hentry⟩
    rw [captureNames] at h
    generalize ({} : CaptureNames) = names at h
    induction entries generalizing names with
    | nil => cases h
    | cons entry rest ih =>
      obtain ⟨key, capture⟩ := entry
      rw [List.foldlM_cons] at h
      rcases error_of_bind_error h with hfirst | ⟨names', _, hrest⟩
      · dsimp only at hfirst
        split at hfirst
        · cases hfirst
        · rename_i n hn
          split at hfirst
          · rename_i hover
            exact ⟨n, (Except.error.inj hfirst).symm, hover.2, _, List.mem_cons_self, hn⟩
          · cases hfirst
      · obtain ⟨n, he, hcapacity, entry, hentry, hn⟩ := ih names' hrest
        exact ⟨n, he, hcapacity, entry, List.mem_cons_of_mem _ hentry, hn⟩

/-- It cannot be said what a rule does only if something is wrong with the rule by itself. -/
theorem fault_of_kindOf {options : EngineOptions} {spec : RuleSpec} {children : List RuleId}
    {e : CompileError} (h : kindOf options spec children = .error e) : Fault spec e := by
  have hfault : ∀ {captures}, captures ∈ readCaptures spec →
      captureNames captures = .error e → Fault spec e := by
    intro captures hread herror
    obtain ⟨_, rfl, hbeyond⟩ := namesBeyond_of_captureNames herror
    exact .namesBeyond hread hbeyond
  unfold kindOf at h
  dsimp only at h
  split at h
  · rename_i source _ hmatch
    rcases error_of_bind_error h with h | ⟨_, _, h⟩
    · exact hfault (by simp [readCaptures, hmatch]) h
    · cases h
  · rename_i begins hmatch hbegin
    split at h
    · rename_i stop _ hend
      rcases error_of_bind_error h with h | ⟨_, _, h⟩
      · exact hfault (by simp [readCaptures, hmatch, hbegin]) h
      · rcases error_of_bind_error h with h | ⟨_, _, h⟩
        · exact hfault (by simp [readCaptures, hmatch, hbegin, hend]) h
        · cases h
    · rename_i condition hend hwhile
      rcases error_of_bind_error h with h | ⟨_, _, h⟩
      · exact hfault (by simp [readCaptures, hmatch, hbegin]) h
      · rcases error_of_bind_error h with h | ⟨_, _, h⟩
        · exact hfault (by simp [readCaptures, hmatch, hbegin, hend]) h
        · cases h
    · rename_i hend hwhile
      obtain rfl := Except.error.inj h
      exact .unended ⟨hmatch, hbegin, hend, hwhile⟩
  · cases h

/-- A rule lists what was numbered inside it. -/
theorem children_of_kindOf {options : EngineOptions} {spec : RuleSpec} {children : List RuleId}
    {kind : RuleKind} (h : kindOf options spec children = .ok kind) : kind.children ⊆ children := by
  unfold kindOf at h
  dsimp only at h
  split at h
  · obtain ⟨captures, _, h⟩ := exists_of_bind_ok h
    obtain rfl := Except.ok.inj h
    exact List.nil_subset _
  · split at h
    · obtain ⟨beginCaptures, _, h⟩ := exists_of_bind_ok h
      obtain ⟨endCaptures, _, h⟩ := exists_of_bind_ok h
      obtain rfl := Except.ok.inj h
      exact List.Subset.refl _
    · obtain ⟨beginCaptures, _, h⟩ := exists_of_bind_ok h
      obtain ⟨whileCaptures, _, h⟩ := exists_of_bind_ok h
      obtain rfl := Except.ok.inj h
      exact List.Subset.refl _
    · cases h
  · obtain rfl := Except.ok.inj h
    exact List.Subset.refl _

/-! ### Numbers with rules -/

/-- A part of the walk leaves the rules and numbers before it as they were, and fills in all that it
numbers. -/
structure Grows (s s' : State) : Prop where
  size_le : s.rules.size ≤ s'.rules.size
  kept : ∀ id < s.rules.size, s'.rules[id]? = s.rules[id]?
  filled : ∀ id < s'.rules.size, s.rules.size ≤ id → ∃ r, s'.rules[id]? = some (some r)
  noted : s.numbers <:+ s'.numbers

namespace Grows

variable {s s₁ s₂ : State}

theorem refl (s : State) : Grows s s where
  size_le := Nat.le_refl _
  kept := fun _ _ => rfl
  filled := fun _ hlt hle => absurd hlt (Nat.not_lt.mpr hle)
  noted := List.suffix_refl _

theorem trans (h : Grows s s₁) (h' : Grows s₁ s₂) : Grows s s₂ where
  size_le := Nat.le_trans h.size_le h'.size_le
  kept := fun id hid =>
    (h'.kept id (Nat.lt_of_lt_of_le hid h.size_le)).trans (h.kept id hid)
  filled := by
    intro id hlt hle
    by_cases hid : id < s₁.rules.size
    · rw [h'.kept id hid]
      exact h.filled id hid hle
    · exact h'.filled id hlt (Nat.le_of_not_lt hid)
  noted := h.noted.trans h'.noted

/-- A rule that is filled in behind the rules inside it has its number no longer in vain. -/
theorem fill {address : Address} (h : Grows (s.entered address) s₁) (rule : Rule) :
    Grows s { s₁ with rules := s₁.rules.setIfInBounds s.rules.size (some rule) } := by
  have hsize : s.rules.size < s₁.rules.size := by
    have hle := h.size_le
    rwa [State.entered, Array.size_push] at hle
  constructor
  · rw [Array.size_setIfInBounds]
    exact Nat.le_of_lt hsize
  · intro id hid
    have hpush : (s.entered address).rules[id]? = s.rules[id]? := by
      rw [State.entered, Array.getElem?_push, if_neg (Nat.ne_of_lt hid)]
    rw [Array.getElem?_setIfInBounds_ne (Nat.ne_of_gt hid), ← hpush]
    exact h.kept id (by rw [State.entered, Array.size_push]; omega)
  · intro id hlt hle
    rw [Array.size_setIfInBounds] at hlt
    by_cases heq : s.rules.size = id
    · subst heq
      exact ⟨rule, Array.getElem?_setIfInBounds_self_of_lt hsize⟩
    · rw [Array.getElem?_setIfInBounds_ne heq]
      exact h.filled id hlt (by rw [State.entered, Array.size_push]; omega)
  · exact (List.suffix_cons _ _).trans h.noted

end Grows

/-! ### Numbers of rules of the file -/

/-- The rule that is made of a rule of the file. -/
def MadeOf (options : EngineOptions) (spec : RuleSpec) (id : RuleId) (r : Rule) : Prop :=
  ∃ children kind, kindOf options spec children = .ok kind ∧
    r = { id, name := spec.name, contentName := spec.contentName, kind }

/-- Behind the first number, which stands for the file, each number is that of one rule of the file
that is no include, and no rule has two. The rule under a number is made of the one that has it, and
rules list such numbers only. -/
structure InOrder (options : EngineOptions) (g : GrammarSpec) (s : State) : Prop
    extends Noted g s where
  size_eq : s.rules.size = s.numbers.length + 1
  ids : s.numbers.map (·.2) = (List.range s.numbers.length).reverse.map (· + 1)
  ofFile : ∀ address id, (address, id) ∈ s.numbers → ∃ spec, (address, spec) ∈ places g ∧
    spec.includeTarget = none ∧
      ∀ r : Rule, s.rules[id]? = some (some r) → MadeOf options spec id r
  children : ∀ (id : RuleId) (r : Rule), s.rules[id]? = some (some r) →
    ∀ child ∈ r.kind.children, child < s.rules.size

section InOrder

variable {options : EngineOptions} {g : GrammarSpec} {s : State}

theorem InOrder.id_lt (h : InOrder options g s) {address : Address} {id : RuleId}
    (hid : (address, id) ∈ s.numbers) : 0 < id ∧ id < s.rules.size := by
  have hmem : id ∈ s.numbers.map (·.2) := List.mem_map_of_mem hid
  rw [h.ids] at hmem
  simp only [List.mem_map, List.mem_reverse, List.mem_range] at hmem
  obtain ⟨n, hn, rfl⟩ := hmem
  rw [h.size_eq]
  exact ⟨Nat.succ_pos n, Nat.succ_lt_succ hn⟩

/-- Each number but the first is that of a rule. -/
theorem InOrder.exists_address (h : InOrder options g s) {id : RuleId} (hpos : 0 < id)
    (hlt : id < s.rules.size) : ∃ address, (address, id) ∈ s.numbers := by
  rw [h.size_eq] at hlt
  have hrange : id - 1 ∈ (List.range s.numbers.length).reverse :=
    List.mem_reverse.mpr (List.mem_range.mpr (Nat.sub_one_lt_of_le hpos (Nat.le_of_lt_succ hlt)))
  have hmem : id ∈ s.numbers.map (·.2) := by
    rw [h.ids]
    exact List.mem_map.mpr ⟨id - 1, hrange, Nat.succ_pred_eq_of_pos hpos⟩
  obtain ⟨⟨address, _⟩, haddress, rfl⟩ := List.mem_map.mp hmem
  exact ⟨address, haddress⟩

theorem InOrder.nodup_ids (h : InOrder options g s) : (s.numbers.map (·.2)).Nodup := by
  rw [h.ids]
  exact (List.nodup_reverse.mpr List.nodup_range).map fun _ _ => Nat.succ.inj

/-- No two rules have one number. -/
theorem InOrder.address_eq (h : InOrder options g s) {address address' : Address} {id : RuleId}
    (hid : (address, id) ∈ s.numbers) (hid' : (address', id) ∈ s.numbers) :
    address = address' :=
  congrArg Prod.fst (List.inj_on_of_nodup_map h.nodup_ids hid hid' rfl)

theorem InOrder.entered (h : InOrder options g s) {address : Address} {spec : RuleSpec}
    (hnew : s.numbers.lookup address = none) (hplace : (address, spec) ∈ places g)
    (hinclude : spec.includeTarget = none) : InOrder options g (s.entered address) where
  toNoted := h.toNoted.entered hnew hplace
  size_eq := by rw [State.entered, Array.size_push, List.length_cons, h.size_eq]
  ids := by
    rw [State.entered, List.map_cons, List.length_cons, List.range_succ, List.reverse_append,
      h.ids, h.size_eq]
    rfl
  ofFile := by
    intro address' id hid
    rcases List.mem_cons.mp hid with heq | hid
    · obtain ⟨rfl, rfl⟩ := Prod.mk.inj heq
      refine ⟨spec, hplace, hinclude, fun r hr => ?_⟩
      rw [State.entered, Array.getElem?_push_size] at hr
      cases Option.some.inj hr
    · obtain ⟨spec', hplace', hinclude', hmade⟩ := h.ofFile address' id hid
      refine ⟨spec', hplace', hinclude', fun r hr => hmade r ?_⟩
      rwa [State.entered, Array.getElem?_push, if_neg (Nat.ne_of_lt (h.id_lt hid).2)] at hr
  children := by
    intro id r hr child hchild
    rw [State.entered, Array.getElem?_push] at hr
    split at hr
    · cases Option.some.inj hr
    · rw [State.entered, Array.size_push]
      exact Nat.lt_succ_of_lt (h.children id r hr child hchild)

/-- Filling in a rule that is made of the rule that has its number, if one has. -/
theorem InOrder.fill (h : InOrder options g s) {id : RuleId} {r : Rule}
    (hmade : ∀ address, (address, id) ∈ s.numbers → ∃ spec, (address, spec) ∈ places g ∧
      spec.includeTarget = none ∧ MadeOf options spec id r)
    (hchildren : ∀ child ∈ r.kind.children, child < s.rules.size) :
    InOrder options g { s with rules := s.rules.setIfInBounds id (some r) } where
  toNoted := ⟨h.nodup, h.subset⟩
  size_eq := by rw [Array.size_setIfInBounds, h.size_eq]
  ids := h.ids
  ofFile := by
    intro address id' hid'
    by_cases heq : id = id'
    · subst heq
      obtain ⟨spec, hplace, hinclude, hmade⟩ := hmade address hid'
      refine ⟨spec, hplace, hinclude, fun r' hr' => ?_⟩
      rw [Array.getElem?_setIfInBounds_self_of_lt (h.id_lt hid').2] at hr'
      rwa [← Option.some.inj (Option.some.inj hr')]
    · obtain ⟨spec, hplace, hinclude, hmade⟩ := h.ofFile address id' hid'
      refine ⟨spec, hplace, hinclude, fun r' hr' => hmade r' ?_⟩
      rwa [Array.getElem?_setIfInBounds_ne heq] at hr'
  children := by
    intro id' r' hr' child hchild
    rw [Array.size_setIfInBounds]
    rw [Array.getElem?_setIfInBounds] at hr'
    split at hr'
    · split at hr'
      · obtain rfl := Option.some.inj (Option.some.inj hr')
        exact hchildren child hchild
      · cases hr'
    · exact h.children id' r' hr' child hchild

end InOrder

/-! ### The walk -/

/-- A part of the walk fills in what it numbers, and gives numbers only; or it fails, at includes
that lead on for ever or at a rule of the file with which something is wrong. -/
inductive WalksTo {α : Type} (options : EngineOptions) (g : GrammarSpec) (s : State)
    (numbered : α → List RuleId) : Except CompileError (α × State) → Prop
  | ok {x} (grows : Grows s x.2) (inOrder : InOrder options g x.2)
      (ids : ∀ id ∈ numbered x.1, id < x.2.rules.size) : WalksTo options g s numbered (.ok x)
  | error {e} (h : e = .endlessInclude ∨
      ∃ place ∈ places g, place.2.includeTarget = none ∧ Fault place.2 e) :
      WalksTo options g s numbered (.error e)

section WalksTo

variable {options : EngineOptions} {g : GrammarSpec} {s : State}

/-- What two parts lead to one after the other. -/
theorem WalksTo.bind {α β : Type} {numbered : α → List RuleId} {numbered' : β → List RuleId}
    {x : Except CompileError (α × State)} {f : α × State → Except CompileError (β × State)}
    (hx : WalksTo options g s numbered x)
    (hf : ∀ y, Grows s y.2 → InOrder options g y.2 → (∀ id ∈ numbered y.1, id < y.2.rules.size) →
      WalksTo options g s numbered' (f y)) : WalksTo options g s numbered' (x >>= f) := by
  cases hx with
  | ok hgrows hinOrder hids => exact hf _ hgrows hinOrder hids
  | error h => exact .error h

theorem WalksTo.number_of_ok {id? : Option RuleId} (h : InOrder options g s)
    (hid : ∀ id ∈ id?, id < s.rules.size) :
    WalksTo options g s Option.toList (.ok (id?, s)) :=
  .ok (.refl s) h fun id hmem => hid id (Option.mem_toList.mp hmem)

/-- A rule is filled in when the rules inside it have their numbers. -/
theorem WalksTo.finished {inside : Except CompileError (List RuleId × State)} {address : Address}
    {spec : RuleSpec} (h : WalksTo options g (s.entered address) id inside)
    (hplace : (address, spec) ∈ places g) (hinclude : spec.includeTarget = none) :
    WalksTo options g s Option.toList
      (inside >>= Compile.finished options spec s.rules.size) := by
  cases h with
  | error h => exact .error h
  | @ok x hgrows hinOrder hids =>
    change WalksTo options g s Option.toList (Compile.finished options spec s.rules.size x)
    unfold Compile.finished
    cases hkind : kindOf options spec x.1 with
    | error e => exact .error (Or.inr ⟨_, hplace, hinclude, fault_of_kindOf hkind⟩)
    | ok kind =>
      have hnoted : (address, s.rules.size) ∈ x.2.numbers := hgrows.noted.subset List.mem_cons_self
      refine .ok (hgrows.fill _) (hinOrder.fill (fun other hother => ?_) ?_) fun id hid => ?_
      · obtain rfl := hinOrder.address_eq hnoted hother
        exact ⟨spec, hplace, hinclude, x.1, kind, hkind, rfl⟩
      · exact fun child hchild => hids child (children_of_kindOf hkind hchild)
      · obtain rfl := List.mem_singleton.mp hid
        rw [Array.size_setIfInBounds]
        exact (hinOrder.id_lt hnoted).2

end WalksTo

/-- **The walk** through a file numbers rules of the file, fills in each rule that it numbers, and
fails for no other reason than includes that lead on for ever or a rule of the file. -/
theorem walksTo_number (options : EngineOptions) (g : GrammarSpec) (limit : Nat) :
    (∀ repositories fuel address spec, (∀ r ∈ repositories, InFile g r) →
      (address, spec) ∈ places g → ∀ s, InOrder options g s →
      WalksTo options g s Option.toList
        ((number ⟨g.scopeName, options, limit⟩ repositories fuel address spec).run s)) ∧
    ∀ repositories fuel parent index rules, (∀ r ∈ repositories, InFile g r) →
      listPlaces parent index rules ⊆ places g → ∀ s, InOrder options g s →
      WalksTo options g s id
        ((numberAll ⟨g.scopeName, options, limit⟩ repositories fuel parent index rules).run s) := by
  refine number.mutual_induct _ _ ?_ ?_ ?_ ?_
  · intro repositories address spec _ _ s _
    rw [run_number_zero]
    exact .error (Or.inl rfl)
  · intro repositories fuel address spec hlisted hopen hspec s hs
    have hentries : ∀ name entry, lookUp name repositories = some entry → entry ∈ places g :=
      fun _ _ => mem_places_of_lookUp hopen
    rw [run_number]
    cases hfollow : follow g.scopeName repositories (limit + 1) address spec with
    | error e => exact .error (Or.inl (eq_endlessInclude_of_follow hfollow))
    | ok target =>
      cases target with
      | root =>
        refine .number_of_ok hs fun id hid => ?_
        obtain rfl := Option.mem_some.mp hid
        rw [hs.size_eq]
        exact Nat.succ_pos _
      | nothing => exact .number_of_ok hs fun id hid => absurd hid (Option.not_mem_none id)
      | rule address' spec' =>
        have hspec' := mem_of_follow hentries hspec hfollow
        have hinclude := includeTarget_of_follow hfollow
        simp only [bind, Except.bind]
        cases hid : s.numbers.lookup address' with
        | some id =>
          refine .number_of_ok hs fun id' hid' => ?_
          obtain rfl := Option.mem_some.mp hid'
          obtain ⟨before, after, hnumbers, _⟩ := List.lookup_eq_some_iff.mp hid
          exact (hs.id_lt (hnumbers ▸ List.mem_append_right before List.mem_cons_self)).2
        | none =>
          -- the rules inside come next, and then the rule itself is filled in
          have hinside := hlisted address' spec' (inFile_openRepository hspec' hopen)
            (listPlaces_listed_subset_places hspec') (s.entered address')
            (hs.entered hid hspec' hinclude)
          exact hinside.finished hspec' hinclude
  · intro repositories fuel index parent _ _ s hs
    rw [numberAll]
    exact .ok (.refl s) hs fun id hid => absurd hid List.not_mem_nil
  · intro repositories fuel parent index spec rest hspec hrest hopen hsubset s hs
    obtain ⟨hhere, hothers⟩ := List.append_subset.mp hsubset
    rw [run_numberAll_cons]
    have hnumbered := hspec hopen (hhere (self_mem_rulePlaces _ _)) s hs
    refine hnumbered.bind fun first hgrows hfirst hids => ?_
    have hlater := hrest hopen hothers first.2 hfirst
    generalize (numberAll _ _ _ _ _ _).run first.2 = others at hlater
    cases hlater with
    | error h => exact .error h
    | ok hgrows' hinOrder hids' =>
      refine .ok (hgrows.trans hgrows') hinOrder fun id hid => ?_
      rcases List.mem_append.mp hid with hid | hid
      · exact Nat.lt_of_lt_of_le (hids id hid) hgrows'.size_le
      · exact hids' id hid

/-- When the patterns of a file are numbered, no rule has a number yet. -/
theorem inOrder_started (options : EngineOptions) (g : GrammarSpec) :
    InOrder options g State.started := by
  refine ⟨⟨List.nodup_nil, List.nil_subset _⟩, rfl, rfl,
    fun _ _ hid => absurd hid List.not_mem_nil, fun id r hr => ?_⟩
  cases id <;> simp [State.started] at hr

/-- The walk through a file leaves no number without a rule. -/
theorem walk_cases (options : EngineOptions) (g : GrammarSpec) (limit : Nat) :
    (∃ e, walk options g limit = .error e ∧ (e = .endlessInclude ∨
      ∃ place ∈ places g, place.2.includeTarget = none ∧ Fault place.2 e)) ∨
    ∃ s, walk options g limit = .ok ((), s) ∧ InOrder options g s ∧
      ∀ id < s.rules.size, ∃ r, s.rules[id]? = some (some r) := by
  have hstarted := inOrder_started options g
  have hinside := (walksTo_number options g limit).2 [⟨[], g.repository⟩] (limit + 1) [] 0
    g.patterns (inFile_repository g) (List.subset_append_left _ _) State.started hstarted
  rw [walk_eq]
  generalize (numberAll _ _ _ _ _ _).run State.started = inside at hinside
  cases hinside with
  | error h => exact Or.inl ⟨_, rfl, h⟩
  | @ok x hgrows hinOrder hids =>
    have hroot : Grammar.root < x.2.rules.size := by
      rw [hinOrder.size_eq]
      exact Nat.succ_pos _
    refine Or.inr ⟨_, rfl, hinOrder.fill (fun address hid => ?_) hids, fun id hid => ?_⟩
    · exact absurd (hinOrder.id_lt hid).1 (Nat.lt_irrefl 0)
    · rw [Array.size_setIfInBounds] at hid
      by_cases heq : Grammar.root = id
      · subst heq
        exact ⟨_, Array.getElem?_setIfInBounds_self_of_lt hroot⟩
      · rw [Array.getElem?_setIfInBounds_ne heq]
        exact hgrows.filled id hid (Nat.pos_of_ne_zero (Ne.symm heq))

/-! ### The table -/

theorem exists_mapM_ok {ε α β : Type} {f : α → Except ε β} {as : List α}
    (h : ∀ a ∈ as, ∃ b, f a = .ok b) : ∃ bs, as.mapM f = .ok bs := by
  induction as with
  | nil => exact ⟨[], rfl⟩
  | cons a as ih =>
    obtain ⟨hfirst, hrest⟩ := List.forall_mem_cons.mp h
    obtain ⟨b, hb⟩ := hfirst
    obtain ⟨bs, hbs⟩ := ih hrest
    exact ⟨b :: bs, by rw [List.mapM_cons, hb, hbs]; rfl⟩

/-- If each number has a rule, these rules are the table. -/
theorem exists_ruleTable {rules : Array (Option Rule)}
    (h : ∀ id < rules.size, ∃ r, rules[id]? = some (some r)) :
    ∃ table, ruleTable rules = .ok table ∧ rules = table.toArray.map some := by
  obtain ⟨table, htable⟩ : ∃ table, ruleTable rules = .ok table := by
    refine exists_mapM_ok ?_
    rintro ⟨rule, id⟩ hentry
    rw [List.mem_zipIdx_iff_getElem?, Array.getElem?_toList] at hentry
    obtain ⟨r, hr⟩ := h id (Array.getElem?_eq_some_iff.mp hentry).1
    obtain rfl : rule = some r := Option.some.inj (hentry.symm.trans hr)
    exact ⟨r, rfl⟩
  refine ⟨table, htable, Array.ext_getElem? fun id => ?_⟩
  have hmap : (table.toArray.map some)[id]? = table[id]?.map some := by
    rw [Array.getElem?_map, List.getElem?_toArray]
  rw [hmap]
  by_cases hid : id < rules.size
  · obtain ⟨r, hr⟩ := h id hid
    rw [hr, ruleTable_getElem? htable hr]
    rfl
  · rw [Array.getElem?_eq_none (Nat.le_of_not_lt hid),
      List.getElem?_eq_none (by rw [length_ruleTable htable]; exact Nat.le_of_not_lt hid)]
    rfl

/-- What compiling a grammar leads to. -/
theorem compile_cases (options : EngineOptions) (g : GrammarSpec) :
    (∃ e, Grammar.compile options g = .error e ∧ (e = .endlessInclude ∨
      ∃ place ∈ places g, place.2.includeTarget = none ∧ Fault place.2 e)) ∨
    ∃ grammar s, Grammar.compile options g = .ok grammar ∧
      walk options g (specCount g) = .ok ((), s) ∧ InOrder options g s ∧
      s.rules = grammar.rules.map some ∧ grammar.scanners.size = grammar.rules.size := by
  rw [Grammar.compile]
  dsimp only
  rcases walk_cases options g (specCount g) with ⟨e, hwalk, hcause⟩ | ⟨s, hwalk, hinOrder, hfilled⟩
  · rw [walk] at hwalk
    rw [hwalk]
    exact Or.inl ⟨e, rfl, hcause⟩
  · obtain ⟨table, htable, hrules⟩ := exists_ruleTable hfilled
    have hrun := hwalk
    rw [walk] at hrun
    rw [hrun]
    simp only [bind, Except.bind, htable]
    exact Or.inr ⟨_, s, rfl, hwalk, hinOrder, hrules, Array.size_map⟩

/-- A table whose rules are in order is closed. -/
theorem closed_of_inOrder {options : EngineOptions} {g : GrammarSpec} {grammar : Grammar}
    {s : State} (hcompile : Grammar.compile options g = .ok grammar) (h : InOrder options g s)
    (hrules : s.rules = grammar.rules.map some)
    (hscanners : grammar.scanners.size = grammar.rules.size) : grammar.Closed where
  id_eq := fun id r hr => id_of_made ((made_of_compile hcompile).2 id r hr)
  root := Grammar.rule?_root hcompile
  children := by
    intro r hr child hchild
    obtain ⟨id, hid⟩ := Array.getElem?_of_mem hr
    have hrule : s.rules[id]? = some (some r) := by
      rw [hrules, Array.getElem?_map, hid]
      rfl
    have hlt := h.children id r hrule child hchild
    rwa [hrules, Array.size_map] at hlt
  scanners_size := hscanners
  targets := by
    intro id scanner hscanner target htarget
    obtain ⟨r, hr, _⟩ := Grammar.isTarget_of_scanner? hcompile hscanner target htarget
    exact (Array.getElem?_eq_some_iff.mp hr).1

/-- **Compiling a grammar** whose includes do not lead on for ever gives a closed table, unless
something is wrong with one of its rules by itself, which is then reported. A number without a rule
never is. In the table each rule but the first one is made of a rule of the file that is no include,
and no rule of the file has two numbers. -/
theorem compile_closed (options : EngineOptions) (g : GrammarSpec) (h : ¬ MeetsEndless options g) :
    (∀ id, Grammar.compile options g ≠ .error (.undefined id)) ∧
    (∀ e, Grammar.compile options g = .error e →
      ∃ place ∈ places g, place.2.includeTarget = none ∧ Fault place.2 e) ∧
    ((∀ place ∈ places g, place.2.includeTarget = none → ∀ e, ¬ Fault place.2 e) →
      ∃ grammar, Grammar.compile options g = .ok grammar) ∧
    ∀ grammar, Grammar.compile options g = .ok grammar → grammar.Closed ∧
      ∃ s, walk options g (specCount g) = .ok ((), s) ∧ InOrder options g s ∧
        s.rules = grammar.rules.map some := by
  rcases compile_cases options g with
    ⟨e, he, hcause⟩ | ⟨grammar, s, hok, hwalk, hinOrder, hrules, hscanners⟩
  · have hfault : ∃ place ∈ places g, place.2.includeTarget = none ∧ Fault place.2 e := by
      refine hcause.resolve_left fun hendless => ?_
      exact h (compile_eq_endlessInclude_iff.mp (hendless ▸ he))
    rw [he]
    refine ⟨fun id heq => ?_, fun e' heq => ?_, fun hnone => ?_, fun grammar hok => ?_⟩
    · obtain ⟨place, _, _, hplace⟩ := hfault
      rw [Except.error.inj heq] at hplace
      cases hplace
    · rwa [← Except.error.inj heq]
    · obtain ⟨place, hmem, hinclude, hplace⟩ := hfault
      exact absurd hplace (hnone place hmem hinclude e)
    · cases hok
  · rw [hok]
    refine ⟨fun id heq => ?_, fun e heq => ?_, fun _ => ⟨grammar, rfl⟩, fun grammar' heq => ?_⟩
    · cases heq
    · cases heq
    obtain rfl := Except.ok.inj heq
    exact ⟨closed_of_inOrder hok hinOrder hrules hscanners, s, hwalk, hinOrder, hrules⟩

/-- A file with a region that holds the whole file and an entry of its own repository, which hides
one of the file. -/
def hidingSpec : GrammarSpec where
  scopeName := "source.hiding"
  patterns := [
    { beginPattern := some "<", endPattern := some ">"
      patterns := some [{ includeTarget := some "$self" }, { includeTarget := some "#a" }]
      repository := some [("a", { matchPattern := some "x" })] },
    { includeTarget := some "#a" }]
  repository := [("a", { beginPattern := some "y", whilePattern := some "z"
                         patterns := some [{ includeTarget := some "#a" }] })]

/-- Nothing is wrong with its rules, so that it is compiled, and the table is closed. -/
theorem compile_closed_hiding :
    ¬ MeetsEndless {} hidingSpec ∧ ∃ grammar, Grammar.compile {} hidingSpec = .ok grammar ∧
      grammar.Closed := by
  have hends : ¬ MeetsEndless {} hidingSpec := by
    refine walkEnds_iff.mp (walkEnds_of_entries fun name address spec hplace => ?_)
    simp [places, hidingSpec, rulePlaces, listPlaces, entriesPlaces] at hplace
    rcases hplace with ⟨_, _, rfl⟩ | ⟨_, _, rfl⟩ <;> rfl
  obtain ⟨_, _, hok, hclosed⟩ := compile_closed {} hidingSpec hends
  have hended : ∀ place ∈ places hidingSpec, place.2.beginPattern = none ∨
      place.2.endPattern ≠ none ∨ place.2.whilePattern ≠ none := by decide
  have hcaptures : ∀ place ∈ places hidingSpec, ∀ captures ∈ readCaptures place.2,
      captures = none := by decide
  obtain ⟨grammar, hgrammar⟩ := hok fun place hplace _ e hfault => by
    cases hfault with
    | unended h =>
      obtain ⟨_, hbegin, hend, hwhile⟩ := h
      rcases hended place hplace with hnone | hnone | hnone
      · cases hnone.symm.trans hbegin
      · exact hnone hend
      · exact hnone hwhile
    | namesBeyond hread h =>
      obtain ⟨_, entries, hentries, _⟩ := h
      cases (hcaptures place hplace _ hread).symm.trans hentries
  exact ⟨hends, grammar, hgrammar, (hclosed grammar hgrammar).1⟩

/-- A file with a rule that names the group of the largest number. -/
def namingLast : GrammarSpec where
  scopeName := "source.c"
  patterns := [{ matchPattern := some "a", name := some "letter"
                 captures := some [("18446744073709551615", ⟨some "x"⟩)] }]

/-- **Regions that end are not enough**: no include and no region is in this file, and it cannot be
compiled. -/
theorem not_always_compiled : ¬ ∀ (options : EngineOptions) (g : GrammarSpec),
    ¬ MeetsEndless options g → (∀ place ∈ places g, ∀ begins, ¬ Unended place.2 begins) →
    ∃ grammar, Grammar.compile options g = .ok grammar := by
  intro hall
  have hends : ¬ MeetsEndless {} namingLast := by
    refine walkEnds_iff.mp (walkEnds_of_entries fun name address spec hplace => ?_)
    simp [places, namingLast, rulePlaces, listPlaces, entriesPlaces] at hplace
  have hregions : ∀ place ∈ places namingLast, ∀ begins, ¬ Unended place.2 begins := by
    have hmatches : ∀ place ∈ places namingLast, place.2.matchPattern ≠ none := by decide
    exact fun place hplace begins h => hmatches place hplace h.1
  obtain ⟨grammar, hok⟩ := hall {} namingLast hends hregions
  have herror : Grammar.compile {} namingLast = .error (.captureOverflow Text.maxWord) := by
    rw [compile_eq_compute]
    rfl
  rw [herror] at hok
  cases hok

end Compile

end Tincture
