import Tincture.Proofs.Grammar.Groups
import Tincture.Proofs.Grammar.Places
import Tincture.Proofs.Grammar.WalkBound

/-!
# Files that cannot be compiled

The walk through a grammar file goes into a rule once, and notes its address before it does. What it
does not note are the includes that it follows, so that it comes to no end if they lead on for ever.
Whether it meets such includes is said without a bound (`MeetsEndless`). If it does, no bound is
enough, and if it does not, the number of rules in the file is (`compile_ends_iff`). It meets none in
a file whose repositories hold no includes (`walkEnds_of_entries`).
-/

namespace Tincture.Compile

/-- The rules that are numbered inside a rule. -/
def listed (spec : RuleSpec) : List RuleSpec :=
  if spec.matchPattern.isSome then [] else spec.patterns.getD []

theorem listPlaces_listed_subset_places {g : GrammarSpec} {address : Address} {spec : RuleSpec}
    (h : (address, spec) ∈ places g) : listPlaces address 0 (listed spec) ⊆ places g := by
  unfold listed
  split
  · exact List.nil_subset _
  · exact listPlaces_subset_places h

/-- The state in which the rules inside a rule are numbered: the rule itself has its number. -/
def State.entered (s : State) (address : Address) : State :=
  { rules := s.rules.push none, numbers := (address, s.rules.size) :: s.numbers }

/-- What is made of a rule once the rules inside it have their numbers. -/
def finished (options : EngineOptions) (spec : RuleSpec) (id : RuleId) (inside : List RuleId × State) :
    Except CompileError (Option RuleId × State) := do
  let kind ← kindOf options spec inside.1
  let rule : Rule := { id, name := spec.name, contentName := spec.contentName, kind }
  return (some id, { inside.2 with rules := inside.2.rules.setIfInBounds id (some rule) })

/-! ### One step of the walk -/

theorem run_number_zero (ctx : Context) (repositories : List Repository) (address : Address)
    (spec : RuleSpec) (s : State) :
    (number ctx repositories 0 address spec).run s = .error .endlessInclude := by
  rw [number]
  rfl

theorem run_number (ctx : Context) (repositories : List Repository) (fuel : Nat) (address : Address)
    (spec : RuleSpec) (s : State) :
    (number ctx repositories (fuel + 1) address spec).run s = (do
      match ← follow ctx.scopeName repositories (ctx.count + 1) address spec with
      | .root => return (some Grammar.root, s)
      | .nothing => return (none, s)
      | .rule address spec =>
        match s.numbers.lookup address with
        | some id => return (some id, s)
        | none =>
          let inside ← (numberAll ctx (openRepository address spec repositories) fuel address 0
            (listed spec)).run (s.entered address)
          finished ctx.options spec s.rules.size inside) := by
  -- what the parts do to the state that they are given
  have hok : ∀ target (f : Target → Numbering (Option RuleId)),
      ((liftM (Except.ok target : Except CompileError Target) : Numbering Target) >>= f).run s =
        (f target).run s := fun _ _ => rfl
  have hget : ∀ f : State → Numbering (Option RuleId), (get >>= f).run s = (f s).run s :=
    fun _ => rfl
  have hallocate : ∀ f : RuleId → Numbering (Option RuleId), (allocate >>= f).run s =
      (f s.rules.size).run { s with rules := s.rules.push none } := fun _ => rfl
  have hmodify : ∀ g s' (f : PUnit → Numbering (Option RuleId)),
      ((modify g : Numbering PUnit) >>= f).run s' = (f ⟨⟩).run (g s') := fun _ _ _ => rfl
  have hpure : ∀ target (f : Target → Except CompileError (Option RuleId × State)),
      (Except.ok target >>= f) = f target := fun _ _ => rfl
  rw [number]
  cases follow ctx.scopeName repositories (ctx.count + 1) address spec with
  | error e => rfl
  | ok target =>
    refine (hok target _).trans (Eq.trans ?_ (hpure target _).symm)
    cases target with
    | root => rfl
    | nothing => rfl
    | rule address spec =>
      refine (hget _).trans ?_
      dsimp only
      cases s.numbers.lookup address with
      | some id => rfl
      | none =>
        refine (hallocate _).trans ((hmodify _ _ _).trans ?_)
        refine (StateT.run_bind (numberAll _ _ _ _ _ _) _ (s.entered address)).trans ?_
        refine bind_congr fun inside => ?_
        unfold finished
        cases kindOf ctx.options spec inside.1 <;> rfl

theorem run_numberAll_cons (ctx : Context) (repositories : List Repository) (fuel : Nat)
    (parent : Address) (index : Nat) (spec : RuleSpec) (rest : List RuleSpec) (s : State) :
    (numberAll ctx repositories fuel parent index (spec :: rest)).run s = (do
      let first ← (number ctx repositories fuel (.pattern index :: parent) spec).run s
      let others ← (numberAll ctx repositories fuel parent (index + 1) rest).run first.2
      return (first.1.toList ++ others.1, others.2)) := by
  rw [numberAll]
  rfl

/-! ### Meeting includes that lead on for ever -/

section Meets

variable (scopeName : String) (options : EngineOptions)

mutual

/-- At a rule the walk meets includes that lead on for ever: they do from the rule itself, or they lead
to a rule without a number, and the walk meets some among the rules inside that one. -/
inductive Meets : List Repository → Address → RuleSpec → State → Prop
  | endless {repositories address spec s} (h : Endless scopeName repositories spec) :
      Meets repositories address spec s
  | inside {repositories address spec s fuel address' spec'}
      (hfollow : follow scopeName repositories fuel address spec = .ok (.rule address' spec'))
      (hnew : s.numbers.lookup address' = none)
      (h : MeetsAmong (openRepository address' spec' repositories) address' 0 (listed spec')
        (s.entered address')) :
      Meets repositories address spec s

/-- Among the rules of a list the walk meets includes that lead on for ever: at the first one, or,
once that is numbered, among the others. -/
inductive MeetsAmong : List Repository → Address → Nat → List RuleSpec → State → Prop
  | here {repositories parent index spec rest s}
      (h : Meets repositories (.pattern index :: parent) spec s) :
      MeetsAmong repositories parent index (spec :: rest) s
  | later {repositories parent index spec rest s limit fuel first}
      (hfirst : (number ⟨scopeName, options, limit⟩ repositories fuel (.pattern index :: parent)
        spec).run s = .ok first)
      (h : MeetsAmong repositories parent (index + 1) rest first.2) :
      MeetsAmong repositories parent index (spec :: rest) s

end

end Meets

variable {scopeName : String} {options : EngineOptions}

/-- What comes of a chain comes of it under each bound that does not cut it off. -/
theorem cutOff_follow_of_ok {repositories : List Repository} {fuel : Nat} {address : Address}
    {spec : RuleSpec} {target : Target}
    (h : follow scopeName repositories fuel address spec = .ok target) (fuel' : Nat) :
    CutOff (follow scopeName repositories fuel' address spec) (.ok target) := by
  have hlarge := cutOff_follow scopeName repositories (Nat.le_max_left fuel fuel') address spec
  rw [h] at hlarge
  exact hlarge.of_ok
    (cutOff_follow scopeName repositories (Nat.le_max_right fuel fuel') address spec)

/-- What comes of a rule comes of it under each bound that does not cut the walk off. -/
theorem cutOff_number_of_ok {repositories : List Repository} {limit fuel : Nat} {address : Address}
    {spec : RuleSpec} {s : State} {numbered : Option RuleId × State}
    (h : (number ⟨scopeName, options, limit⟩ repositories fuel address spec).run s = .ok numbered)
    (limit' fuel' : Nat) :
    CutOff ((number ⟨scopeName, options, limit'⟩ repositories fuel' address spec).run s)
      (.ok numbered) := by
  have hlarge := (stepsAlike_number scopeName options (Nat.le_max_left limit limit')).1
    repositories fuel address spec _ (Nat.le_max_left fuel fuel') s
  rw [h] at hlarge
  exact hlarge.of_ok ((stepsAlike_number scopeName options (Nat.le_max_right limit limit')).1
    repositories fuel' address spec _ (Nat.le_max_right fuel fuel') s)

mutual

/-- **No bound** is enough for a walk that meets includes that lead on for ever. -/
theorem run_number_of_meets {repositories : List Repository} {address : Address} {spec : RuleSpec}
    {s : State} (limit fuel : Nat) :
    Meets scopeName options repositories address spec s →
      (number ⟨scopeName, options, limit⟩ repositories fuel address spec).run s =
        .error .endlessInclude
  | .endless h => by
    cases fuel with
    | zero => exact run_number_zero _ _ _ _ _
    | succ fuel =>
      rw [run_number, follow_of_endless h]
      rfl
  | .inside hfollow hnew h => by
    cases fuel with
    | zero => exact run_number_zero _ _ _ _ _
    | succ fuel =>
      rw [run_number]
      rcases cutOff_follow_of_ok hfollow (limit + 1) with hcut | hsame
      · rw [hcut]
        rfl
      · have hinside := run_numberAll_of_meetsAmong limit fuel h
        rw [hsame]
        simp only [bind, Except.bind, hnew, hinside]

theorem run_numberAll_of_meetsAmong {repositories : List Repository} {parent : Address} {index : Nat}
    {rules : List RuleSpec} {s : State} (limit fuel : Nat) :
    MeetsAmong scopeName options repositories parent index rules s →
      (numberAll ⟨scopeName, options, limit⟩ repositories fuel parent index rules).run s =
        .error .endlessInclude
  | .here h => by
    rw [run_numberAll_cons, run_number_of_meets limit fuel h]
    rfl
  | .later hfirst h => by
    rw [run_numberAll_cons]
    rcases cutOff_number_of_ok hfirst limit fuel with hcut | hsame
    · rw [hcut]
      rfl
    · have hrest := run_numberAll_of_meetsAmong limit fuel h
      rw [hsame]
      simp only [bind, Except.bind, hrest]

end

/-! ### Meeting nothing else -/

theorem bind_ne_endlessInclude {α β : Type} {x : Except CompileError α}
    {f : α → Except CompileError β} (hx : x ≠ .error .endlessInclude)
    (hf : ∀ a, f a ≠ .error .endlessInclude) : x >>= f ≠ .error .endlessInclude := by
  cases x with
  | error e => exact fun h => hx (congrArg Except.error (Except.error.inj h))
  | ok a => exact hf a

theorem captureNames_ne_endlessInclude (captures : Option CaptureSpecs) :
    captureNames captures ≠ .error .endlessInclude := by
  cases captures with
  | none => exact fun h => nomatch h
  | some entries =>
    rw [captureNames]
    generalize ({} : CaptureNames) = names
    induction entries generalizing names with
    | nil => exact fun h => nomatch h
    | cons entry rest ih =>
      obtain ⟨key, capture⟩ := entry
      rw [List.foldlM_cons]
      refine bind_ne_endlessInclude ?_ fun names => ih names
      dsimp only
      split
      · simp
      · split <;> simp

/-- No include is followed where it is said what a rule does. -/
theorem kindOf_ne_endlessInclude (options : EngineOptions) (spec : RuleSpec)
    (children : List RuleId) : kindOf options spec children ≠ .error .endlessInclude := by
  unfold kindOf
  dsimp only
  split
  · exact bind_ne_endlessInclude (captureNames_ne_endlessInclude _) fun _ h => nomatch h
  · split
    · exact bind_ne_endlessInclude (captureNames_ne_endlessInclude _) fun _ =>
        bind_ne_endlessInclude (captureNames_ne_endlessInclude _) fun _ h => nomatch h
    · exact bind_ne_endlessInclude (captureNames_ne_endlessInclude _) fun _ =>
        bind_ne_endlessInclude (captureNames_ne_endlessInclude _) fun _ h => nomatch h
    · exact fun h => nomatch h
  · exact fun h => nomatch h

/-- The addresses that have numbers are places of the file, and all different. -/
structure Noted (g : GrammarSpec) (s : State) : Prop where
  nodup : (s.numbers.map (·.1)).Nodup
  subset : s.numbers.map (·.1) ⊆ (places g).map (·.1)

namespace Noted

variable {g : GrammarSpec} {s : State}

theorem length_le (h : Noted g s) : s.numbers.length ≤ specCount g := by
  have hle := (List.subperm_of_subset h.nodup h.subset).length_le
  rwa [List.length_map, List.length_map, length_places] at hle

theorem entered (h : Noted g s) {address : Address} {spec : RuleSpec}
    (hnew : s.numbers.lookup address = none) (hspec : (address, spec) ∈ places g) :
    Noted g (s.entered address) where
  nodup := by
    refine List.nodup_cons.mpr ⟨fun hmem => ?_, h.nodup⟩
    obtain ⟨p, hp, rfl⟩ := List.mem_map.mp hmem
    simpa using List.lookup_eq_none_iff.mp hnew p hp
  subset := List.cons_subset.mpr ⟨List.mem_map_of_mem hspec, h.subset⟩

end Noted

/-- A part of the walk numbers more places of the file, or something is wrong; if it is cut off, then
since it met what is said. -/
inductive ComesTo {α : Type} (g : GrammarSpec) (s : State) (met : Prop) :
    Except CompileError (α × State) → Prop
  | ok {x} (noted : Noted g x.2) (more : s.numbers.length ≤ x.2.numbers.length) :
      ComesTo g s met (.ok x)
  | error {e} (h : e = .endlessInclude → met) : ComesTo g s met (.error e)

section ComesTo

variable {α β : Type} {g : GrammarSpec} {s s' : State} {met met' : Prop}

theorem ComesTo.of_le {x : Except CompileError (α × State)} (h : ComesTo g s met x)
    (hle : s'.numbers.length ≤ s.numbers.length) : ComesTo g s' met x := by
  cases h with
  | ok hnoted hmore => exact .ok hnoted (Nat.le_trans hle hmore)
  | error h => exact .error h

/-- What two parts come to one after the other. -/
theorem ComesTo.bind {x : Except CompileError (α × State)}
    {f : α × State → Except CompileError (β × State)} (hx : ComesTo g s met x)
    (hmet : met → met') (hf : ∀ y, x = .ok y → Noted g y.2 →
      s.numbers.length ≤ y.2.numbers.length → ComesTo g y.2 met' (f y)) :
    ComesTo g s met' (x >>= f) := by
  cases hx with
  | ok hnoted hmore => exact (hf _ rfl hnoted hmore).of_le hmore
  | error h => exact .error fun he => hmet (h he)

theorem comesTo_finished (options : EngineOptions) (spec : RuleSpec) (id : RuleId)
    {inside : List RuleId × State} (h : Noted g inside.2) :
    ComesTo g inside.2 met (finished options spec id inside) := by
  unfold finished
  cases hkind : kindOf options spec inside.1 with
  | error e =>
    exact .error fun he => absurd (he ▸ hkind) (kindOf_ne_endlessInclude options spec inside.1)
  | ok kind => exact .ok ⟨h.nodup, h.subset⟩ (Nat.le_refl _)

end ComesTo

/-- **The walk** is cut off at its bound only if it met includes that lead on for ever: each rule that
it goes into is a place of the file that had no number. -/
theorem comesTo_number (options : EngineOptions) (g : GrammarSpec) :
    (∀ repositories fuel address spec, (∀ r ∈ repositories, InFile g r) →
      (address, spec) ∈ places g → ∀ s, Noted g s → specCount g < fuel + s.numbers.length →
      ComesTo g s (Meets g.scopeName options repositories address spec s)
        ((number ⟨g.scopeName, options, specCount g⟩ repositories fuel address spec).run s)) ∧
    ∀ repositories fuel parent index rules, (∀ r ∈ repositories, InFile g r) →
      listPlaces parent index rules ⊆ places g → ∀ s, Noted g s →
      specCount g < fuel + s.numbers.length →
      ComesTo g s (MeetsAmong g.scopeName options repositories parent index rules s)
        ((numberAll ⟨g.scopeName, options, specCount g⟩ repositories fuel parent index rules).run
          s) := by
  refine number.mutual_induct _ _ ?_ ?_ ?_ ?_
  · -- all places have numbers, and this one would be one more
    intro repositories address spec _ _ s hs hfuel
    have hle := hs.length_le
    omega
  · intro repositories fuel address spec hlisted hopen hspec s hs hfuel
    have hentries : ∀ name entry, lookUp name repositories = some entry → entry ∈ places g :=
      fun _ _ => mem_places_of_lookUp hopen
    rw [run_number]
    cases hfollow : follow g.scopeName repositories (specCount g + 1) address spec with
    | error e =>
      refine .error fun he => .endless (endless_of_follow hentries ?_ (he ▸ hfollow))
      rw [length_places]
      exact Nat.lt_succ_self _
    | ok target =>
      cases target with
      | root => exact .ok hs (Nat.le_refl _)
      | nothing => exact .ok hs (Nat.le_refl _)
      | rule address' spec' =>
        have hspec' := mem_of_follow hentries hspec hfollow
        simp only [bind, Except.bind]
        cases hid : s.numbers.lookup address' with
        | some id => exact .ok hs (Nat.le_refl _)
        | none =>
          have hfuel' : specCount g < fuel + (s.entered address').numbers.length := by
            rw [State.entered, List.length_cons]
            omega
          have hinside := hlisted address' spec' (inFile_openRepository hspec' hopen)
            (listPlaces_listed_subset_places hspec') (s.entered address') (hs.entered hid hspec') hfuel'
          refine ComesTo.of_le (hinside.bind (.inside hfollow hid) fun inside _ hnoted _ => ?_)
            (Nat.le_succ _)
          exact comesTo_finished options spec' _ hnoted
  · intro repositories fuel index parent _ _ s hs _
    rw [numberAll]
    exact .ok hs (Nat.le_refl _)
  · intro repositories fuel parent index spec rest hspec hrest hopen hsubset s hs hfuel
    obtain ⟨hhere, hothers⟩ := List.append_subset.mp hsubset
    have hfirst := hspec hopen (hhere (self_mem_rulePlaces _ _)) s hs hfuel
    rw [run_numberAll_cons]
    refine hfirst.bind .here fun first hrun hnoted hmore => ?_
    have hrest := hrest hopen hothers first.2 hnoted (by omega)
    exact hrest.bind (.later hrun) fun others _ hnoted' _ => .ok hnoted' (Nat.le_refl _)

/-! ### The walk through a file -/

/-- The walk through a file, under a bound for chains of includes and for rules inside each other. -/
def walk (options : EngineOptions) (g : GrammarSpec) (limit : Nat) :
    Except CompileError (Unit × State) :=
  (numberGrammar ⟨g.scopeName, options, limit⟩ g).run {}

/-- The walk through a file ends: under some bound it is not cut off. -/
def WalkEnds (options : EngineOptions) (g : GrammarSpec) : Prop :=
  ∃ limit, walk options g limit ≠ .error .endlessInclude

/-- The state in which the patterns of a file are numbered: the grammar itself has its number. -/
def State.started : State :=
  { rules := #[none] }

/-- In the file the walk meets includes that lead on for ever. -/
def MeetsEndless (options : EngineOptions) (g : GrammarSpec) : Prop :=
  MeetsAmong g.scopeName options [⟨[], g.repository⟩] [] 0 g.patterns State.started

theorem walk_eq (options : EngineOptions) (g : GrammarSpec) (limit : Nat) :
    walk options g limit = (do
      let inside ← (numberAll ⟨g.scopeName, options, limit⟩ [⟨[], g.repository⟩] (limit + 1) [] 0
        g.patterns).run State.started
      let rule : Rule := { id := Grammar.root, kind := .group inside.1 }
      return ((), { inside.2 with
        rules := inside.2.rules.setIfInBounds Grammar.root (some rule) })) :=
  rfl

variable {g : GrammarSpec}

/-- No bound is enough. -/
theorem walk_of_meetsEndless (h : MeetsEndless options g) (limit : Nat) :
    walk options g limit = .error .endlessInclude := by
  rw [walk_eq, run_numberAll_of_meetsAmong limit (limit + 1) h]
  rfl

/-- The number of rules in the file is enough. -/
theorem meetsEndless_of_walk (h : walk options g (specCount g) = .error .endlessInclude) :
    MeetsEndless options g := by
  have hstarted : Noted g State.started := ⟨List.nodup_nil, List.nil_subset _⟩
  have hcomes := (comesTo_number options g).2 _ _ _ _ _ (inFile_repository g)
    (List.subset_append_left _ _) State.started hstarted (Nat.lt_succ_self _)
  rw [walk_eq] at h
  generalize (numberAll _ _ _ _ _ _).run State.started = x at hcomes h
  cases hcomes with
  | ok => cases h
  | error hmet => exact hmet (Except.error.inj h)

theorem walkEnds_iff : WalkEnds options g ↔ ¬ MeetsEndless options g := by
  constructor
  · rintro ⟨limit, hlimit⟩ hmeets
    exact hlimit (walk_of_meetsEndless hmeets limit)
  · exact fun hmeets => ⟨specCount g, fun h => hmeets (meetsEndless_of_walk h)⟩

/-- A larger bound changes nothing. -/
theorem walk_eq_of_le (options : EngineOptions) {limit : Nat} (hle : specCount g ≤ limit) :
    walk options g limit = walk options g (specCount g) := by
  have halike : StepsAlike (numberGrammar ⟨g.scopeName, options, specCount g⟩ g)
      (numberGrammar ⟨g.scopeName, options, limit⟩ g) :=
    (StepsAlike.refl _).bind fun _ => ((stepsAlike_number g.scopeName options hle).2 _ _ _ _ _ _
      (Nat.succ_le_succ hle)).bind fun _ => .refl _
  rcases halike {} with hcut | hsame
  · exact (walk_of_meetsEndless (meetsEndless_of_walk hcut) limit).trans hcut.symm
  · exact hsame.symm

theorem ruleTable_ne_endlessInclude (rules : Array (Option Rule)) :
    ruleTable rules ≠ .error .endlessInclude := by
  rw [ruleTable]
  induction rules.toList.zipIdx with
  | nil => exact fun h => nomatch h
  | cons entry rest ih =>
    obtain ⟨rule, id⟩ := entry
    rw [List.mapM_cons]
    refine bind_ne_endlessInclude ?_ fun _ => bind_ne_endlessInclude ih fun _ h => nomatch h
    cases rule <;> simp

theorem compile_eq_endlessInclude_iff :
    Grammar.compile options g = .error .endlessInclude ↔ MeetsEndless options g := by
  constructor
  · intro h
    refine meetsEndless_of_walk ?_
    by_contra hwalk
    refine bind_ne_endlessInclude hwalk (fun _ => ?_) h
    exact bind_ne_endlessInclude (ruleTable_ne_endlessInclude _) fun _ h => nomatch h
  · intro h
    have hwalk := walk_of_meetsEndless h (specCount g)
    rw [walk] at hwalk
    rw [Grammar.compile]
    dsimp only
    rw [hwalk]
    rfl

/-! ### Files that can be compiled -/

mutual

/-- What the walk meets are includes that lead on for ever through repositories of the file. -/
theorem Meets.exists_endless {repositories : List Repository} {address : Address} {spec : RuleSpec}
    {s : State} (hopen : ∀ r ∈ repositories, InFile g r) (hspec : (address, spec) ∈ places g) :
    Meets g.scopeName options repositories address spec s → ∃ repositories spec,
      (∀ r ∈ repositories, InFile g r) ∧ Endless g.scopeName repositories spec
  | .endless h => ⟨repositories, spec, hopen, h⟩
  | .inside hfollow _ h => by
    have hspec' := mem_of_follow (fun _ _ => mem_places_of_lookUp hopen) hspec hfollow
    exact h.exists_endless (inFile_openRepository hspec' hopen)
      (listPlaces_listed_subset_places hspec')

theorem MeetsAmong.exists_endless {repositories : List Repository} {parent : Address} {index : Nat}
    {rules : List RuleSpec} {s : State} (hopen : ∀ r ∈ repositories, InFile g r)
    (hrules : listPlaces parent index rules ⊆ places g) :
    MeetsAmong g.scopeName options repositories parent index rules s → ∃ repositories spec,
      (∀ r ∈ repositories, InFile g r) ∧ Endless g.scopeName repositories spec
  | .here h =>
    h.exists_endless hopen ((List.append_subset.mp hrules).1 (self_mem_rulePlaces _ _))
  | .later _ h => h.exists_endless hopen (List.append_subset.mp hrules).2

end

/-- **A walk ends** if no entry of a repository is an include. -/
theorem walkEnds_of_entries (h : ∀ name address spec,
    (.named name :: address, spec) ∈ places g → spec.includeTarget = none) :
    WalkEnds options g := by
  refine walkEnds_iff.mpr fun hmeets => ?_
  obtain ⟨repositories, spec, hopen, again, _, hback⟩ :=
    hmeets.exists_endless (inFile_repository g) (List.subset_append_left _ _)
  -- the entry that the includes come back to is an include itself
  obtain ⟨before, _, address, hbefore⟩ := Relation.TransGen.tail'_iff.mp hback
  obtain ⟨target, ⟨address', hagain⟩, _⟩ := Relation.TransGen.head'_iff.mp hback
  obtain ⟨name, hname⟩ := exists_lookUp_of_next? hbefore
  obtain ⟨r, _, _, rfl⟩ := exists_of_lookUp hname
  have hnone := h name r.address again (mem_places_of_lookUp hopen hname)
  rw [next?, hnone] at hagain
  cases hagain

/-- **Compiling a grammar ends** unless the walk through its file meets includes that lead on for ever:
just then no bound is enough for the walk, which is what the compiler reports. The bounds that the
compiler sets cut off nothing else: under each larger one the walk comes to the same, and so does the
search for what a rule looks for. -/
theorem compile_ends_iff (options : EngineOptions) (g : GrammarSpec) :
    (WalkEnds options g ↔ ¬ MeetsEndless options g) ∧
    (Grammar.compile options g = .error .endlessInclude ↔ ¬ WalkEnds options g) ∧
    (∀ limit ≥ specCount g, walk options g limit = walk options g (specCount g)) ∧
    ∀ grammar, Grammar.compile options g = .ok grammar → ∀ fuel ≥ grammar.rules.size,
      ∀ children found, Flatten.collect grammar.rules fuel children found =
        Flatten.collect grammar.rules grammar.rules.size children found := by
  refine ⟨walkEnds_iff, ?_, fun limit hle => walk_eq_of_le options hle, ?_⟩
  · rw [compile_eq_endlessInclude_iff, walkEnds_iff, not_not]
  · exact fun grammar _ fuel hle children found =>
      Flatten.collect_eq_of_le grammar.rules hle children found

/-- A file whose one repository entry includes itself. -/
def selfIncluding : GrammarSpec where
  scopeName := "source.c"
  patterns := [{ includeTarget := some "#a" }]
  repository := [("a", { includeTarget := some "#a" })]

/-- Through this file the walk goes for ever. -/
theorem not_walkEnds_selfIncluding : ¬ WalkEnds {} selfIncluding := by
  have hleads : Leads "source.c" [⟨[], selfIncluding.repository⟩]
      { includeTarget := some "#a" } { includeTarget := some "#a" } :=
    ⟨[.named "a"], by rfl⟩
  have hmeets : MeetsEndless {} selfIncluding :=
    .here (.endless ⟨_, .refl, .single hleads⟩)
  exact fun h => walkEnds_iff.mp h hmeets

end Tincture.Compile
