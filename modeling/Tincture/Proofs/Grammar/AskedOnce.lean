import Mathlib.Data.List.Infix
import Tincture.Grammar.Registry

/-!
# Sources and loaders are asked once

An engine keeps what its source said until it is reset, and a registry keeps the outcome of each load
for good, unless it was the engine that failed. The calls to both are taken in any order, each with the
answers that the source and the loader would give to it, which may be others each time. What one call
does is said by `start_cases` and `load_cases`; from there on, an answer that was given stays until a
reset (`of_answer`), and an outcome that was kept stays in any case (`outcome?_before`).

So between resets the source is asked once, and all that ask the engine get the same; the loader is
asked once for a scope, and a load that came to its end is what all later loads of the scope give while
the engine starts (`asked_once`).
-/

namespace Tincture

/-- The compiler does not come to an end, or needs a larger table of names than there can be: the load
gives nothing back. -/
def GrammarError.isBreakdown : GrammarError → Bool
  | .compile _ .endlessInclude | .compile _ (.captureOverflow _) => true
  | _ => false

namespace GrammarRegistry

/-- A call to an engine or to a registry that uses it, with the answers that the source of the engine
and the loader would give to it. -/
inductive Call where
  | start (source : Except EngineError EngineOptions)
  | reset
  | load (source : Except EngineError EngineOptions) (scope : String) (found : Option GrammarSource)

/-- An engine, and a registry that uses it. -/
structure Caches where
  engine : Engine := {}
  registry : GrammarRegistry := {}

/-- A call, and what was kept before it. -/
structure Turn where
  before : Caches
  call : Call

namespace Turn

/-- What the source would say. -/
def source? (t : Turn) : Option (Except EngineError EngineOptions) :=
  match t.call with
  | .start source | .load source _ _ => some source
  | .reset => none

/-- What the engine gives, if it is asked. -/
def answer? (t : Turn) : Option (Except EngineError EngineOptions) :=
  t.source?.map fun source => (t.before.engine.start source).2

/-- The load of a scope. -/
def load? (t : Turn) (scope : String) : Option Load :=
  match t.call with
  | .load source other found =>
    if other = scope then some (t.before.registry.load t.before.engine source scope found) else none
  | .start _ | .reset => none

/-- What the load of a scope gives. -/
def outcome? (t : Turn) (scope : String) : Option LoadOutcome :=
  (t.load? scope).map (·.outcome)

/-- Whether the loader is asked for a scope. -/
def asksLoader (t : Turn) (scope : String) : Bool :=
  (t.load? scope).any (·.asked)

/-- What is kept after the call. -/
def after (t : Turn) : Caches :=
  match t.call with
  | .start source => { t.before with engine := (t.before.engine.start source).1 }
  | .reset => { t.before with engine := t.before.engine.reset }
  | .load source scope found =>
    let l := t.before.registry.load t.before.engine source scope found
    ⟨l.engine, l.registry⟩

/-- Whether the source of the engine is asked. -/
def asksSource (t : Turn) : Bool :=
  t.before.engine.attempts < t.after.engine.attempts

/-- Whether the call gives nothing back. -/
def breaksDown (t : Turn) : Bool :=
  match t.call with
  | .load source scope found =>
    match (t.before.registry.load t.before.engine source scope found).outcome with
    | .error e => e.isBreakdown
    | .ok _ => false
  | .start _ | .reset => false

end Turn

/-- Calls one after the other. One that gives nothing back is the last. -/
def turns : Caches → List Call → List Turn
  | _, [] => []
  | before, call :: rest =>
    let t : Turn := ⟨before, call⟩
    t :: if t.breaksDown then [] else turns t.after rest

/-! ### One call -/

/-- An engine that was asked gives its answer again; else its source is asked. -/
theorem start_cases (e : Engine) (source : Except EngineError EngineOptions) :
    (∃ answer, e.answer = some answer ∧ e.start source = (e, answer)) ∨
    e.answer = none ∧ e.start source =
      ({ answer := some (source.bind EngineOptions.trial), attempts := e.attempts + 1 },
        source.bind EngineOptions.trial) := by
  unfold Engine.start
  cases h : e.answer with
  | some answer => exact Or.inl ⟨answer, rfl, rfl⟩
  | none => exact Or.inr ⟨rfl, rfl⟩

/-- What a load does: the engine fails, or an outcome was kept, or the loader is asked. -/
inductive LoadCases (r : GrammarRegistry) (scope : String) (found : Option GrammarSource)
    (answer : Except EngineError EngineOptions) (l : Load) : Prop
  | noEngine {e} (hanswer : answer = .error e) (houtcome : l.outcome = .error (.engine e))
      (hasked : l.asked = false) (hregistry : l.registry = r)
  | kept {options outcome} (hanswer : answer = .ok options)
      (hkept : r.outcome? scope = some outcome) (houtcome : l.outcome = outcome)
      (hasked : l.asked = false) (hregistry : l.registry = r)
  | asked {options} (hanswer : answer = .ok options) (hnew : r.outcome? scope = none)
      (houtcome : l.outcome = outcomeOf options found) (hasked : l.asked = true)
      (hregistry : l.registry = r.keep scope l.outcome)

theorem load_cases (r : GrammarRegistry) (engine : Engine)
    (source : Except EngineError EngineOptions) (scope : String) (found : Option GrammarSource) :
    (r.load engine source scope found).engine = (engine.start source).1 ∧
    LoadCases r scope found (engine.start source).2 (r.load engine source scope found) := by
  unfold load
  obtain ⟨started, answer⟩ := engine.start source
  cases answer with
  | error e => exact ⟨rfl, .noEngine rfl rfl rfl rfl⟩
  | ok options =>
    dsimp only
    cases h : r.outcome? scope with
    | some outcome => exact ⟨rfl, .kept rfl h rfl rfl rfl⟩
    | none => exact ⟨rfl, .asked rfl h rfl rfl rfl⟩

namespace Turn

variable {t : Turn} {scope : String}

theorem exists_source? (h : t.call ≠ .reset) : ∃ source, t.source? = some source := by
  unfold source?
  cases hcall : t.call with
  | reset => exact absurd hcall h
  | start source => exact ⟨source, rfl⟩
  | load source => exact ⟨source, rfl⟩

theorem engine_after {source : Except EngineError EngineOptions} (h : t.source? = some source) :
    t.after.engine = (t.before.engine.start source).1 := by
  unfold source? at h
  unfold after
  cases hcall : t.call with
  | reset =>
    rw [hcall] at h
    cases h
  | start source' =>
    rw [hcall] at h
    obtain rfl := Option.some.inj h
    rfl
  | load source' scope found =>
    rw [hcall] at h
    obtain rfl := Option.some.inj h
    exact (load_cases _ _ _ _ _).1

/-- An answer that was given is given again, and the source is not asked. -/
theorem of_answer {answer : Except EngineError EngineOptions}
    (h : t.before.engine.answer = some answer) (hcall : t.call ≠ .reset) :
    t.answer? = some answer ∧ t.asksSource = false ∧ t.after.engine.answer = some answer := by
  obtain ⟨source, hsource⟩ := exists_source? hcall
  rw [answer?, asksSource, engine_after hsource, hsource]
  rcases start_cases t.before.engine source with ⟨answer', hkept, hstart⟩ | ⟨hnone, _⟩
  · obtain rfl := Option.some.inj (h.symm.trans hkept)
    rw [Option.map_some, hstart]
    exact ⟨rfl, decide_eq_false (Nat.lt_irrefl _), h⟩
  · cases h.symm.trans hnone

/-- Without an answer the source is asked, and what it says is tried and kept. -/
theorem of_no_answer (h : t.before.engine.answer = none) (hcall : t.call ≠ .reset) :
    ∃ source, t.source? = some source ∧ t.asksSource = true ∧
      t.answer? = some (source.bind EngineOptions.trial) ∧
      t.after.engine.answer = some (source.bind EngineOptions.trial) := by
  obtain ⟨source, hsource⟩ := exists_source? hcall
  refine ⟨source, hsource, ?_⟩
  rw [answer?, asksSource, engine_after hsource, hsource]
  rcases start_cases t.before.engine source with ⟨answer, hkept, _⟩ | ⟨_, hstart⟩
  · cases h.symm.trans hkept
  · rw [Option.map_some, hstart]
    exact ⟨decide_eq_true (Nat.lt_succ_self _), rfl, rfl⟩

/-- A load of a scope, as one of the things that a load does. -/
theorem cases_of_load? {l : Load} (h : t.load? scope = some l) :
    ∃ found answer, t.answer? = some answer ∧ t.after.registry = l.registry ∧
      LoadCases t.before.registry scope found answer l := by
  unfold load? at h
  unfold answer? source? after
  cases hcall : t.call with
  | start | reset =>
    rw [hcall] at h
    cases h
  | load source other found =>
    rw [hcall] at h
    dsimp only at h
    split at h
    · rename_i hscope
      subst hscope
      obtain rfl := Option.some.inj h
      exact ⟨found, _, rfl, rfl, (load_cases _ _ _ _ _).2⟩
    · cases h

/-- A call that is no load of a scope leaves what is kept for the scope as it was. -/
theorem outcome?_after_of_load?_eq_none (h : t.load? scope = none) :
    t.after.registry.outcome? scope = t.before.registry.outcome? scope := by
  unfold load? at h
  unfold after
  cases hcall : t.call with
  | start | reset => rfl
  | load source other found =>
    rw [hcall] at h
    dsimp only at h ⊢
    have hother : scope ≠ other := by
      rintro rfl
      rw [if_pos rfl] at h
      cases h
    obtain ⟨_, hcases⟩ := load_cases t.before.registry t.before.engine source other found
    cases hcases with
    | noEngine _ _ _ hregistry => rw [hregistry]
    | kept _ _ _ _ hregistry => rw [hregistry]
    | asked _ _ _ _ hregistry => rw [hregistry, outcome?_keep, if_neg hother]

/-- An outcome that was kept stays. -/
theorem outcome?_after_of_some {outcome : LoadOutcome}
    (h : t.before.registry.outcome? scope = some outcome) :
    t.after.registry.outcome? scope = some outcome := by
  cases hload : t.load? scope with
  | none => rw [outcome?_after_of_load?_eq_none hload, h]
  | some l =>
    obtain ⟨found, answer, _, hafter, hcases⟩ := cases_of_load? hload
    rw [hafter]
    cases hcases with
    | noEngine _ _ _ hregistry => rw [hregistry, h]
    | kept _ _ _ _ hregistry => rw [hregistry, h]
    | asked _ hnew => cases hnew.symm.trans h

/-- The loader is asked for a scope only if nothing is kept for it, and then something is. -/
theorem outcome?_of_asksLoader (h : t.asksLoader scope = true) :
    t.before.registry.outcome? scope = none ∧
      ∃ outcome, t.after.registry.outcome? scope = some outcome := by
  unfold asksLoader at h
  cases hload : t.load? scope with
  | none =>
    rw [hload] at h
    cases h
  | some l =>
    rw [hload, Option.any_some] at h
    obtain ⟨found, answer, _, hafter, hcases⟩ := cases_of_load? hload
    cases hcases with
    | noEngine _ _ hasked => cases hasked.symm.trans h
    | kept _ _ _ hasked => cases hasked.symm.trans h
    | asked _ hnew _ _ hregistry =>
      rw [hafter, hregistry, outcome?_keep, if_pos rfl]
      exact ⟨hnew, _, rfl⟩

/-- What a load gives of which an outcome was kept. -/
theorem outcome?_of_kept {kept outcome : LoadOutcome}
    (hkept : t.before.registry.outcome? scope = some kept) (h : t.outcome? scope = some outcome) :
    ∃ answer, t.answer? = some answer ∧ outcome = match answer with
      | .ok _ => kept
      | .error e => .error (.engine e) := by
  obtain ⟨l, hload, rfl⟩ := Option.map_eq_some_iff.mp h
  obtain ⟨found, answer, hanswer, _, hcases⟩ := cases_of_load? hload
  refine ⟨answer, hanswer, ?_⟩
  cases hcases with
  | noEngine hfails houtcome => rw [hfails, houtcome]
  | kept hok hkept' houtcome =>
    rw [hok, houtcome]
    exact Option.some.inj (hkept'.symm.trans hkept)
  | asked _ hnew => cases hnew.symm.trans hkept

/-- A load that comes to its end, in whatever way, is kept. -/
theorem outcome?_after_of_outcome? {outcome : LoadOutcome} (h : t.outcome? scope = some outcome)
    (hends : ∀ e, outcome ≠ .error (.engine e)) :
    t.after.registry.outcome? scope = some outcome := by
  obtain ⟨l, hload, rfl⟩ := Option.map_eq_some_iff.mp h
  obtain ⟨found, answer, _, hafter, hcases⟩ := cases_of_load? hload
  cases hcases with
  | @noEngine e _ houtcome => exact absurd houtcome (hends e)
  | kept _ hkept houtcome _ hregistry => rw [hafter, hregistry, houtcome, hkept]
  | asked _ _ _ _ hregistry => rw [hafter, hregistry, outcome?_keep, if_pos rfl]

end Turn

/-! ### Errors of the engine -/

/-- What is made of the answer of a loader is no error of the engine. -/
theorem outcomeOf_ne_engine (options : EngineOptions) (found : Option GrammarSource)
    (e : EngineError) : outcomeOf options found ≠ .error (.engine e) := by
  intro h
  cases found with
  | none => cases h
  | some source =>
    rw [outcomeOf, GrammarSource.load, GrammarSource.read] at h
    cases hread : GrammarSpec.read source.path source.text.toList with
    | error cause =>
      rw [hread] at h
      cases cause <;> cases h
    | ok spec =>
      rw [hread] at h
      simp only [bind, Except.bind] at h
      cases hcompile : Grammar.compile options spec with
      | error e =>
        rw [hcompile] at h
        cases h
      | ok grammar =>
        rw [hcompile] at h
        cases h

namespace Turn

variable {t : Turn}

/-- A load that the engine fails does not ask the loader, and nothing is kept of it. -/
theorem of_engine_error {scope : String} {e : EngineError}
    (houtcome : t.outcome? scope = some (.error (.engine e))) :
    t.asksLoader scope = false ∧ t.after.registry = t.before.registry := by
  obtain ⟨l, hload, hl⟩ := Option.map_eq_some_iff.mp houtcome
  obtain ⟨found, answer, _, hafter, hcases⟩ := cases_of_load? hload
  rw [asksLoader, hload, Option.any_some]
  cases hcases with
  | noEngine _ _ hasked hregistry => exact ⟨hasked, hafter.trans hregistry⟩
  | kept _ _ _ hasked hregistry => exact ⟨hasked, hafter.trans hregistry⟩
  | asked _ _ hmade => exact absurd (hmade.symm.trans hl) (outcomeOf_ne_engine _ _ e)

end Turn

/-! ### A run of calls -/

section turns

variable {before : Caches} {calls : List Call} {scope : String}

/-- The first turn of a run, and the run of the calls that are still made after it. -/
theorem turns_cons (before : Caches) (call : Call) (calls : List Call) :
    turns before (call :: calls) = ⟨before, call⟩ :: turns (Turn.after ⟨before, call⟩)
      (if Turn.breaksDown ⟨before, call⟩ then [] else calls) := by
  rw [turns]
  split <;> rfl

/-- What holds of the first turn and stays holds of all. -/
theorem forall_turns {P : Caches → Prop} (hstep : ∀ t : Turn, P t.before → P t.after)
    (h : P before) : ∀ t ∈ turns before calls, P t.before := by
  induction calls generalizing before with
  | nil => exact fun t ht => absurd ht List.not_mem_nil
  | cons call rest ih =>
    rw [turns]
    refine List.forall_mem_cons.mpr ⟨h, ?_⟩
    split
    · exact fun t ht => absurd ht List.not_mem_nil
    · exact ih (hstep ⟨before, call⟩ h)

/-- What is kept for a scope stays. -/
theorem outcome?_before {outcome : LoadOutcome}
    (h : before.registry.outcome? scope = some outcome) :
    ∀ t ∈ turns before calls, t.before.registry.outcome? scope = some outcome :=
  forall_turns (P := fun c => c.registry.outcome? scope = some outcome)
    (fun _ => Turn.outcome?_after_of_some) h

/-- What holds of a turn and all turns of a run that goes on from it holds of each two of a run. -/
theorem pairwise_turns {R : Turn → Turn → Prop}
    (h : ∀ t rest, ∀ u ∈ turns (Turn.after t) rest, R t u) : (turns before calls).Pairwise R := by
  induction calls generalizing before with
  | nil => exact List.Pairwise.nil
  | cons call rest ih =>
    rw [turns]
    refine List.pairwise_cons.mpr ?_
    split
    · exact ⟨fun u hu => absurd hu List.not_mem_nil, List.Pairwise.nil⟩
    · exact ⟨h ⟨before, call⟩ rest, ih⟩

/-- A run that starts with a turn goes on from what is kept after it. -/
theorem exists_of_turns_eq_cons {t : Turn} {rest : List Turn} (h : turns before calls = t :: rest) :
    t.before = before ∧ ∃ calls', turns t.after calls' = rest := by
  cases calls with
  | nil => cases h
  | cons call calls =>
    rw [turns_cons] at h
    obtain ⟨rfl, hrest⟩ := List.cons.inj h
    exact ⟨rfl, _, hrest⟩

/-- The last turns of a run are a run from what was kept before them. -/
theorem exists_of_turns_eq_append {past rest : List Turn}
    (h : turns before calls = past ++ rest) :
    ∃ calls', turns (past.getLast?.elim before Turn.after) calls' = rest := by
  induction past generalizing before calls with
  | nil => exact ⟨calls, h⟩
  | cons t past ih =>
    obtain ⟨_, calls', hrun⟩ := exists_of_turns_eq_cons h
    have hlast : (t :: past).getLast?.elim before Turn.after =
        past.getLast?.elim t.after Turn.after := by
      rw [List.getLast?_cons]
      cases past.getLast? <;> rfl
    rw [hlast]
    exact ih hrun

/-- The loader is asked once for a scope. -/
theorem countP_asksLoader_le_one : (turns before calls).countP (·.asksLoader scope) ≤ 1 := by
  induction calls generalizing before with
  | nil => exact Nat.zero_le 1
  | cons call rest ih =>
    rw [turns, List.countP_cons]
    split
    · simp only [List.countP_nil]
      split <;> omega
    · by_cases hasks : Turn.asksLoader ⟨before, call⟩ scope = true
      · -- something is kept from here on, and so the loader is not asked again
        obtain ⟨_, outcome, hkept⟩ := Turn.outcome?_of_asksLoader hasks
        have hnone : (turns (Turn.after ⟨before, call⟩) rest).countP (·.asksLoader scope) = 0 := by
          refine List.countP_eq_zero.mpr fun t ht hagain => ?_
          obtain ⟨hnew, _⟩ := Turn.outcome?_of_asksLoader hagain
          cases hnew.symm.trans (outcome?_before hkept t ht)
        rw [hnone, if_pos hasks]
      · rw [if_neg hasks]
        exact ih

/-- As long as there is no reset, an answer is given again. -/
theorem of_answer_turns {block future : List Turn} {answer : Except EngineError EngineOptions}
    (h : turns before calls = block ++ future) (hresets : ∀ t ∈ block, t.call ≠ .reset)
    (hanswer : before.engine.answer = some answer) :
    ∀ t ∈ block, t.answer? = some answer ∧ t.asksSource = false := by
  induction block generalizing before calls with
  | nil => exact fun t ht => absurd ht List.not_mem_nil
  | cons t block ih =>
    obtain ⟨rfl, calls', hrun⟩ := exists_of_turns_eq_cons h
    obtain ⟨hreset, hblock⟩ := List.forall_mem_cons.mp hresets
    obtain ⟨hgiven, hasks, hafter⟩ := Turn.of_answer hanswer hreset
    exact List.forall_mem_cons.mpr ⟨⟨hgiven, hasks⟩, ih hrun hblock hafter⟩

/-- At the start and after a reset there is no answer, and the first call that asks the engine asks the
source. What it says is given to all until the next reset, and none of them asks again. -/
theorem asked_first {past block future : List Turn} {t : Turn}
    (h : turns {} calls = past ++ t :: block ++ future)
    (hpast : ∀ u ∈ past.getLast?, u.call = .reset) (hresets : ∀ u ∈ t :: block, u.call ≠ .reset) :
    ∃ source, t.source? = some source ∧ t.asksSource = true ∧
      t.answer? = some (source.bind EngineOptions.trial) ∧
      ∀ u ∈ block, u.answer? = some (source.bind EngineOptions.trial) ∧ u.asksSource = false := by
  obtain ⟨hreset, hblock⟩ := List.forall_mem_cons.mp hresets
  rw [List.append_assoc] at h
  obtain ⟨_, hhere⟩ := exists_of_turns_eq_append h
  obtain ⟨hbefore, _, hrun⟩ := exists_of_turns_eq_cons hhere
  have hnone : t.before.engine.answer = none := by
    rw [hbefore]
    cases hlast : past.getLast? with
    | none => rfl
    | some u =>
      have hcall : u.call = .reset := hpast u hlast
      rw [Option.elim_some, Turn.after, hcall]
      rfl
  obtain ⟨source, hsource, hasks, hanswer, hafter⟩ := Turn.of_no_answer hnone hreset
  exact ⟨source, hsource, hasks, hanswer, of_answer_turns hrun hblock hafter⟩

end turns

/-- **Sources and loaders are asked once.** The calls of a run start an engine, reset it and load any
scopes, with any answers of the source and the loader. Then

* the source is asked at most once between two resets, and all that ask the engine get what it said
  then;
* the loader is asked at most once for a scope;
* a load that comes to its end, with a grammar, without one or with what is wrong with it, is kept:
  a later load of the scope gives the same if the engine starts, else the error of the engine;
* a load that the engine fails does not ask the loader, and nothing is kept of it;
* what is kept stays;
* a call changes what is kept for a scope only if it is a load of it. -/
theorem asked_once (calls : List Call) :
    (∀ past t block future, turns {} calls = past ++ t :: block ++ future →
      (∀ u ∈ past.getLast?, u.call = .reset) → (∀ u ∈ t :: block, u.call ≠ .reset) →
      ∃ source, t.source? = some source ∧ t.asksSource = true ∧
        t.answer? = some (source.bind EngineOptions.trial) ∧
        ∀ u ∈ block, u.answer? = some (source.bind EngineOptions.trial) ∧ u.asksSource = false) ∧
    (∀ scope, (turns {} calls).countP (·.asksLoader scope) ≤ 1) ∧
    ((turns {} calls).Pairwise fun t u => ∀ scope outcome result,
      t.outcome? scope = some outcome → (∀ e, outcome ≠ .error (.engine e)) →
      u.outcome? scope = some result →
      ∃ answer, u.answer? = some answer ∧ result = match answer with
        | .ok _ => outcome
        | .error e => .error (.engine e)) ∧
    (∀ t ∈ turns {} calls, ∀ scope e, t.outcome? scope = some (.error (.engine e)) →
      t.asksLoader scope = false ∧ t.after.registry = t.before.registry) ∧
    (∀ t ∈ turns {} calls, ∀ scope, t.before.registry.isCached scope = true →
      t.after.registry.isCached scope = true) ∧
    ((turns {} calls).Pairwise fun t u => ∀ scope, t.after.registry.isCached scope = true →
      u.before.registry.isCached scope = true) ∧
    ∀ t ∈ turns {} calls, ∀ scope, t.load? scope = none →
      t.after.registry.outcome? scope = t.before.registry.outcome? scope := by
  refine ⟨fun past t block future => asked_first, fun scope => countP_asksLoader_le_one,
    pairwise_turns fun t rest u hu scope outcome result hfirst hends hlater => ?_,
    fun t _ scope e => Turn.of_engine_error, fun t _ scope hcached => ?_,
    pairwise_turns fun t rest u hu scope hcached => ?_,
    fun t _ scope => Turn.outcome?_after_of_load?_eq_none⟩
  · have hkept := outcome?_before (Turn.outcome?_after_of_outcome? hfirst hends) u hu
    exact Turn.outcome?_of_kept hkept hlater
  · obtain ⟨outcome, hkept⟩ := Option.isSome_iff_exists.mp hcached
    exact Option.isSome_iff_exists.mpr ⟨outcome, Turn.outcome?_after_of_some hkept⟩
  · obtain ⟨outcome, hkept⟩ := Option.isSome_iff_exists.mp hcached
    exact Option.isSome_iff_exists.mpr ⟨outcome, outcome?_before hkept u hu⟩

end GrammarRegistry

end Tincture
