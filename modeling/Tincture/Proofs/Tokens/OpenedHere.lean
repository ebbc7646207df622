import Mathlib.Data.List.Infix
import Tincture.Proofs.Tokens.Begun

/-!
# Regions that end where they began

A line goes through states (`stateAt`), and in each of them a region that is open was open before the
line or was put on the stack by one of the steps so far and has not been taken off since (`OpenedBy`).
The state does not keep this. It has a list of depths and places, from which nothing is taken when a
region ends, so that it also tells of regions that are gone. But a region that is put on takes out all
that the list says of its depth and of greater ones; so what it says of the depth of an open region is
about this region (`mem_entered_iff`).

So of the ends that take no text just those of regions that were opened at the same place of the line
are undone, and end the line (`stop_undone_iff`).
-/

namespace Tincture.Tokenize

variable {g : Grammar} {line : List Char} {stack base : RuleStack} {n k : Nat}

/-! ### States of a line -/

/-- The step did not end the line. -/
def Outcome.goesOn : Outcome → Bool
  | .next _ => true
  | .done _ => false

/-- The state of a line after a number of steps. -/
def stateAt (g : Grammar) (line : List Char) (stack : RuleStack) : Nat → State
  | 0 => firstState g line stack
  | n + 1 => (step g (lineText line) (stateAt g line stack n)).state

/-- None of the first steps of a line ends it. -/
def GoesOn (g : Grammar) (line : List Char) (stack : RuleStack) (n : Nat) : Prop :=
  ∀ k < n, (step g (lineText line) (stateAt g line stack k)).goesOn = true

instance (g : Grammar) (line : List Char) (stack : RuleStack) (n : Nat) :
    Decidable (GoesOn g line stack n) :=
  inferInstanceAs (Decidable (∀ k < n, _))

/-- The innermost region of a part of the stack was opened by a step, and has been open since. -/
structure OpenedBy (g : Grammar) (line : List Char) (stack base : RuleStack) (n k : Nat) : Prop where
  lt : k < n
  /-- The step put the region on the stack that was there. -/
  pushed : ∃ f, base = f :: (stateAt g line stack k).stack
  stack_eq : (stateAt g line stack (k + 1)).stack = base
  /-- No step since then took it off. -/
  kept : ∀ i, k < i → i ≤ n → base <:+ (stateAt g line stack i).stack

theorem GoesOn.step_eq (h : GoesOn g line stack n) (hk : k < n) :
    step g (lineText line) (stateAt g line stack k) = .next (stateAt g line stack (k + 1)) := by
  have hnext := h k hk
  rw [stateAt]
  cases hstep : step g (lineText line) (stateAt g line stack k) with
  | next t => rfl
  | done t =>
    rw [hstep] at hnext
    cases hnext

theorem GoesOn.steps (h : GoesOn g line stack n) :
    Steps g (lineText line) (firstState g line stack) (stateAt g line stack n) := by
  induction n with
  | zero => exact .refl
  | succ n ih =>
    have hbefore : GoesOn g line stack n := fun k hk => h k (Nat.lt_succ_of_lt hk)
    exact .tail (ih hbefore) (h.step_eq (Nat.lt_succ_self n))

/-- The states that steps lead to are all on the way to the one step that ends the line. -/
theorem lastState_eq_of_done {options : EngineOptions} {spec : GrammarSpec}
    (hg : Grammar.compile options spec = .ok g) {s t : State}
    (hs : Steps g (lineText line) (firstState g line stack) s)
    (ht : step g (lineText line) s = .done t) : lastState g line stack = t := by
  obtain ⟨s', hs', hlast⟩ := exists_steps_lastState hg line stack
  have hunique : Relator.RightUnique fun s t => step g (lineText line) s = .next t := by
    intro a b c hb hc
    exact Outcome.next.inj (hb.symm.trans hc)
  have hnone : ∀ {a b c}, step g (lineText line) a = .done b →
      Relation.ReflTransGen (fun s t => step g (lineText line) s = .next t) a c → a = c := by
    intro a b c hdone hsteps
    rcases hsteps.cases_head with heq | ⟨d, hnext, _⟩
    · exact heq
    · rw [hdone] at hnext
      cases hnext
  -- steps are determined, so one of the two states leads to the other; but from neither a step leads on
  have heq : s = s' := by
    rcases hs.total_of_right_unique hunique hs' with h | h
    · exact hnone ht h
    · exact (hnone hlast h).symm
  rw [heq, hlast] at ht
  exact Outcome.done.inj ht

/-! ### What the list of opened regions says -/

/-- A region that was opened before a step is still open after it, or the step opened it. -/
theorem openedBy_succ_iff :
    OpenedBy g line stack base (n + 1) k ↔
      (OpenedBy g line stack base n k ∧ base <:+ (stateAt g line stack (n + 1)).stack) ∨
      (k = n ∧ (∃ f, base = f :: (stateAt g line stack n).stack) ∧
        (stateAt g line stack (n + 1)).stack = base) := by
  constructor
  · intro h
    by_cases hk : k = n
    · subst hk
      exact Or.inr ⟨rfl, h.pushed, h.stack_eq⟩
    · have hlt : k < n := Nat.lt_of_le_of_ne (Nat.le_of_lt_succ h.lt) hk
      exact Or.inl ⟨⟨hlt, h.pushed, h.stack_eq, fun i hi hle => h.kept i hi (Nat.le_succ_of_le hle)⟩,
        h.kept (n + 1) h.lt (Nat.le_refl _)⟩
  · rintro (⟨h, hkept⟩ | ⟨rfl, hpushed, hstack⟩)
    · refine ⟨Nat.lt_succ_of_lt h.lt, h.pushed, h.stack_eq, fun i hi hle => ?_⟩
      rcases Nat.le_succ_iff.mp hle with hle | rfl
      · exact h.kept i hi hle
      · exact hkept
    · refine ⟨Nat.lt_succ_self _, hpushed, hstack, fun i hi hle => ?_⟩
      obtain rfl : i = k + 1 := by omega
      rw [hstack]

/-- A step changes nothing for a region that is open before it and after it. -/
theorem openedBy_succ_of_suffix (hbefore : base <:+ (stateAt g line stack n).stack)
    (hafter : base <:+ (stateAt g line stack (n + 1)).stack) :
    OpenedBy g line stack base (n + 1) k ↔ OpenedBy g line stack base n k := by
  rw [openedBy_succ_iff]
  constructor
  · rintro (⟨h, _⟩ | ⟨_, ⟨f, rfl⟩, _⟩)
    · exact h
    · exact absurd hbefore.length_le (Nat.not_succ_le_self _)
  · exact fun h => Or.inl ⟨h, hafter⟩

/-- **The list of opened regions** has the depth of an open region with just the place of the line where
the region was opened, if it was opened on this line. -/
theorem mem_entered_iff {options : EngineOptions} {spec : GrammarSpec}
    (hg : Grammar.compile options spec = .ok g) (hn : GoesOn g line stack n)
    (hbase : base <:+ (stateAt g line stack n).stack) (place : Nat) :
    (base.depth, place) ∈ (stateAt g line stack n).entered ↔
      ∃ k, OpenedBy g line stack base n k ∧ (stateAt g line stack k).pos = place := by
  -- about a part of the stack, as other regions may be open inside this one on the way
  induction n with
  | zero =>
    constructor
    · intro hmem
      exact absurd hmem List.not_mem_nil
    · rintro ⟨k, hk, _⟩
      exact absurd hk.lt (Nat.not_lt_zero k)
  | succ n ih =>
    have hbefore : GoesOn g line stack n := fun k hk => hn k (Nat.lt_succ_of_lt hk)
    have hmove := move_of_step hg (hn.step_eq (Nat.lt_succ_self n))
    rcases hmove.stack_cases with ⟨hstack, hentered⟩ | ⟨f, hstack, hentered⟩
    · -- the step opened no region
      have hold : base <:+ (stateAt g line stack n).stack := hbase.trans hstack
      simp only [openedBy_succ_of_suffix hold hbase]
      rw [hentered, ih hbefore hold]
    · rw [hentered, State.mem_enteredHere_iff]
      have hpart := hbase
      rw [hstack] at hpart
      rcases List.suffix_cons_iff.mp hpart with rfl | hold
      · -- the region is the one that the step opened
        constructor
        · rintro (⟨hdepth, _⟩ | ⟨_, rfl⟩)
          · exact absurd hdepth (Nat.not_succ_le_self _)
          · exact ⟨n, openedBy_succ_iff.mpr (Or.inr ⟨rfl, ⟨f, rfl⟩, hstack⟩), rfl⟩
        · rintro ⟨k, hk, rfl⟩
          rcases openedBy_succ_iff.mp hk with ⟨h, _⟩ | ⟨rfl, _, _⟩
          · exact absurd (h.kept n h.lt (Nat.le_refl n)).length_le (Nat.not_succ_le_self _)
          · exact Or.inr ⟨rfl, rfl⟩
      · -- the region was there before the step, and is not as deep as the one that the step opened
        have hdepth : base.depth ≤ (stateAt g line stack n).stack.depth := hold.length_le
        have hnew : ¬ base.depth = (stateAt g line stack n).stack.depth + 1 := by omega
        simp only [openedBy_succ_of_suffix hold hbase]
        rw [and_iff_right hdepth, or_iff_left (fun h => hnew h.1), ih hbefore hold]

/-! ### Ends that take no text -/

/-- **An end that takes no text** is undone, and ends the line, just if the region that it would close was
opened at the same place of this line, which is what the list of opened regions says when an end is met.
All other ends that take no text close their region. -/
theorem stop_undone_iff {options : EngineOptions} {spec : GrammarSpec}
    (hg : Grammar.compile options spec = .ok g) (hn : GoesOn g line stack n) {top : Frame} {m : Match}
    (htop : (stateAt g line stack n).stack.top? = some top)
    (hm : nextMatch? g (lineText line) (stateAt g line stack n).pos top = some (.stop, m)) :
    let s := stateAt g line stack n
    let openedHere := ∃ k, OpenedBy g line stack s.stack n k ∧ (stateAt g line stack k).pos = s.pos
    ((s.stack.depth, s.pos) ∈ s.entered ↔ openedHere) ∧
    (¬ s.pos < m.stop →
      ((∃ t, step g (lineText line) s = .done t) ↔ openedHere) ∧
      (∀ t, step g (lineText line) s = .done t → t.stack = s.stack ∧
        tokenizeLine g line stack =
          ⟨t.paint.finish line.length t.stack.innerScopes, t.stack⟩) ∧
      (∀ t, step g (lineText line) s = .next t → t.stack = s.stack.pop ∧ t.pos = s.pos)) := by
  intro s openedHere
  have hentered : (s.stack.depth, s.pos) ∈ s.entered ↔ openedHere :=
    mem_entered_iff hg hn (List.suffix_refl _) s.pos
  have hstep : step g (lineText line) s = stopRegion g (lineText line) s top m := by
    unfold step
    rw [htop]
    dsimp only
    rw [hm]
  refine ⟨hentered, fun hpos => ⟨?_, fun t ht => ?_, fun t ht => ?_⟩⟩
  · rw [hstep, ← hentered]
    unfold stopRegion
    by_cases hmem : (s.stack.depth, s.pos) ∈ s.entered
    · simp [hpos, hmem]
    · simp [hmem]
  · refine ⟨stack_of_step_done ht, ?_⟩
    rw [tokenizeLine_eq, lastState_eq_of_done hg hn.steps ht]
  · rw [hstep] at ht
    unfold stopRegion at ht
    dsimp only at ht
    split at ht
    · cases ht
    · obtain rfl := Outcome.next.inj ht
      rw [State.advance, if_neg hpos]
      exact ⟨rfl, rfl⟩

/-- A file with a region that begins with a `<` or with no text at all, and ends with no text before an
`x`. -/
def anchoredSpec : GrammarSpec where
  scopeName := "source.anchored"
  patterns := [{ name := some "tag", beginPattern := some "<?", endPattern := some "(?=x)" }]

/-- What is made of it. -/
def anchored : Grammar where
  scopeName := "source.anchored"
  name := none
  fileTypes := []
  rules := #[{ id := 0, kind := .group [1] },
    { id := 1, name := some "tag", kind := .region (Pattern.compile? {} "<?") {}
        (.fixed "(?=x)" (Pattern.compile? {} "(?=x)")) {} false [] }]
  scanners := #[some ⟨⟨[Pattern.compile? {} "<?"]⟩, [1]⟩, some ⟨⟨[]⟩, []⟩]
  options := {}

theorem compile_anchoredSpec : Grammar.compile {} anchoredSpec = .ok anchored := by
  rw [Compile.compile_eq_compute]
  rfl

/-- Before an `x` the region would end where it began, which ends the line. After a `<` it ends at
another place, with as little text. -/
theorem stop_undone_iff_anchored :
    (∃ t, step anchored (lineText "x".toList) (stateAt anchored "x".toList [] 1) = .done t ∧
      t.stack.map (·.rule) = [1, 0]) ∧
    ∃ t, step anchored (lineText "<x".toList) (stateAt anchored "<x".toList [] 1) = .next t ∧
      t.stack.map (·.rule) = [0] := by
  constructor
  · have hnext : (stateAt anchored "x".toList [] 1).stack.top?.bind
        (nextMatch? anchored (lineText "x".toList) (stateAt anchored "x".toList [] 1).pos) =
          some (.stop, ⟨⟨0, 0⟩, []⟩) := by decide +kernel
    obtain ⟨top, htop, hm⟩ := Option.bind_eq_some_iff.mp hnext
    obtain ⟨hentered, hend⟩ :=
      stop_undone_iff compile_anchoredSpec (by decide +kernel) htop hm
    obtain ⟨hdone, hundone, _⟩ := hend (by decide +kernel)
    obtain ⟨t, ht⟩ := hdone.mpr (hentered.mp (by decide +kernel))
    refine ⟨t, ht, ?_⟩
    rw [(hundone t ht).1]
    decide +kernel
  · have hnext : (stateAt anchored "<x".toList [] 1).stack.top?.bind
        (nextMatch? anchored (lineText "<x".toList) (stateAt anchored "<x".toList [] 1).pos) =
          some (.stop, ⟨⟨1, 1⟩, []⟩) := by decide +kernel
    obtain ⟨top, htop, hm⟩ := Option.bind_eq_some_iff.mp hnext
    obtain ⟨hentered, hend⟩ :=
      stop_undone_iff compile_anchoredSpec (by decide +kernel) htop hm
    obtain ⟨hdone, _, hpop⟩ := hend (by decide +kernel)
    cases hstep : step anchored (lineText "<x".toList) (stateAt anchored "<x".toList [] 1) with
    | done t =>
      have hmem := hentered.mpr (hdone.mp ⟨t, hstep⟩)
      exact absurd hmem (by decide +kernel)
    | next t =>
      refine ⟨t, rfl, ?_⟩
      rw [(hpop t hstep).1]
      decide +kernel

end Tincture.Tokenize
