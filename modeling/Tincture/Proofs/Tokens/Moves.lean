import Tincture.Proofs.Grammar.RuleTable
import Tincture.Proofs.Tokens.Steps

/-!
# Steps come to an end

A step that does not end the line takes text, or it opens or closes a region at the place where the
search stands (`Move`, `move_of_step`). No more regions are opened at one place than
`maxZeroWidthPushes`, and each one that is closed was open before; so a number that the text that is
left, the openings that are left and the depth of the stack add up to gets smaller with every such
step (`State.measure`, `Move.measure_lt`). It starts below the fuel of a line, so that the line always
ends by a step that says so (`exists_steps_lastState`).

A group could be met again and again without any of this; but no search comes upon a group
(`rule?_of_nextMatch?`).
-/

namespace Tincture.Tokenize

variable {g : Grammar} {text : Array Char} {s t : State} {top : Frame} {m : Match}

/-! ### What a step does -/

/-- The record of the regions that were opened, with one more opened at this place. -/
def State.enteredHere (s : State) : List (Nat × Nat) :=
  (s.entered.filter fun e => e.1 < s.stack.depth + 1) ++ [(s.stack.depth + 1, s.pos)]

theorem State.mem_enteredHere_iff {s : State} {depth place : Nat} :
    (depth, place) ∈ s.enteredHere ↔
      (depth ≤ s.stack.depth ∧ (depth, place) ∈ s.entered) ∨
      (depth = s.stack.depth + 1 ∧ place = s.pos) := by
  simp only [State.enteredHere, List.mem_append, List.mem_filter, List.mem_singleton,
    decide_eq_true_eq, Prod.mk.injEq, Nat.lt_add_one_iff]
  exact or_congr_left and_comm

/-- What a step does that does not end the line. -/
inductive Move (size : Nat) (s t : State) : Prop
  /-- Text is taken inside a region. -/
  | pass (hpos : s.pos < t.pos) (hsize : t.pos ≤ size) (hstack : t.stack = s.stack)
      (hentered : t.entered = s.entered) (hzero : t.zeroWidth = 0)
  /-- Text is taken that closes a region. -/
  | close {top : Frame} (hpos : s.pos < t.pos) (hsize : t.pos ≤ size)
      (hstack : s.stack = top :: t.stack) (hentered : t.entered = s.entered)
      (hzero : t.zeroWidth = 0)
  /-- A region is closed by nothing, but it was not opened at this place. -/
  | closeHere {top : Frame} (hpos : t.pos = s.pos) (hstack : s.stack = top :: t.stack)
      (hentered : t.entered = s.entered) (hzero : t.zeroWidth = s.zeroWidth)
      (hfresh : (s.stack.depth, s.pos) ∉ s.entered)
  /-- Text is taken that opens a region. -/
  | enter {f : Frame} (hpos : s.pos < t.pos) (hsize : t.pos ≤ size)
      (hstack : t.stack = f :: s.stack) (hentered : t.entered = s.enteredHere)
      (hzero : t.zeroWidth = 0)
  /-- A region is opened by nothing, and there were not too many at this place. -/
  | enterHere {f : Frame} (hpos : t.pos = s.pos) (hstack : t.stack = f :: s.stack)
      (hentered : t.entered = s.enteredHere) (hzero : t.zeroWidth = s.zeroWidth + 1)
      (hmost : t.zeroWidth ≤ maxZeroWidthPushes)

/-- To the stack and the record of opened regions a step does one of two things: it takes regions off,
or it puts one on and records it. -/
theorem Move.stack_cases {size : Nat} (h : Move size s t) :
    (t.stack <:+ s.stack ∧ t.entered = s.entered) ∨
    ∃ f, t.stack = f :: s.stack ∧ t.entered = s.enteredHere := by
  cases h with
  | pass _ _ hstack hentered => exact Or.inl ⟨by simp only [hstack, List.suffix_refl], hentered⟩
  | close _ _ hstack hentered => exact Or.inl ⟨by rw [hstack]; exact List.suffix_cons _ _, hentered⟩
  | closeHere _ hstack hentered =>
    exact Or.inl ⟨by rw [hstack]; exact List.suffix_cons _ _, hentered⟩
  | enter _ _ hstack hentered => exact Or.inr ⟨_, hstack, hentered⟩
  | enterHere _ hstack hentered => exact Or.inr ⟨_, hstack, hentered⟩

theorem move_of_stopRegion {rest : RuleStack} (hstack : s.stack = top :: rest)
    (hm : m.fits s.pos text.size = true) (h : stopRegion g text s top m = .next t) :
    Move text.size s t := by
  have hpop : s.stack = top :: s.stack.pop := by
    rw [hstack]
    rfl
  unfold stopRegion at h
  dsimp only at h
  split at h
  · cases h
  · rename_i hgoes
    obtain rfl := Outcome.next.inj h
    by_cases hpos : s.pos < m.stop
    · rw [State.advance, if_pos hpos]
      exact .close hpos (Match.stop_le_of_fits hm) hpop rfl rfl
    · rw [State.advance, if_neg hpos]
      refine .closeHere rfl hpop rfl rfl ?_
      simpa [hpos] using hgoes

/-- What was painted before the match makes no difference. -/
theorem move_of_beginRegion {paint : Paint} {rule : Rule} {captures : CaptureNames}
    {stop condition : Option FollowPattern} (hm : m.fits s.pos text.size = true)
    (h : beginRegion text { s with paint } top rule m captures stop condition = .next t) :
    Move text.size s t := by
  unfold beginRegion at h
  dsimp only at h
  split at h
  · rename_i hpos
    obtain rfl := Outcome.next.inj h
    rw [State.advance, if_pos hpos]
    exact .enter hpos (Match.stop_le_of_fits hm) rfl rfl rfl
  · split at h
    · cases h
    · rename_i hgoes
      obtain rfl := Outcome.next.inj h
      exact .enterHere rfl rfl rfl rfl (Nat.not_lt.mp (not_or.mp hgoes).2)

/-- A rule that is no group takes text or opens a region. -/
theorem move_of_applyRule {rule : Rule} (hrule : rule.kind.isGroup = false)
    (hm : m.fits s.pos text.size = true) (h : applyRule g text s top rule m = .next t) :
    Move text.size s t := by
  unfold applyRule at h
  cases hkind : rule.kind with
  | single pattern captures =>
    rw [hkind] at h
    dsimp only at h
    split at h
    · rename_i hpos
      obtain rfl := Outcome.next.inj h
      rw [State.advance, if_pos hpos]
      exact .pass hpos (Match.stop_le_of_fits hm) rfl rfl rfl
    · cases h
  | region =>
    rw [hkind] at h
    exact move_of_beginRegion hm h
  | whileRegion =>
    rw [hkind] at h
    exact move_of_beginRegion hm h
  | group =>
    rw [hkind] at hrule
    cases hrule

/-- The rule that a search comes upon stands in the table, and is no group. -/
theorem rule?_of_nextMatch? {options : EngineOptions} {spec : GrammarSpec}
    (hg : Grammar.compile options spec = .ok g) {pos : Nat} {id : RuleId}
    (h : nextMatch? g text pos top = some (.rule id, m)) :
    ∃ rule, g.rule? id = some rule ∧ rule.kind.isGroup = false := by
  have hchild : childMatch? g text pos top = some (id, m) := by
    unfold nextMatch? at h
    split at h
    · obtain h := Option.some.inj h
      split_ifs at h
      all_goals cases h
      all_goals assumption
    · cases h
      assumption
    · cases h
    · cases h
  simp only [childMatch?, Option.bind_eq_bind, Option.pure_def, Option.bind_eq_some_iff,
    Option.some.injEq, Prod.mk.injEq] at hchild
  obtain ⟨s, hs, found, _, target, htarget, rfl, _⟩ := hchild
  exact Grammar.isTarget_of_scanner? hg hs target (List.mem_of_getElem? htarget)

/-- **A step** that does not end the line takes text, or opens or closes a region. -/
theorem move_of_step {options : EngineOptions} {spec : GrammarSpec}
    (hg : Grammar.compile options spec = .ok g) (h : step g text s = .next t) :
    Move text.size s t := by
  unfold step at h
  split at h
  · cases h
  rename_i top htop
  split at h
  · cases h
  · rename_i m hm
    obtain ⟨rest, hstack⟩ : ∃ rest, s.stack = top :: rest := List.head?_eq_some_iff.mp htop
    exact move_of_stopRegion hstack (of_nextMatch? hm).1 h
  · rename_i id m hm
    obtain ⟨rule, hrule, hkind⟩ := rule?_of_nextMatch? hg hm
    rw [hrule] at h
    exact move_of_applyRule hkind (of_nextMatch? hm).1 h

theorem stack_of_beginRegion_done {paint : Paint} {rule : Rule} {captures : CaptureNames}
    {stop condition : Option FollowPattern}
    (h : beginRegion text { s with paint } top rule m captures stop condition = .done t) :
    t.stack = s.stack := by
  unfold beginRegion at h
  dsimp only at h
  split at h
  · cases h
  · split at h
    · obtain rfl := Outcome.done.inj h
      rfl
    · cases h

/-- A step that ends the line leaves all regions open. -/
theorem stack_of_step_done (h : step g text s = .done t) : t.stack = s.stack := by
  unfold step at h
  split at h
  · obtain rfl := Outcome.done.inj h
    rfl
  rename_i top _
  split at h
  · obtain rfl := Outcome.done.inj h
    rfl
  · unfold stopRegion at h
    dsimp only at h
    split at h
    · obtain rfl := Outcome.done.inj h
      rfl
    · cases h
  · split at h
    · unfold applyRule at h
      dsimp only at h
      split at h
      · split at h
        · cases h
        · obtain rfl := Outcome.done.inj h
          rfl
      · exact stack_of_beginRegion_done h
      · exact stack_of_beginRegion_done h
      · cases h
    · obtain rfl := Outcome.done.inj h
      rfl

/-! ### A number that gets smaller -/

/-- How many more steps there can be, given the size of the text: all characters that are left may be
taken one by one, each by a region that opens after as many others as may open at one place. -/
def State.measure (size : Nat) (s : State) : Nat :=
  s.stack.depth + 132 * (size - s.pos) + 2 * (maxZeroWidthPushes - s.zeroWidth)

theorem Move.measure_lt {size : Nat} (h : Move size s t) : t.measure size < s.measure size := by
  unfold State.measure maxZeroWidthPushes RuleStack.depth
  cases h with
  | pass hpos hsize hstack _ hzero =>
    rw [hstack, hzero]
    omega
  | close hpos hsize hstack _ hzero =>
    rw [hstack, hzero, List.length_cons]
    omega
  | closeHere hpos hstack _ hzero =>
    rw [hpos, hstack, hzero, List.length_cons]
    omega
  | enter hpos hsize hstack _ hzero =>
    rw [hstack, hzero, List.length_cons]
    omega
  | enterHere hpos hstack _ hzero hmost =>
    unfold maxZeroWidthPushes at hmost
    rw [hpos, hstack, hzero, List.length_cons]
    omega

/-! ### Lines end -/

/-- One state leads to another by steps that do not end the line. -/
def Steps (g : Grammar) (text : Array Char) : State → State → Prop :=
  Relation.ReflTransGen fun s t => step g text s = .next t

/-- **Steps come to an end**: with more fuel than the measure they end by themselves. -/
theorem exists_steps_run {options : EngineOptions} {spec : GrammarSpec}
    (hg : Grammar.compile options spec = .ok g) {fuel : Nat} (hfuel : s.measure text.size < fuel) :
    ∃ t, Steps g text s t ∧ step g text t = .done (run g text fuel s) := by
  induction fuel generalizing s with
  | zero => exact absurd hfuel (Nat.not_lt_zero _)
  | succ fuel ih =>
    cases hstep : step g text s with
    | next t =>
      have hless := (move_of_step hg hstep).measure_lt
      obtain ⟨u, htu, hlast⟩ := ih (s := t) (by omega)
      refine ⟨u, .head hstep htu, ?_⟩
      rw [run, hstep]
      exact hlast
    | done t =>
      refine ⟨s, .refl, ?_⟩
      rw [run, hstep]

/-- **A line** ends by a step that says so. -/
theorem exists_steps_lastState {options : EngineOptions} {spec : GrammarSpec}
    (hg : Grammar.compile options spec = .ok g) (line : List Char) (stack : RuleStack) :
    ∃ s, Steps g (lineText line) (firstState g line stack) s ∧
      step g (lineText line) s = .done (lastState g line stack) := by
  refine exists_steps_run hg ?_
  unfold State.measure fuel maxZeroWidthPushes
  omega

end Tincture.Tokenize
