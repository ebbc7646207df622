import Tincture.Proofs.Grammar.Computed
import Tincture.Proofs.Tokens.Moves

/-!
# Where the open regions began

Beside the states of a line goes a record of where on it each open region was begun, and how far the
text went that began it (`Visits`). The state itself only keeps depths and places of the regions that
were opened, also of such as were closed again; still it tells of each open region where it began on
this line, if it did (`Tracked.entered_iff`).

So a region that nothing closes was not begun at that place, and of the open regions no more than
`maxZeroWidthPushes` were begun by nothing at one place. With that the line ends
(`line_ends`).
-/

namespace Tincture.Tokenize

variable {g : Grammar} {s t : State} {begun : List (Option Span)}

/-- The record of where the open regions began, after a step. -/
def begunAfter (begun : List (Option Span)) (s t : State) : List (Option Span) :=
  if s.stack.depth < t.stack.depth then some ⟨s.pos, t.pos⟩ :: begun
  else if t.stack.depth < s.stack.depth then begun.tail
  else begun

theorem begunAfter_of_same (h : t.stack = s.stack) : begunAfter begun s t = begun := by
  simp [begunAfter, h]

theorem begunAfter_of_pushed {f : Frame} (h : t.stack = f :: s.stack) :
    begunAfter begun s t = some ⟨s.pos, t.pos⟩ :: begun := by
  simp [begunAfter, h, RuleStack.depth]

theorem begunAfter_of_popped {top : Frame} (h : s.stack = top :: t.stack) :
    begunAfter begun s t = begun.tail := by
  unfold begunAfter RuleStack.depth
  rw [h, List.length_cons, if_neg (by omega), if_pos (Nat.lt_succ_self _)]

/-- The states that the steps of a line go through. With each goes, for every open region, the
innermost first, the stretch of this line that began it; a region that was open before has none. -/
inductive Visits (g : Grammar) (line : List Char) (stack : RuleStack) :
    State → List (Option Span) → Prop
  | first : Visits g line stack (firstState g line stack)
      ((firstState g line stack).stack.map fun _ => none)
  | next {s t : State} {begun : List (Option Span)} (hs : Visits g line stack s begun)
      (hstep : step g (lineText line) s = .next t) : Visits g line stack t (begunAfter begun s t)

/-- What a state and the record of where its regions began have to do with each other. -/
structure Tracked (s : State) (begun : List (Option Span)) : Prop where
  length_eq : begun.length = s.stack.depth
  /-- A region was opened at its depth where it began, and nowhere else. -/
  entered_iff : ∀ b before, b :: before <:+ begun →
    ∀ place, (before.length + 1, place) ∈ s.entered ↔ b.map Span.start = some place
  zeroWidth_le : s.zeroWidth ≤ maxZeroWidthPushes
  /-- The innermost regions are those that nothing began at this place; the others began before. -/
  here : ∃ before, begun = List.replicate s.zeroWidth (some ⟨s.pos, s.pos⟩) ++ before ∧
    ∀ b, some b ∈ before → b.start < s.pos
  count_le : ∀ place, begun.count (some ⟨place, place⟩) ≤ maxZeroWidthPushes

namespace Tracked

/-- All regions began at this place or before. -/
theorem start_le (h : Tracked s begun) {b : Span} (hb : some b ∈ begun) : b.start ≤ s.pos := by
  obtain ⟨before, hbegun, hbefore⟩ := h.here
  rw [hbegun, List.mem_append] at hb
  rcases hb with hb | hb
  · obtain rfl := Option.some.inj (List.eq_of_mem_replicate hb)
    exact Nat.le_refl _
  · exact Nat.le_of_lt (hbefore b hb)

/-- As many open regions began by nothing at this place as the state has counted. -/
theorem count_here (h : Tracked s begun) :
    begun.count (some ⟨s.pos, s.pos⟩) = s.zeroWidth := by
  obtain ⟨before, hbegun, hbefore⟩ := h.here
  have hnone : before.count (some ⟨s.pos, s.pos⟩) = 0 :=
    List.count_eq_zero.mpr fun hmem => Nat.lt_irrefl _ (hbefore _ hmem)
  rw [hbegun, List.count_append, List.count_replicate_self, hnone, Nat.add_zero]

/-- Once text was taken, no region began at the new place. -/
theorem here_of_lt (h : Tracked s begun) {rest : List (Option Span)} (hrest : rest ⊆ begun)
    (hpos : s.pos < t.pos) (hzero : t.zeroWidth = 0) :
    ∃ before, rest = List.replicate t.zeroWidth (some ⟨t.pos, t.pos⟩) ++ before ∧
      ∀ b, some b ∈ before → b.start < t.pos := by
  refine ⟨rest, by rw [hzero]; rfl, fun b hb => ?_⟩
  exact Nat.lt_of_le_of_lt (h.start_le (hrest hb)) hpos

/-- The region that was opened is recorded, and the others stay so. -/
theorem entered_iff_enteredHere (h : Tracked s begun) (stop : Nat) :
    ∀ b before, b :: before <:+ some ⟨s.pos, stop⟩ :: begun →
      ∀ place, (before.length + 1, place) ∈ s.enteredHere ↔ b.map Span.start = some place := by
  intro b before hsuffix place
  rw [State.mem_enteredHere_iff, ← h.length_eq]
  rcases List.suffix_cons_iff.mp hsuffix with heq | hold
  · obtain ⟨rfl, rfl⟩ := List.cons.inj heq
    rw [Option.map_some, Option.some.injEq]
    constructor
    · rintro (⟨hdepth, _⟩ | ⟨_, hplace⟩)
      · omega
      · exact hplace.symm
    · exact fun hplace => Or.inr ⟨rfl, hplace.symm⟩
  · have hlength := hold.length_le
    rw [List.length_cons] at hlength
    rw [← h.entered_iff b before hold place]
    constructor
    · rintro (⟨_, hentered⟩ | ⟨hdepth, _⟩)
      · exact hentered
      · omega
    · exact fun hentered => Or.inl ⟨hlength, hentered⟩

/-- The innermost region is left out of the record with the region itself. -/
theorem length_tail (h : Tracked s begun) {top : Frame} (hstack : s.stack = top :: t.stack) :
    begun.tail.length = t.stack.depth := by
  rw [List.length_tail, h.length_eq, hstack]
  rfl

theorem count_tail_le (h : Tracked s begun) (place : Nat) :
    begun.tail.count (some ⟨place, place⟩) ≤ maxZeroWidthPushes :=
  Nat.le_trans (begun.tail_sublist.count_le _) (h.count_le place)

/-- A region that is not recorded as opened here did not begin here. -/
theorem head?_ne (h : Tracked s begun) (hfresh : (s.stack.depth, s.pos) ∉ s.entered) (stop : Nat) :
    begun.head? ≠ some (some ⟨s.pos, stop⟩) := by
  intro hhead
  obtain ⟨before, rfl⟩ := List.head?_eq_some_iff.mp hhead
  have hentered := (h.entered_iff _ before (List.suffix_refl _) s.pos).mpr rfl
  rw [← List.length_cons (a := some ⟨s.pos, stop⟩), h.length_eq] at hentered
  exact hfresh hentered

/-- If the innermost region did not begin here, none did. -/
theorem zeroWidth_eq_zero (h : Tracked s begun) (hfresh : (s.stack.depth, s.pos) ∉ s.entered) :
    s.zeroWidth = 0 := by
  obtain ⟨before, hbegun, _⟩ := h.here
  cases hzero : s.zeroWidth with
  | zero => rfl
  | succ n =>
    rw [hzero, List.replicate_succ] at hbegun
    exact absurd (by rw [hbegun]; rfl) (h.head?_ne hfresh s.pos)

/-- **A step** keeps the record in touch with the state. -/
theorem move {size : Nat} (h : Tracked s begun) (hmove : Move size s t) :
    Tracked t (begunAfter begun s t) := by
  cases hmove with
  | pass hpos _ hstack hentered hzero =>
    rw [begunAfter_of_same hstack]
    exact {
      length_eq := by rw [h.length_eq, hstack]
      entered_iff := by rw [hentered]; exact h.entered_iff
      zeroWidth_le := by rw [hzero]; exact Nat.zero_le _
      here := h.here_of_lt (List.Subset.refl _) hpos hzero
      count_le := h.count_le }
  | close hpos _ hstack hentered hzero =>
    rw [begunAfter_of_popped hstack]
    exact {
      length_eq := h.length_tail hstack
      entered_iff := by
        rw [hentered]
        exact fun b before hb => h.entered_iff b before (hb.trans (List.tail_suffix _))
      zeroWidth_le := by rw [hzero]; exact Nat.zero_le _
      here := h.here_of_lt (List.tail_suffix _).subset hpos hzero
      count_le := h.count_tail_le }
  | closeHere hpos hstack hentered hzero hfresh =>
    rw [begunAfter_of_popped hstack]
    -- nothing was opened here yet, so that all that stays open began before
    obtain ⟨before, hbegun, hbefore⟩ := h.here
    rw [h.zeroWidth_eq_zero hfresh, List.replicate_zero, List.nil_append] at hbegun
    exact {
      length_eq := h.length_tail hstack
      entered_iff := by
        rw [hentered]
        exact fun b before hb => h.entered_iff b before (hb.trans (List.tail_suffix _))
      zeroWidth_le := by rw [hzero]; exact h.zeroWidth_le
      here := by
        refine ⟨begun.tail, ?_, fun b hb => ?_⟩
        · rw [hzero, h.zeroWidth_eq_zero hfresh, List.replicate_zero, List.nil_append]
        · rw [hpos]
          exact hbefore b (hbegun ▸ (List.tail_suffix _).subset hb)
      count_le := h.count_tail_le }
  | enter hpos _ hstack hentered hzero =>
    rw [begunAfter_of_pushed hstack]
    have hshort : ∀ place, (⟨s.pos, t.pos⟩ : Span) ≠ ⟨place, place⟩ := by
      intro place heq
      obtain ⟨hstart, hstop⟩ := Span.mk.inj heq
      omega
    exact {
      length_eq := by rw [List.length_cons, h.length_eq, hstack]; rfl
      entered_iff := by rw [hentered]; exact h.entered_iff_enteredHere t.pos
      zeroWidth_le := by rw [hzero]; exact Nat.zero_le _
      here := by
        refine ⟨some ⟨s.pos, t.pos⟩ :: begun, by rw [hzero]; rfl, fun b hb => ?_⟩
        rcases List.mem_cons.mp hb with hb | hb
        · obtain rfl := Option.some.inj hb
          exact hpos
        · exact Nat.lt_of_le_of_lt (h.start_le hb) hpos
      count_le := by
        intro place
        rw [List.count_cons_of_ne fun heq => hshort place (Option.some.inj heq)]
        exact h.count_le place }
  | enterHere hpos hstack hentered hzero hmost =>
    rw [begunAfter_of_pushed hstack, hpos]
    exact {
      length_eq := by rw [List.length_cons, h.length_eq, hstack]; rfl
      entered_iff := by rw [hentered]; exact h.entered_iff_enteredHere s.pos
      zeroWidth_le := hmost
      here := by
        obtain ⟨before, hbegun, hbefore⟩ := h.here
        refine ⟨before, ?_, by rw [hpos]; exact hbefore⟩
        rw [hpos, hzero, List.replicate_succ, List.cons_append, ← hbegun]
      count_le := by
        intro place
        by_cases hplace : place = s.pos
        · rw [hplace, List.count_cons_self, h.count_here, ← hzero]
          exact hmost
        · rw [List.count_cons_of_ne]
          · exact h.count_le place
          · intro heq
            exact hplace (Span.mk.inj (Option.some.inj heq)).1.symm }

end Tracked

/-- Before the first step no region was opened on the line. -/
theorem tracked_firstState (g : Grammar) (line : List Char) (stack : RuleStack) :
    Tracked (firstState g line stack) ((firstState g line stack).stack.map fun _ => none) where
  length_eq := List.length_map _
  entered_iff := by
    intro b before hsuffix place
    have hb := List.mem_map.mp (hsuffix.subset List.mem_cons_self)
    obtain ⟨_, _, rfl⟩ := hb
    simp [firstState]
  zeroWidth_le := Nat.zero_le _
  here := ⟨_, rfl, by simp⟩
  count_le := by simp [List.count_eq_zero.mpr]

theorem Visits.tracked {options : EngineOptions} {spec : GrammarSpec} {line : List Char}
    {stack : RuleStack} (hg : Grammar.compile options spec = .ok g)
    (h : Visits g line stack s begun) : Tracked s begun := by
  induction h with
  | first => exact tracked_firstState g line stack
  | next _ hstep ih => exact ih.move (move_of_step hg hstep)

/-- What steps lead to is visited, with some record. -/
theorem Visits.exists_of_steps {line : List Char} {stack : RuleStack}
    (h : Steps g (lineText line) (firstState g line stack) s) :
    ∃ begun, Visits g line stack s begun := by
  induction h with
  | refl => exact ⟨_, .first⟩
  | tail _ hstep ih =>
    obtain ⟨begun, hbegun⟩ := ih
    exact ⟨_, hbegun.next hstep⟩

/-- **A line ends**, whatever regions begin or end by nothing: after finitely many steps one says so,
and what it leads to is the line. On the way, of the regions that are open at most 64 were begun by
nothing at one place, and a region that nothing closes did not begin at that place of the line. -/
theorem line_ends {options : EngineOptions} {spec : GrammarSpec}
    (hg : Grammar.compile options spec = .ok g) (line : List Char) (stack : RuleStack) :
    (∃ s begun last, Visits g line stack s begun ∧ step g (lineText line) s = .done last ∧
      last.stack = s.stack ∧ tokenizeLine g line stack =
        ⟨last.paint.finish line.length last.stack.innerScopes, last.stack⟩) ∧
    ∀ s begun, Visits g line stack s begun →
      begun.length = s.stack.depth ∧
      (∀ place, begun.count (some ⟨place, place⟩) ≤ 64) ∧
      ∀ t, step g (lineText line) s = .next t → t.pos = s.pos → t.stack.depth < s.stack.depth →
        ∀ stop, begun.head? ≠ some (some ⟨s.pos, stop⟩) := by
  constructor
  · obtain ⟨s, hsteps, hlast⟩ := exists_steps_lastState hg line stack
    obtain ⟨begun, hbegun⟩ := Visits.exists_of_steps hsteps
    exact ⟨s, begun, _, hbegun, hlast, stack_of_step_done hlast, tokenizeLine_eq g line stack⟩
  · intro s begun h
    have htracked := h.tracked hg
    refine ⟨htracked.length_eq, htracked.count_le, fun t hstep hpos hdepth => ?_⟩
    -- of the steps that take no text only one closes a region, and it asks whether it began here
    cases move_of_step hg hstep with
    | closeHere _ _ _ _ hfresh => exact htracked.head?_ne hfresh
    | pass hlt | close hlt | enter hlt => omega
    | enterHere _ hstack =>
      rw [hstack] at hdepth
      exact absurd hdepth (Nat.not_lt.mpr (Nat.le_succ _))

/-- A file with two rules that nothing begins before an `x`, each inside the other. -/
def nestingSpec : GrammarSpec where
  scopeName := "source.nesting"
  patterns := [{ includeTarget := some "#a" }]
  repository := [
    ("a", { beginPattern := some "(?=x)", endPattern := some "y"
            patterns := some [{ includeTarget := some "#b" }] }),
    ("b", { beginPattern := some "(?=x)", endPattern := some "z"
            patterns := some [{ includeTarget := some "#a" }] })]

/-- What is made of it. -/
def nesting : Grammar where
  scopeName := "source.nesting"
  name := none
  fileTypes := []
  rules := #[{ id := 0, kind := .group [1] },
    { id := 1, kind := .region (Pattern.compile? {} "(?=x)") {}
        (.fixed "y" (Pattern.compile? {} "y")) {} false [2] },
    { id := 2, kind := .region (Pattern.compile? {} "(?=x)") {}
        (.fixed "z" (Pattern.compile? {} "z")) {} false [1] }]
  scanners := #[some ⟨⟨[Pattern.compile? {} "(?=x)"]⟩, [1]⟩,
    some ⟨⟨[Pattern.compile? {} "(?=x)"]⟩, [2]⟩, some ⟨⟨[Pattern.compile? {} "(?=x)"]⟩, [1]⟩]
  options := {}

theorem compile_nestingSpec : Grammar.compile {} nestingSpec = .ok nesting := by
  rw [Compile.compile_eq_compute]
  rfl

/-- Before an `x` the two rules go on beginning inside each other, until 64 of them are open. -/
theorem line_ends_nesting :
    ∃ s begun, Visits nesting "x".toList RuleStack.initial s begun ∧ begun.length = 65 ∧
      (∀ place, begun.count (some ⟨place, place⟩) ≤ 64) ∧
      s.stack = (tokenizeLine nesting "x".toList RuleStack.initial).stack := by
  obtain ⟨⟨s, begun, last, hs, _, hstack, hline⟩, hvisits⟩ :=
    line_ends compile_nestingSpec "x".toList RuleStack.initial
  obtain ⟨hlength, hcount, _⟩ := hvisits s begun hs
  have hlast : last.stack = (tokenizeLine nesting "x".toList RuleStack.initial).stack := by
    rw [hline]
  have hdepth : (tokenizeLine nesting "x".toList RuleStack.initial).stack.depth = 65 := by
    decide +kernel
  refine ⟨s, begun, hs, ?_, hcount, ?_⟩
  · rw [hlength, ← hstack, hlast, hdepth]
  · rw [← hstack, hlast]

end Tincture.Tokenize
