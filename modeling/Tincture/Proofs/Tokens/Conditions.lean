import Tincture.Proofs.Tokens.OpenRegions

/-!
# Regions that go on

At the start of a line the regions that go on by a condition are asked, the outermost first, each from
where the one before it left the search. If all conditions match, the stack is left as it is
(`GoOn`, `checkConditions_of_goOn`). Else the first region that is refused is taken off with all that
it holds, whatever that is: nothing inside it is asked (`checkConditions_of_refused`). There is no
third case, so that what is left of a stack is the longest part of it, from the outermost region on,
in which all conditions match (`keeps_iff`).
-/

namespace Tincture

/-- A region that goes on from line to line by a condition, as its rule says. -/
def Grammar.IsWhile (g : Grammar) (f : Frame) : Prop :=
  ∃ r, g.rule? f.rule = some r ∧ r.kind.isWhileRegion = true

namespace Tokenize

variable {g : Grammar} {text : Array Char} {f : Frame} {outer stack kept : RuleStack} {pos : Nat}

/-! ### Conditions one after the other -/

/-- All regions of a stack that go on by a condition do so: the conditions match one after the other,
the outermost first, each searched for from the place to which the one before it led. The last one
leads to the given place. -/
inductive GoOn (g : Grammar) (text : Array Char) : RuleStack → Nat → Prop
  | nil : GoOn g text [] 0
  | other {f : Frame} {outer : RuleStack} {pos : Nat} (houter : GoOn g text outer pos)
      (hf : ¬ g.IsWhile f) : GoOn g text (f :: outer) pos
  | goesOn {f : Frame} {outer : RuleStack} {pos : Nat} {condition : FollowPattern} {p : Pattern}
      {m : Match} (houter : GoOn g text outer pos) (hf : g.IsWhile f)
      (hcondition : f.condition = some condition) (hp : condition.pattern = some p)
      (hm : p.find? text pos = some m) : GoOn g text (f :: outer) (max pos m.stop)

/-- A region that goes on by a condition does not: its condition has no match from a place on, or there
is no pattern for it. -/
def Refused (g : Grammar) (text : Array Char) (f : Frame) (pos : Nat) : Prop :=
  g.IsWhile f ∧ ∃ condition, f.condition = some condition ∧
    (condition.pattern = none ∨ ∃ p, condition.pattern = some p ∧ p.find? text pos = none)

/-- What is to be left of a stack at the start of a line, and where the search goes on. -/
inductive Keeps (g : Grammar) (text : Array Char) : RuleStack → RuleStack → Nat → Prop
  /-- All regions, if all conditions match. -/
  | all {stack : RuleStack} {pos : Nat} (h : GoOn g text stack pos) : Keeps g text stack stack pos
  /-- The regions around the first one that is refused. -/
  | around {stack outer : RuleStack} {f : Frame} {pos : Nat} (hs : f :: outer <:+ stack)
      (houter : GoOn g text outer pos) (hf : Refused g text f pos) : Keeps g text stack outer pos

/-- The regions that have a condition are those that are to go on by one. -/
def Conditioned (g : Grammar) (stack : RuleStack) : Prop :=
  ∀ f ∈ stack, f.condition.isSome = true ↔ g.IsWhile f

theorem conditioned_around (h : Conditioned g stack) (hs : f :: outer <:+ stack) :
    Conditioned g outer :=
  fun f' hf' => h f' (hs.subset (List.mem_cons_of_mem _ hf'))

/-! ### One more region -/

/-- Once a region was refused, no region inside it is asked. -/
theorem checkConditions_cons_of_refused (f : Frame) (h : (checkConditions g text outer).2 = false) :
    checkConditions g text (f :: outer) = checkConditions g text outer := by
  rw [checkConditions]
  cases hc : checkConditions g text outer with
  | mk c goesOn =>
    rw [hc] at h
    obtain rfl : goesOn = false := h
    rfl

theorem checkConditions_cons_of_none (h : (checkConditions g text outer).2 = true)
    (hf : f.condition = none) :
    checkConditions g text (f :: outer) =
      ({ (checkConditions g text outer).1 with
        stack := f :: (checkConditions g text outer).1.stack }, true) := by
  rw [checkConditions]
  cases hc : checkConditions g text outer with
  | mk c goesOn =>
    rw [hc] at h
    obtain rfl : goesOn = true := h
    rw [hf]

/-- The condition of the next region is searched for from where the regions around it led. -/
theorem checkConditions_cons_of_some {condition : FollowPattern}
    (h : (checkConditions g text outer).2 = true) (hf : f.condition = some condition) :
    (condition.pattern.bind (·.find? text (checkConditions g text outer).1.pos) = none ∧
      checkConditions g text (f :: outer) = ((checkConditions g text outer).1, false)) ∨
    ∃ m, condition.pattern.bind (·.find? text (checkConditions g text outer).1.pos) = some m ∧
      (checkConditions g text (f :: outer)).2 = true ∧
      (checkConditions g text (f :: outer)).1.stack =
        f :: (checkConditions g text outer).1.stack ∧
      (checkConditions g text (f :: outer)).1.pos =
        max (checkConditions g text outer).1.pos m.stop := by
  rw [checkConditions]
  cases hc : checkConditions g text outer with
  | mk c goesOn =>
    rw [hc] at h
    obtain rfl : goesOn = true := h
    rw [hf]
    cases hfind : condition.pattern.bind (·.find? text c.pos) with
    | none => exact Or.inl ⟨rfl, by simp only [hfind]⟩
    | some m => exact Or.inr ⟨m, rfl, by simp only [hfind, and_self]⟩

/-! ### What is left of a stack -/

/-- If all conditions match, all regions are left. -/
theorem checkConditions_of_goOn (hstack : Conditioned g stack) (h : GoOn g text stack pos) :
    (checkConditions g text stack).2 = true ∧ (checkConditions g text stack).1.stack = stack ∧
      (checkConditions g text stack).1.pos = pos := by
  induction h with
  | nil => exact ⟨rfl, rfl, rfl⟩
  | @other f outer pos _ hf ih =>
    obtain ⟨hcondition, houter⟩ := List.forall_mem_cons.mp hstack
    obtain ⟨hall, hs, hpos⟩ := ih houter
    have hnone : f.condition = none := Option.not_isSome_iff_eq_none.mp (mt hcondition.mp hf)
    rw [checkConditions_cons_of_none hall hnone, hs]
    exact ⟨rfl, rfl, hpos⟩
  | @goesOn f outer pos condition p m _ _ hcondition hp hm ih =>
    obtain ⟨hall, hs, hpos⟩ := ih (List.forall_mem_cons.mp hstack).2
    have hfind : condition.pattern.bind (·.find? text (checkConditions g text outer).1.pos) =
        some m := by
      rw [hp, hpos]
      exact hm
    rcases checkConditions_cons_of_some hall hcondition with ⟨hnone, _⟩ | ⟨m', hm', hall', hs', hpos'⟩
    · rw [hfind] at hnone
      cases hnone
    · obtain rfl := Option.some.inj (hfind.symm.trans hm')
      exact ⟨hall', by rw [hs', hs], by rw [hpos', hpos]⟩

/-- If a region is refused, what is left is what is around it, whatever is inside it. Nothing inside is
asked: neither the paint nor the place of the search depends on it. -/
theorem checkConditions_of_refused (houter : Conditioned g outer) (h : GoOn g text outer pos)
    (hf : Refused g text f pos) (inner : RuleStack) :
    checkConditions g text (inner ++ f :: outer) = ((checkConditions g text outer).1, false) := by
  obtain ⟨hall, _, hpos⟩ := checkConditions_of_goOn houter h
  obtain ⟨_, condition, hcondition, hpattern⟩ := hf
  induction inner with
  | nil =>
    have hnone : condition.pattern.bind (·.find? text (checkConditions g text outer).1.pos) = none := by
      rw [hpos]
      rcases hpattern with hpattern | ⟨p, hp, hfind⟩
      · rw [hpattern, Option.bind_none]
      · rw [hp, Option.bind_some, hfind]
    rcases checkConditions_cons_of_some hall hcondition with ⟨_, hc⟩ | ⟨m, hm, _⟩
    · exact hc
    · rw [hnone] at hm
      cases hm
  | cons f' inner ih =>
    rw [List.cons_append, checkConditions_cons_of_refused, ih]
    rw [ih]

/-- All conditions match, or there is a first region that is refused. -/
theorem exists_keeps (text : Array Char) (hstack : Conditioned g stack) :
    ∃ kept pos, Keeps g text stack kept pos := by
  induction stack with
  | nil => exact ⟨_, _, .all .nil⟩
  | cons f outer ih =>
    obtain ⟨hcondition, houter⟩ := List.forall_mem_cons.mp hstack
    obtain ⟨kept, pos, hkeeps⟩ := ih houter
    cases hkeeps with
    | around hs hkept hrefused =>
      exact ⟨_, _, .around (hs.trans (List.suffix_cons _ _)) hkept hrefused⟩
    | all hgoOn =>
      by_cases hwhile : g.IsWhile f
      · -- it is up to the condition of this region
        obtain ⟨condition, hf⟩ := Option.isSome_iff_exists.mp (hcondition.mpr hwhile)
        cases hp : condition.pattern with
        | none =>
          have hrefused : Refused g text f pos := ⟨hwhile, condition, hf, Or.inl hp⟩
          exact ⟨_, _, .around (List.suffix_refl _) hgoOn hrefused⟩
        | some p =>
          cases hfind : p.find? text pos with
          | none =>
            have hrefused : Refused g text f pos :=
              ⟨hwhile, condition, hf, Or.inr ⟨p, hp, hfind⟩⟩
            exact ⟨_, _, .around (List.suffix_refl _) hgoOn hrefused⟩
          | some m => exact ⟨_, _, .all (.goesOn hgoOn hwhile hf hp hfind)⟩
      · exact ⟨_, _, .all (.other hgoOn hwhile)⟩

theorem eq_of_keeps (hstack : Conditioned g stack) (h : Keeps g text stack kept pos) :
    kept = (checkConditions g text stack).1.stack ∧ pos = (checkConditions g text stack).1.pos := by
  cases h with
  | all hgoOn =>
    obtain ⟨_, hs, hpos⟩ := checkConditions_of_goOn hstack hgoOn
    exact ⟨hs.symm, hpos.symm⟩
  | around hsuffix houter hf =>
    have hconditioned : Conditioned g kept := conditioned_around hstack hsuffix
    obtain ⟨_, hs, hpos⟩ := checkConditions_of_goOn hconditioned houter
    obtain ⟨inner, rfl⟩ := hsuffix
    rw [checkConditions_of_refused hconditioned houter hf inner]
    exact ⟨hs.symm, hpos.symm⟩

/-- **The check of a stack** leaves what is to be left, and nothing else is. -/
theorem keeps_iff (hstack : Conditioned g stack) :
    Keeps g text stack kept pos ↔
      kept = (checkConditions g text stack).1.stack ∧
        pos = (checkConditions g text stack).1.pos := by
  refine ⟨eq_of_keeps hstack, ?_⟩
  -- something is to be left, and the check leaves just that
  rintro ⟨rfl, rfl⟩
  obtain ⟨kept, pos, hkeeps⟩ := exists_keeps text hstack
  obtain ⟨rfl, rfl⟩ := eq_of_keeps hstack hkeeps
  exact hkeeps

/-- What is left is an outer part of the stack. -/
theorem Keeps.suffix (h : Keeps g text stack kept pos) : kept <:+ stack := by
  cases h with
  | all => exact List.suffix_refl _
  | around hs => exact (List.suffix_cons _ _).trans hs

/-- One more region does not lead the search back. -/
theorem pos_checkConditions_cons (g : Grammar) (text : Array Char) (f : Frame) (outer : RuleStack) :
    (checkConditions g text outer).1.pos ≤ (checkConditions g text (f :: outer)).1.pos := by
  cases hall : (checkConditions g text outer).2 with
  | false => rw [checkConditions_cons_of_refused f hall]
  | true =>
    cases hf : f.condition with
    | none => rw [checkConditions_cons_of_none hall hf]
    | some condition =>
      rcases checkConditions_cons_of_some hall hf with ⟨_, hc⟩ | ⟨m, _, _, _, hpos⟩
      · rw [hc]
      · rw [hpos]
        exact Nat.le_max_left _ _

/-- The search does not go back. -/
theorem pos_checkConditions_le (h : outer <:+ stack) :
    (checkConditions g text outer).1.pos ≤ (checkConditions g text stack).1.pos := by
  induction stack with
  | nil => rw [List.suffix_nil.mp h]
  | cons f rest ih =>
    rcases List.suffix_cons_iff.mp h with rfl | hrest
    · exact Nat.le_refl _
    · exact Nat.le_trans (ih hrest) (pos_checkConditions_cons g text f rest)

/-! ### Stacks that lines lead to -/

theorem conditioned_of_stackChange {options : EngineOptions} {spec : GrammarSpec}
    (hg : Grammar.compile options spec = .ok g) {s t : RuleStack} (h : StackChange g s t)
    (hs : Conditioned g s) : Conditioned g t := by
  cases h with
  | stop => exact fun f hf => hs f (List.mem_cons_of_mem _ hf)
  | refuse _ hsuffix => exact conditioned_around hs hsuffix
  | push hf =>
    refine List.forall_mem_cons.mpr ⟨?_, hs⟩
    cases hf with
    | @region _ rule _ _ _ _ _ _ _ hrule hkind =>
      have hid := Grammar.rule?_id hg hrule
      simp [Grammar.IsWhile, openedFrame, hid, hkind, RuleKind.isWhileRegion]
    | @whileRegion _ rule _ _ _ _ _ _ hrule hkind =>
      have hid := Grammar.rule?_id hg hrule
      simp [Grammar.IsWhile, openedFrame, hid, hkind, RuleKind.isWhileRegion]

theorem conditioned_start {options : EngineOptions} {spec : GrammarSpec}
    (hg : Grammar.compile options spec = .ok g) (hs : g.Reachable stack) :
    Conditioned g (g.start stack) := by
  refine hs.invariant ?_ fun _ _ => conditioned_of_stackChange hg
  intro f hf
  obtain rfl := List.mem_singleton.mp hf
  obtain ⟨patterns, hroot⟩ := Grammar.rule?_root hg
  simp [Grammar.IsWhile, Grammar.rootFrame, hroot, RuleKind.isWhileRegion]

/-- **Regions go on together**: a line starts with all the regions that the line before it handed on, if
all conditions match one after the other, the outermost first. Else it starts with just the regions
around the first one that is refused, and is painted up to where these led: nothing inside that region
is asked, whatever it is. No condition leads the search back. -/
theorem checkConditions_keeps {options : EngineOptions} {spec : GrammarSpec}
    (hg : Grammar.compile options spec = .ok g) (hs : g.Reachable stack) (line : List Char) :
    let text := lineText line
    let whole := g.start stack
    let first := firstState g line stack
    (∀ kept pos, Keeps g text whole kept pos ↔ kept = first.stack ∧ pos = first.pos) ∧
    first.stack <:+ whole ∧
    (∀ f outer pos, f :: outer <:+ whole → GoOn g text outer pos → Refused g text f pos → ∀ inner,
      checkConditions g text (inner ++ f :: outer) = ((checkConditions g text outer).1, false)) ∧
    ∀ outer part, outer <:+ part →
      (checkConditions g text outer).1.pos ≤ (checkConditions g text part).1.pos := by
  intro text whole first
  have hwhole : Conditioned g whole := conditioned_start hg hs
  have hkeeps : Keeps g text whole first.stack first.pos := (keeps_iff hwhole).mpr ⟨rfl, rfl⟩
  refine ⟨fun kept pos => keeps_iff hwhole, hkeeps.suffix, ?_, fun _ _ => pos_checkConditions_le⟩
  intro f outer pos hsuffix hgoOn hf
  exact checkConditions_of_refused (conditioned_around hwhole hsuffix) hgoOn hf

/-- A file with a region that goes on while lines begin with a `>`, in it one that goes on while a bar
follows, and in that one text between braces. -/
def barredSpec : GrammarSpec where
  scopeName := "source.barred"
  patterns := [{
    name := some "quote", beginPattern := some "^>", whilePattern := some "^>"
    patterns := some [{
      name := some "bar", beginPattern := some "\\G\\|", whilePattern := some "\\G\\|"
      patterns := some [{ beginPattern := some "\\[", endPattern := some "\\]" }] }] }]

/-- What is made of it. -/
def barred : Grammar where
  scopeName := "source.barred"
  name := none
  fileTypes := []
  rules := #[{ id := 0, kind := .group [1] },
    { id := 1, name := some "quote", kind := .whileRegion (Pattern.compile? {} "^>") {}
        (.fixed "^>" (Pattern.compile? {} "^>")) {} [2] },
    { id := 2, name := some "bar", kind := .whileRegion (Pattern.compile? {} "\\G\\|") {}
        (.fixed "\\G\\|" (Pattern.compile? {} "\\G\\|")) {} [3] },
    { id := 3, kind := .region (Pattern.compile? {} "\\[") {}
        (.fixed "\\]" (Pattern.compile? {} "\\]")) {} false [] }]
  scanners := #[some ⟨⟨[Pattern.compile? {} "^>"]⟩, [1]⟩,
    some ⟨⟨[Pattern.compile? {} "\\G\\|"]⟩, [2]⟩, some ⟨⟨[Pattern.compile? {} "\\["]⟩, [3]⟩,
    some ⟨⟨[]⟩, []⟩]
  options := {}

theorem compile_barredSpec : Grammar.compile {} barredSpec = .ok barred := by
  rw [Compile.compile_eq_compute]
  rfl

/-- After a quotation with a bar and an open bracket, a line with a bar goes on with all of them, and one
without it only with the quotation. -/
theorem checkConditions_keeps_barred :
    let stack := (tokenizeLine barred ">|[".toList RuleStack.initial).stack
    (∃ pos, Keeps barred (lineText ">|]".toList) (barred.start stack) (barred.start stack) pos) ∧
    ∃ kept, Keeps barred (lineText ">]|".toList) (barred.start stack) kept 1 ∧
      kept.map (·.rule) = [1, 0] := by
  intro stack
  have hstack : barred.Reachable stack := .line _ .initial
  obtain ⟨hgoesOn, hsuffix, _⟩ := checkConditions_keeps compile_barredSpec hstack ">|]".toList
  obtain ⟨hrefused, _⟩ := checkConditions_keeps compile_barredSpec hstack ">]|".toList
  have hwhole : (firstState barred ">|]".toList stack).stack = barred.start stack :=
    hsuffix.eq_of_length (by decide +kernel)
  have hpos : (firstState barred ">]|".toList stack).pos = 1 := by decide +kernel
  have hkept : (firstState barred ">]|".toList stack).stack.map (·.rule) = [1, 0] := by
    decide +kernel
  refine ⟨⟨_, (hgoesOn _ _).mpr ⟨hwhole.symm, rfl⟩⟩, _, (hrefused _ _).mpr ⟨rfl, hpos.symm⟩, hkept⟩

end Tokenize

end Tincture
