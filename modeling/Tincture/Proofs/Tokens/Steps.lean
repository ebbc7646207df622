import Mathlib.Logic.Relation
import Tincture.Proofs.Tokens.Painted
import Tincture.Tokens.Line

/-!
# What a step on a line does

To the stack a step does one of three things: it takes the innermost region off, which then has a
pattern that ends it, it puts a region on that a rule of the grammar opens, or it leaves it as it is.
Before the first step, a condition that does not match takes a region off with all that it holds. So
a line leads from stack to stack by these changes (`StackChange`, `stackChanges_tokenizeLine`).

To the paint a step only adds strokes inside the line, with scopes that regions of the stack have or
that extend them (`Filled`, `filled_run`).
-/

namespace Tincture

/-! ### Matches -/

/-- A match of a scanner is a match of one of its patterns. -/
theorem Scanner.exists_of_findFrom {text : Array Char} {pos index : Nat} {best : Option ScanMatch}
    {patterns : List (Option Pattern)} {m : ScanMatch}
    (h : Scanner.findFrom text pos index best patterns = some m) :
    best = some m ∨ ∃ p : Pattern, p.find? text pos = some m.found := by
  induction patterns generalizing index best with
  | nil => exact Or.inl h
  | cons pattern rest ih =>
    rw [findFrom] at h
    cases hfound : pattern.bind (·.find? text pos) with
    | none =>
      rw [hfound] at h
      exact ih h
    | some found =>
      obtain ⟨p, _, hp⟩ := Option.bind_eq_some_iff.mp hfound
      rw [hfound] at h
      dsimp only at h
      split at h
      · -- the match of this pattern is the best one so far
        split at h
        · obtain rfl := Option.some.inj h
          exact Or.inr ⟨p, hp⟩
        · rcases ih h with hbest | hex
          · obtain rfl := Option.some.inj hbest
            exact Or.inr ⟨p, hp⟩
          · exact Or.inr hex
      · exact ih h

namespace Tokenize

variable {g : Grammar} {text : Array Char} {pos : Nat} {top : Frame} {m : Match}

theorem fits_of_childMatch? {id : RuleId} (h : childMatch? g text pos top = some (id, m)) :
    m.fits pos text.size = true := by
  simp only [childMatch?, Option.bind_eq_bind, Option.pure_def, Option.bind_eq_some_iff,
    Option.some.injEq, Prod.mk.injEq] at h
  obtain ⟨s, _, found, hfound, _, _, rfl, rfl⟩ := h
  rcases Scanner.exists_of_findFrom hfound with hnone | ⟨p, hp⟩
  · exact absurd hnone (by simp)
  · exact Pattern.fits_of_find? hp

theorem of_stopMatch? (h : stopMatch? text pos top = some m) :
    m.fits pos text.size = true ∧ top.stop.isSome = true := by
  simp only [stopMatch?, Option.bind_eq_bind, Option.bind_eq_some_iff] at h
  obtain ⟨stop, hstop, p, _, hp⟩ := h
  exact ⟨Pattern.fits_of_find? hp, Option.isSome_of_eq_some hstop⟩

/-- The match that is taken lies in the text, and only a region that can end does. -/
theorem of_nextMatch? {target : Target} (h : nextMatch? g text pos top = some (target, m)) :
    m.fits pos text.size = true ∧ (target = .stop → top.stop.isSome = true) := by
  cases hchild : childMatch? g text pos top with
  | none =>
    cases hstop : stopMatch? text pos top with
    | none => simp [nextMatch?, hchild, hstop] at h
    | some stop =>
      simp only [nextMatch?, hchild, hstop, Option.some.injEq, Prod.mk.injEq] at h
      obtain ⟨rfl, rfl⟩ := h
      exact ⟨(of_stopMatch? hstop).1, fun _ => (of_stopMatch? hstop).2⟩
  | some child =>
    have hfits := fits_of_childMatch? hchild
    cases hstop : stopMatch? text pos top with
    | none =>
      simp only [nextMatch?, hchild, hstop, Option.some.injEq, Prod.mk.injEq] at h
      obtain ⟨rfl, rfl⟩ := h
      exact ⟨hfits, by simp⟩
    | some stop =>
      simp only [nextMatch?, hchild, hstop, Option.some.injEq] at h
      have htaken : (target, m) = (.stop, stop) ∨ (target, m) = (.rule child.1, child.2) := by
        rw [← h]
        split_ifs <;> simp
      rcases htaken with htaken | htaken
      · obtain ⟨rfl, rfl⟩ := Prod.mk.inj htaken
        exact ⟨(of_stopMatch? hstop).1, fun _ => (of_stopMatch? hstop).2⟩
      · obtain ⟨rfl, rfl⟩ := Prod.mk.inj htaken
        exact ⟨hfits, by simp⟩

/-! ### Changes of the stack -/

/-- The region that a rule opens inside another. -/
def openedFrame (text : Array Char) (top : Frame) (rule : Rule) (m : Match)
    (stop condition : Option FollowPattern) : Frame where
  rule := rule.id
  stop := stop
  condition := condition
  nameScopes := addScopes top.contentScopes text m rule.name
  contentScopes := addScopes (addScopes top.contentScopes text m rule.name) text m rule.contentName

/-- A region that some rule of the grammar opens inside another. -/
inductive Opens (g : Grammar) (top : Frame) : Frame → Prop
  | region {text : Array Char} {rule : Rule} {m : Match} {begins : Option Pattern}
      {beginCaptures endCaptures : CaptureNames} {stop : FollowRule} {last : Bool}
      {patterns : List RuleId} (hrule : rule ∈ g.rules)
      (hkind : rule.kind = .region begins beginCaptures stop endCaptures last patterns) :
      Opens g top
        (openedFrame text top rule m (some (stop.resolve g.options (m.groupText text))) none)
  | whileRegion {text : Array Char} {rule : Rule} {m : Match} {begins : Option Pattern}
      {beginCaptures whileCaptures : CaptureNames} {condition : FollowRule}
      {patterns : List RuleId} (hrule : rule ∈ g.rules)
      (hkind : rule.kind = .whileRegion begins beginCaptures condition whileCaptures patterns) :
      Opens g top
        (openedFrame text top rule m none (some (condition.resolve g.options (m.groupText text))))

/-- What can happen to a stack on a line. -/
inductive StackChange (g : Grammar) : RuleStack → RuleStack → Prop
  /-- The innermost region ends. -/
  | stop {f : Frame} {s : RuleStack} (hstop : f.stop.isSome = true) : StackChange g (f :: s) s
  /-- A region that does not go on is taken off, with all that it holds. -/
  | refuse {f : Frame} {s t : RuleStack} (hcondition : f.condition.isSome = true)
      (hs : f :: t <:+ s) : StackChange g s t
  /-- A region begins. -/
  | push {top f : Frame} {s : RuleStack} (hf : Opens g top f) :
      StackChange g (top :: s) (f :: top :: s)

/-- What happens to a stack on a line. -/
def StackChanges (g : Grammar) : RuleStack → RuleStack → Prop :=
  Relation.ReflTransGen (StackChange g)

namespace StackChanges

variable {s t u : RuleStack}

theorem refl (s : RuleStack) : StackChanges g s s :=
  Relation.ReflTransGen.refl

theorem single (h : StackChange g s t) : StackChanges g s t :=
  Relation.ReflTransGen.single h

theorem trans (hst : StackChanges g s t) (htu : StackChanges g t u) : StackChanges g s u :=
  Relation.ReflTransGen.trans hst htu

/-- What each change leaves alone all changes do. -/
theorem invariant {Inv : RuleStack → Prop}
    (hchange : ∀ s t, StackChange g s t → Inv s → Inv t) (h : StackChanges g s t)
    (hs : Inv s) : Inv t := by
  induction h with
  | refl => exact hs
  | tail _ hlast ih => exact hchange _ _ hlast ih

end StackChanges

/-- The state that a step leads to. -/
def Outcome.state : Outcome → State
  | .next s => s
  | .done s => s

@[simp] theorem stack_advance (s : State) (m : Match) : (s.advance m).stack = s.stack := by
  rw [State.advance]
  split <;> rfl

@[simp] theorem paint_advance (s : State) (m : Match) : (s.advance m).paint = s.paint := by
  rw [State.advance]
  split <;> rfl

variable {s : State}

theorem stack_stopRegion (g : Grammar) (text : Array Char) (s : State) (top : Frame) (m : Match) :
    (stopRegion g text s top m).state.stack = s.stack ∨
    (stopRegion g text s top m).state.stack = s.stack.pop := by
  unfold stopRegion
  split
  · exact Or.inl rfl
  · exact Or.inr (stack_advance _ _)

theorem stack_beginRegion (rule : Rule) (captures : CaptureNames)
    (stop condition : Option FollowPattern) :
    (beginRegion text s top rule m captures stop condition).state.stack = s.stack ∨
    (beginRegion text s top rule m captures stop condition).state.stack
      = s.stack.push (openedFrame text top rule m stop condition) := by
  unfold beginRegion
  dsimp only
  split
  · exact Or.inr (stack_advance _ _)
  · split
    · exact Or.inl rfl
    · exact Or.inr rfl

/-- A rule leaves the stack as it is or puts the region on that it opens. -/
theorem stackChanges_applyRule {rule : Rule} (hrule : rule ∈ g.rules)
    (htop : s.stack.top? = some top) :
    StackChanges g s.stack (applyRule g text s top rule m).state.stack := by
  obtain ⟨rest, hstack⟩ : ∃ rest, s.stack = top :: rest := List.head?_eq_some_iff.mp htop
  have hpush : ∀ f, Opens g top f → StackChanges g s.stack (s.stack.push f) := by
    intro f hf
    rw [hstack]
    exact .single (.push hf)
  unfold applyRule
  cases hkind : rule.kind with
  | single pattern captures =>
    dsimp only
    split
    · simp [Outcome.state, StackChanges.refl]
    · exact .refl _
  | region begins beginCaptures stop endCaptures last patterns =>
    dsimp only
    rcases stack_beginRegion rule beginCaptures _ _ with h | h
    · rw [h]
      exact .refl _
    · rw [h]
      exact hpush _ (.region hrule hkind)
  | whileRegion begins beginCaptures condition whileCaptures patterns =>
    dsimp only
    rcases stack_beginRegion rule beginCaptures _ _ with h | h
    · rw [h]
      exact .refl _
    · rw [h]
      exact hpush _ (.whileRegion hrule hkind)
  | group patterns => simp [Outcome.state, StackChanges.refl]

/-- **A step** changes the stack by its innermost region at most. -/
theorem stackChanges_step (g : Grammar) (text : Array Char) (s : State) :
    StackChanges g s.stack (step g text s).state.stack := by
  unfold step
  split
  · exact .refl _
  rename_i top htop
  split
  · exact .refl _
  · rename_i m hm
    rcases stack_stopRegion g text s top m with h | h
    · rw [h]
      exact .refl _
    · obtain ⟨rest, hstack⟩ : ∃ rest, s.stack = top :: rest := List.head?_eq_some_iff.mp htop
      rw [h, hstack]
      exact .single (.stop ((of_nextMatch? hm).2 rfl))
  · split
    · rename_i rule hrule
      exact stackChanges_applyRule (Array.mem_of_getElem? hrule) htop
    · exact .refl _

/-- **Steps** leave alone what each step does. -/
theorem invariant_run {Inv : State → Prop} (hstep : ∀ s, Inv s → Inv (step g text s).state)
    (fuel : Nat) {s : State} (hs : Inv s) : Inv (run g text fuel s) := by
  induction fuel generalizing s with
  | zero => exact hs
  | succ fuel ih =>
    have hnext := hstep s hs
    unfold run
    split
    · rename_i s' hs'
      rw [hs'] at hnext
      exact ih hnext
    · rename_i s' hs'
      rw [hs'] at hnext
      exact hnext

theorem stackChanges_run (fuel : Nat) (s : State) :
    StackChanges g s.stack (run g text fuel s).stack := by
  have hstep : ∀ s', StackChanges g s.stack s'.stack →
      StackChanges g s.stack (step g text s').state.stack :=
    fun s' hs' => hs'.trans (stackChanges_step g text s')
  exact invariant_run hstep fuel (.refl _)

/-- If all conditions match, the stack is still whole; else what is left of it is what the region
holds it together with that does not go on. -/
theorem stack_checkConditions (g : Grammar) (text : Array Char) (stack : RuleStack) :
    ((checkConditions g text stack).2 = true ∧ (checkConditions g text stack).1.stack = stack) ∨
    ((checkConditions g text stack).2 = false ∧ ∃ f : Frame, f.condition.isSome = true ∧
      f :: (checkConditions g text stack).1.stack <:+ stack) := by
  induction stack with
  | nil => exact Or.inl ⟨rfl, rfl⟩
  | cons f outer ih =>
    rw [checkConditions]
    cases hc : checkConditions g text outer with
    | mk c goesOn =>
      rw [hc] at ih
      rcases ih with ⟨rfl, hstack⟩ | ⟨rfl, refused, hrefused, hsuffix⟩
      · -- all outer regions go on, so that it is up to this one
        dsimp only at hstack ⊢
        cases hcondition : f.condition with
        | none => exact Or.inl ⟨rfl, by rw [← hstack]⟩
        | some condition =>
          dsimp only
          cases condition.pattern.bind (·.find? text c.pos) with
          | none =>
            have hall : f :: c.stack <:+ f :: outer := by
              simp only [hstack, List.suffix_rfl]
            exact Or.inr ⟨rfl, f, Option.isSome_of_eq_some hcondition, hall⟩
          | some m => exact Or.inl ⟨rfl, by rw [← hstack]⟩
      · exact Or.inr ⟨rfl, refused, hrefused, hsuffix.trans (List.suffix_cons f outer)⟩

theorem stackChanges_checkConditions (g : Grammar) (text : Array Char) (stack : RuleStack) :
    StackChanges g stack (checkConditions g text stack).1.stack := by
  rcases stack_checkConditions g text stack with ⟨_, h⟩ | ⟨_, f, hf, h⟩
  · rw [h]
    exact .refl _
  · exact .single (.refuse hf h)

end Tokenize

/-- The stack that a line starts with: before the first line it is the region of the whole text. -/
def Grammar.start (g : Grammar) (stack : RuleStack) : RuleStack :=
  if stack.isEmpty then [g.rootFrame] else stack

/-- The scopes of what lies inside the innermost region. -/
def RuleStack.innerScopes : RuleStack → List String
  | top :: _ => top.contentScopes
  | [] => []

namespace Tokenize

/-- The text that patterns see of a line. -/
def lineText (line : List Char) : Array Char :=
  (line ++ ['\n']).toArray

theorem size_lineText (line : List Char) : (lineText line).size = line.length + 1 := by
  rw [lineText, List.size_toArray, List.length_append, List.length_singleton]

/-- Where the first step of a line starts. -/
def firstState (g : Grammar) (line : List Char) (stack : RuleStack) : State :=
  let c := (checkConditions g (lineText line) (g.start stack)).1
  { stack := c.stack, paint := c.paint, pos := c.pos }

/-- Where the last step of a line ends. -/
def lastState (g : Grammar) (line : List Char) (stack : RuleStack) : State :=
  run g (lineText line) (fuel (lineText line) (firstState g line stack).stack)
    (firstState g line stack)

/-- A line is the painting of its last state. -/
theorem tokenizeLine_eq (g : Grammar) (line : List Char) (stack : RuleStack) :
    tokenizeLine g line stack =
      ⟨(lastState g line stack).paint.finish line.length (lastState g line stack).stack.innerScopes,
        (lastState g line stack).stack⟩ :=
  rfl

/-- **A line** takes regions off and puts regions on. -/
theorem stackChanges_tokenizeLine (g : Grammar) (line : List Char) (stack : RuleStack) :
    StackChanges g (g.start stack) (tokenizeLine g line stack).stack := by
  have hfirst : StackChanges g (g.start stack) (firstState g line stack).stack :=
    stackChanges_checkConditions g (lineText line) (g.start stack)
  have hlast : StackChanges g (firstState g line stack).stack (lastState g line stack).stack :=
    stackChanges_run _ _
  rw [tokenizeLine_eq]
  exact hfirst.trans hlast

end Tokenize

namespace Grammar

/-- The stacks that lines of text lead to. -/
inductive Reachable (g : Grammar) : RuleStack → Prop
  | initial : Reachable g RuleStack.initial
  | line {s : RuleStack} (l : List Char) (hs : Reachable g s) :
      Reachable g (tokenizeLine g l s).stack

/-- What holds of the region of the whole text, and is left alone by all changes, holds of the stacks
that lines start with. -/
theorem Reachable.invariant {g : Grammar} {Inv : RuleStack → Prop} (hroot : Inv [g.rootFrame])
    (hchange : ∀ s t, Tokenize.StackChange g s t → Inv s → Inv t) {s : RuleStack}
    (hs : g.Reachable s) : Inv (g.start s) := by
  induction hs with
  | initial => exact hroot
  | @line s l _ ih =>
    have hline := (Tokenize.stackChanges_tokenizeLine g l s).invariant hchange ih
    unfold start
    split
    · exact hroot
    · exact hline

end Grammar

namespace Tokenize

/-! ### Strokes of a step -/

/-- Regions whose scopes are of a kind. -/
def FramesHave (P : List String → Prop) (stack : RuleStack) : Prop :=
  ∀ f ∈ stack, P f.nameScopes ∧ P f.contentScopes

/-- Paint and regions with scopes of a kind. -/
structure Filled (P : List String → Prop) (size : Nat) (s : State) : Prop where
  paint : s.paint.Filled P size
  frames : FramesHave P s.stack

section Strokes

variable {P : List String → Prop} (happend : ∀ scopes more, P scopes → P (scopes ++ more))
include happend

theorem addScopes_of {scopes : List String} (h : P scopes) (text : Array Char) (m : Match)
    (name : Option String) : P (addScopes scopes text m name) := by
  cases name with
  | none => exact h
  | some name => exact happend _ _ h

/-- What happens to a stack keeps its scopes of a kind that all longer ones are of. -/
theorem framesHave_of_stackChange {s t : RuleStack} (h : StackChange g s t)
    (hs : FramesHave P s) : FramesHave P t := by
  cases h with
  | stop => exact fun f hf => hs f (List.mem_cons_of_mem _ hf)
  | refuse _ hsuffix =>
    exact fun f hf => hs f (hsuffix.subset (List.mem_cons_of_mem _ hf))
  | @push top _ _ hf =>
    -- the scopes of a new region extend those of what lies inside the one around it
    have htop : P top.contentScopes := (hs _ List.mem_cons_self).2
    refine List.forall_mem_cons.mpr ⟨?_, hs⟩
    have hname := fun text m (rule : Rule) => addScopes_of happend htop text m rule.name
    cases hf with
    | region => exact ⟨hname _ _ _, addScopes_of happend (hname _ _ _) _ _ _⟩
    | whileRegion => exact ⟨hname _ _ _, addScopes_of happend (hname _ _ _) _ _ _⟩

theorem framesHave_of_stackChanges {s t : RuleStack} (h : StackChanges g s t)
    (hs : FramesHave P s) : FramesHave P t :=
  h.invariant (fun _ _ => framesHave_of_stackChange happend) hs

theorem filled_stopRegion (hm : m.fits pos text.size = true) (hs : s.paint.Filled P text.size)
    (hname : P top.nameScopes) (hcontent : P top.contentScopes) :
    (stopRegion g text s top m).state.paint.Filled P text.size := by
  have hpaint := ((((hs.fill hcontent (Match.start_le_of_fits hm)).captures happend hname hm
    (stopCaptures g top)).fill hname (Match.stop_le_of_fits hm)))
  unfold stopRegion
  dsimp only
  split
  · exact hpaint.fill hcontent (Nat.le_refl _)
  · simpa [Outcome.state] using hpaint

theorem filled_beginRegion (hm : m.fits pos text.size = true) (hs : s.paint.Filled P text.size)
    (hcontent : P top.contentScopes) (rule : Rule) (captures : CaptureNames)
    (stop condition : Option FollowPattern) :
    (beginRegion text s top rule m captures stop condition).state.paint.Filled P text.size := by
  have hname := addScopes_of happend hcontent text m rule.name
  have hpaint := (hs.captures happend hname hm captures).fill hname (Match.stop_le_of_fits hm)
  unfold beginRegion
  dsimp only
  split
  · simpa [Outcome.state] using hpaint
  · split
    · exact hpaint.fill hcontent (Nat.le_refl _)
    · exact hpaint

theorem filled_applyRule (hm : m.fits pos text.size = true) (hs : s.paint.Filled P text.size)
    (hcontent : P top.contentScopes) (rule : Rule) :
    (applyRule g text s top rule m).state.paint.Filled P text.size := by
  have hbefore := hs.fill hcontent (Match.start_le_of_fits hm)
  unfold applyRule
  cases rule.kind with
  | single pattern captures =>
    have hname := addScopes_of happend hcontent text m rule.name
    have hpaint :=
      (hbefore.captures happend hname hm captures).fill hname (Match.stop_le_of_fits hm)
    dsimp only
    split
    · simpa [Outcome.state] using hpaint
    · exact hpaint.fill hcontent (Nat.le_refl _)
  | region => exact filled_beginRegion happend hm hbefore hcontent _ _ _ _
  | whileRegion => exact filled_beginRegion happend hm hbefore hcontent _ _ _ _
  | group => simpa [Outcome.state] using hbefore

/-- **A step** fills the line with scopes of the kind. -/
theorem filled_step (hs : Filled P text.size s) : Filled P text.size (step g text s).state := by
  refine ⟨?_, framesHave_of_stackChanges happend (stackChanges_step g text s) hs.frames⟩
  unfold step
  split
  · exact hs.paint
  rename_i top htop
  obtain ⟨hname, hcontent⟩ := hs.frames top (List.mem_of_mem_head? htop)
  split
  · exact hs.paint.fill hcontent (Nat.le_refl _)
  · rename_i m hm
    exact filled_stopRegion happend (of_nextMatch? hm).1 hs.paint hname hcontent
  · rename_i id m hm
    split
    · exact filled_applyRule happend (of_nextMatch? hm).1 hs.paint hcontent _
    · exact hs.paint

theorem filled_run (fuel : Nat) {s : State} (hs : Filled P text.size s) :
    Filled P text.size (run g text fuel s) :=
  invariant_run (fun _ => filled_step happend) fuel hs

theorem filled_checkConditions {stack : RuleStack} (hstack : FramesHave P stack) :
    (checkConditions g text stack).1.paint.Filled P text.size := by
  induction stack with
  | nil => exact .empty
  | cons f outer ih =>
    obtain ⟨⟨_, hcontent⟩, houter⟩ := List.forall_mem_cons.mp hstack
    have hpaint := ih houter
    rw [checkConditions]
    split
    · rename_i c hc
      rw [hc] at hpaint
      exact hpaint
    · rename_i c hc
      rw [hc] at hpaint
      split
      · exact hpaint
      · split
        · exact hpaint
        · rename_i m hm
          obtain ⟨p, _, hp⟩ := Option.bind_eq_some_iff.mp hm
          have hfits := Pattern.fits_of_find? hp
          have hbefore := hpaint.fill hcontent (Match.start_le_of_fits hfits)
          exact (hbefore.captures happend hcontent hfits _).fill hcontent
            (Match.stop_le_of_fits hfits)

/-- **A line** is filled with scopes of the kind, if it starts with such. -/
theorem filled_lastState (line : List Char) {stack : RuleStack}
    (hstart : FramesHave P (g.start stack)) :
    Filled P (line.length + 1) (lastState g line stack) := by
  rw [← size_lineText]
  refine filled_run happend _ ⟨filled_checkConditions happend hstart, ?_⟩
  exact framesHave_of_stackChanges happend (stackChanges_checkConditions g _ _) hstart

end Strokes

end Tokenize

end Tincture
