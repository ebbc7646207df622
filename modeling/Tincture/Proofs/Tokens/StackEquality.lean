import Tincture.Proofs.Grammar.Computed
import Tincture.Proofs.Grammar.Numbering
import Tincture.Proofs.Tokens.SameStack
import Tincture.Proofs.Tokens.Steps

/-!
# Equal stacks have equal futures

Stacks are compared without what was made of their patterns (`RuleStack.same`). On stacks that a
compiled grammar hands on this loses nothing: the pattern of each region is what its source stands
for (`Frame.Compiled`), whether it was made with the grammar or when the region began, so that
stacks that count as the same are equal, and all lines after them are (`tokenizeLines_eq_of_same`).
-/

namespace Tincture

/-! ### Compiled regions -/

/-- What was made of the pattern is what its source stands for. -/
def FollowPattern.Compiled (options : EngineOptions) (p : FollowPattern) : Prop :=
  p.pattern = Pattern.compile? options p.source

/-- The patterns of the region are what their sources stand for. -/
structure Frame.Compiled (options : EngineOptions) (f : Frame) : Prop where
  stop : ∀ p ∈ f.stop, p.Compiled options
  condition : ∀ p ∈ f.condition, p.Compiled options

theorem FollowRule.Compiled.resolve {options : EngineOptions} {r : FollowRule}
    (h : r.Compiled options) (group : Nat → List Char) :
    (r.resolve options group).Compiled options := by
  cases r with
  | fixed source pattern => exact h
  | backReferenced source => rfl

theorem FollowPattern.eq_of_source_eq {options : EngineOptions} {p q : FollowPattern}
    (hp : p.Compiled options) (hq : q.Compiled options) (h : p.source = q.source) : p = q := by
  have hpattern : p.pattern = q.pattern := by
    rw [show p.pattern = _ from hp, show q.pattern = _ from hq, h]
  cases p
  cases q
  subst h
  subst hpattern
  rfl

/-- At most one compiled pattern has a source. -/
theorem FollowPattern.eq_of_map_source_eq {options : EngineOptions} {p q : Option FollowPattern}
    (hp : ∀ a ∈ p, a.Compiled options) (hq : ∀ a ∈ q, a.Compiled options)
    (h : p.map (·.source) = q.map (·.source)) : p = q := by
  cases p with
  | none =>
    cases q with
    | none => rfl
    | some b => cases h
  | some a =>
    cases q with
    | none => cases h
    | some b =>
      rw [eq_of_source_eq (hp a rfl) (hq b rfl) (Option.some.inj h)]

theorem Frame.eq_of_same {options : EngineOptions} {a b : Frame} (ha : a.Compiled options)
    (hb : b.Compiled options) (h : a.same b = true) : a = b := by
  rw [Frame.same_iff] at h
  simp only [Frame.key, Prod.mk.injEq] at h
  obtain ⟨hrule, hstop, hcondition, hname, hcontent⟩ := h
  have hstop := FollowPattern.eq_of_map_source_eq ha.stop hb.stop hstop
  have hcondition := FollowPattern.eq_of_map_source_eq ha.condition hb.condition hcondition
  cases a
  cases b
  simp_all

/-- **Compiled stacks that count as the same are equal.** -/
theorem RuleStack.eq_of_same {options : EngineOptions} {s t : RuleStack}
    (hs : ∀ f ∈ s, f.Compiled options) (ht : ∀ f ∈ t, f.Compiled options)
    (h : s.same t = true) : s = t := by
  induction s generalizing t with
  | nil =>
    cases t with
    | nil => rfl
    | cons b t => simp [same] at h
  | cons a s ih =>
    cases t with
    | nil => simp [same] at h
    | cons b t =>
      simp only [same, Bool.and_eq_true] at h
      obtain ⟨ha, hs⟩ := List.forall_mem_cons.mp hs
      obtain ⟨hb, ht⟩ := List.forall_mem_cons.mp ht
      rw [Frame.eq_of_same ha hb h.1, ih hs ht h.2]

/-! ### Reachable stacks -/

namespace Grammar

/-- Lines that are tokenized one after the other. -/
def tokenizeLines (g : Grammar) : RuleStack → List (List Char) → List LineTokens
  | _, [] => []
  | s, l :: ls => tokenizeLine g l s :: tokenizeLines g (tokenizeLine g l s).stack ls

end Grammar

namespace Tokenize

variable {g : Grammar}

/-- A region that a rule opens has its pattern from the rule. -/
theorem compiled_of_opens (hg : g.Compiled) {top f : Frame} (hf : Opens g top f) :
    f.Compiled g.options := by
  cases hf with
  | @region _ rule _ _ _ _ stop _ _ hrule hkind =>
    have hcompiled : stop.Compiled g.options := hg rule hrule stop (by rw [hkind]; rfl)
    constructor
    · rintro p ⟨⟩
      exact hcompiled.resolve _
    · rintro p ⟨⟩
  | @whileRegion _ rule _ _ _ _ condition _ hrule hkind =>
    have hcompiled : condition.Compiled g.options := hg rule hrule condition (by rw [hkind]; rfl)
    constructor
    · rintro p ⟨⟩
    · rintro p ⟨⟩
      exact hcompiled.resolve _

theorem compiled_of_stackChange (hg : g.Compiled) {s t : RuleStack} (h : StackChange g s t)
    (hs : ∀ f ∈ s, f.Compiled g.options) : ∀ f ∈ t, f.Compiled g.options := by
  cases h with
  | stop => exact fun f hf => hs f (List.mem_cons_of_mem _ hf)
  | refuse _ hsuffix => exact fun f hf => hs f (hsuffix.subset (List.mem_cons_of_mem _ hf))
  | push hf => exact List.forall_mem_cons.mpr ⟨compiled_of_opens hg hf, hs⟩

end Tokenize

namespace Grammar

variable {g : Grammar}

/-- **Reachable stacks are compiled.** -/
theorem Reachable.compiled (hg : g.Compiled) {s : RuleStack} (hs : g.Reachable s) :
    ∀ f ∈ s, f.Compiled g.options := by
  have hroot : ∀ f ∈ [g.rootFrame], f.Compiled g.options := by
    intro f hf
    rw [List.mem_singleton.mp hf]
    constructor
    · rintro p ⟨⟩
    · rintro p ⟨⟩
  have hstart := hs.invariant hroot fun _ _ => Tokenize.compiled_of_stackChange hg
  -- a line starts with the stack itself, unless there is none yet
  unfold start at hstart
  split at hstart
  · rename_i hempty
    rw [List.isEmpty_iff.mp hempty]
    exact fun f hf => absurd hf List.not_mem_nil
  · exact hstart

/-- **Equal stacks have equal futures**: if two stacks that lines of text lead to count as the same,
they are equal in what was made of their patterns too, and all further lines get the same tokens and
hand on the same stacks. -/
theorem tokenizeLines_eq_of_same {options : EngineOptions} {spec : GrammarSpec}
    (hg : Grammar.compile options spec = .ok g) {s t : RuleStack} (hs : g.Reachable s)
    (ht : g.Reachable t) (h : s.same t = true) :
    s = t ∧ ∀ lines, g.tokenizeLines s lines = g.tokenizeLines t lines := by
  have hcompiled := compiled_compile hg
  have heq : s = t := RuleStack.eq_of_same (hs.compiled hcompiled) (ht.compiled hcompiled) h
  refine ⟨heq, fun lines => ?_⟩
  rw [heq]

/-- A file with one rule, for text between as many backquotes as it began with. -/
def fencedSpec : GrammarSpec where
  scopeName := "source.fenced"
  patterns := [{ beginPattern := some "(`+)", endPattern := some "\\1" }]

/-- What is made of it. -/
def fenced : Grammar where
  scopeName := "source.fenced"
  name := none
  fileTypes := []
  rules := #[{ id := 0, kind := .group [1] },
    { id := 1, kind := .region (Pattern.compile? {} "(`+)") {} (.backReferenced "\\1") {} false [] }]
  scanners := #[some ⟨⟨[Pattern.compile? {} "(`+)"]⟩, [1]⟩, some ⟨⟨[]⟩, []⟩]
  options := {}

theorem compile_fencedSpec : Grammar.compile {} fencedSpec = .ok fenced := by
  rw [Compile.compile_eq_compute]
  rfl

/-- Two backquotes lead to the same stack, whatever lines they stand in, but one leads to another. -/
theorem tokenizeLines_eq_of_same_fenced :
    let one := (tokenizeLine fenced "a`".toList RuleStack.initial).stack
    let two := (tokenizeLine fenced "a``".toList RuleStack.initial).stack
    let two' := (tokenizeLine fenced "``b".toList
      (tokenizeLine fenced "c".toList RuleStack.initial).stack).stack
    one.same two = false ∧ two.same two' = true ∧ two = two' ∧
      ∀ lines, fenced.tokenizeLines two lines = fenced.tokenizeLines two' lines := by
  intro one two two'
  have hdiffer : one.same two = false := by decide +kernel
  have hsame : two.same two' = true := by decide +kernel
  have htwo : fenced.Reachable two := .line _ .initial
  have htwo' : fenced.Reachable two' := .line _ (.line _ .initial)
  exact ⟨hdiffer, hsame, tokenizeLines_eq_of_same compile_fencedSpec htwo htwo' hsame⟩

/-! ### The provider of a grammar -/

theorem reachable_of_ofGrammar {theme : Option Theme} {s : RuleStack}
    (hs : (TokensProvider.ofGrammar g theme).Reachable s) : g.Reachable s := by
  induction hs with
  | initial => exact .initial
  | line l _ ih => exact .line l ih

end Grammar

/-- **The provider of a compiled grammar** respects the comparison of stacks, under any theme. -/
theorem TokensProvider.respectful_ofGrammar {options : EngineOptions} {spec : GrammarSpec}
    {g : Grammar} (hg : Grammar.compile options spec = .ok g) (theme : Option Theme) :
    (TokensProvider.ofGrammar g theme).Respectful := by
  intro l s t hs ht h
  have hcompiled := Grammar.compiled_compile hg
  have hs := (Grammar.reachable_of_ofGrammar hs).compiled hcompiled
  have ht := (Grammar.reachable_of_ofGrammar ht).compiled hcompiled
  rw [RuleStack.eq_of_same hs ht h]
  exact ProviderTokens.Same.refl _

end Tincture
