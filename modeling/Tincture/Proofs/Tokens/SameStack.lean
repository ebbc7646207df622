import Tincture.Tokens.Provider

/-!
# Stacks that count as the same

`RuleStack.same` compares what a frame shows of itself, its `key`: everything but what was made of
its patterns (`RuleStack.same_iff`). So it is an equivalence, and outputs of a provider can be
compared up to it (`ProviderTokens.Same`).

A provider is `Respectful` when stacks that count as the same lead to outputs that do. This is only
asked of stacks that the provider hands out itself (`TokensProvider.Reachable`), since a stack made
by hand may hold a pattern that has nothing to do with its source.
-/

namespace Tincture

/-! ### Comparison by keys -/

/-- What a frame is compared by. -/
def Frame.key (f : Frame) :
    RuleId × Option String × Option String × List String × List String :=
  (f.rule, f.stop.map (·.source), f.condition.map (·.source), f.nameScopes, f.contentScopes)

theorem Frame.same_iff (a b : Frame) : a.same b = true ↔ a.key = b.key := by
  simp [Frame.same, FollowPattern.same, Frame.key, and_assoc]

namespace RuleStack

theorem same_iff (s t : RuleStack) : s.same t = true ↔ s.map Frame.key = t.map Frame.key := by
  induction s generalizing t with
  | nil => cases t <;> simp [same]
  | cons a s ih =>
    cases t with
    | nil => simp [same]
    | cons b t => simp [same, Frame.same_iff, ih]

theorem same_symm {s t : RuleStack} (h : s.same t = true) : t.same s = true := by
  rw [same_iff] at h ⊢
  exact h.symm

theorem same_trans {s t u : RuleStack} (hst : s.same t = true) (htu : t.same u = true) :
    s.same u = true := by
  rw [same_iff] at hst htu ⊢
  exact hst.trans htu

/-- Stacks that count as the same are equally deep. -/
theorem depth_eq_of_same {s t : RuleStack} (h : s.same t = true) : s.depth = t.depth := by
  rw [same_iff] at h
  simpa [depth] using congrArg List.length h

end RuleStack

/-! ### Outputs -/

/-- The same tokens, and stacks that count as the same. -/
def ProviderTokens.Same (a b : ProviderTokens) : Prop :=
  a.tokens = b.tokens ∧ a.stack.same b.stack = true

instance (a b : ProviderTokens) : Decidable (a.Same b) :=
  inferInstanceAs (Decidable (_ ∧ _))

namespace ProviderTokens.Same

theorem refl (a : ProviderTokens) : a.Same a :=
  ⟨rfl, a.stack.same_refl⟩

theorem symm {a b : ProviderTokens} (h : a.Same b) : b.Same a :=
  ⟨h.1.symm, RuleStack.same_symm h.2⟩

theorem trans {a b c : ProviderTokens} (hab : a.Same b) (hbc : b.Same c) : a.Same c :=
  ⟨hab.1.trans hbc.1, RuleStack.same_trans hab.2 hbc.2⟩

end ProviderTokens.Same

/-! ### Providers -/

namespace TokensProvider

variable {p : TokensProvider}

/-- The stacks that a provider hands out, from its first one on. -/
inductive Reachable (p : TokensProvider) : RuleStack → Prop where
  | initial : Reachable p p.initial
  | line {s : RuleStack} (l : List Char) : Reachable p s → Reachable p (p.tokenize l s).stack

/-- Stacks that count as the same lead to the same tokens and to stacks that count as the same. -/
def Respectful (p : TokensProvider) : Prop :=
  ∀ (l : List Char) (s t : RuleStack), p.Reachable s → p.Reachable t → s.same t = true →
    (p.tokenize l s).Same (p.tokenize l t)

/-- The stack after lines that are tokenized one after the other, from `stack` on. -/
def stackAfter (p : TokensProvider) (stack : RuleStack) (lines : List (List Char)) : RuleStack :=
  lines.foldl (fun s l => (p.tokenize l s).stack) stack

/-- What line `i` gets when all lines up to it are tokenized one after the other. -/
def scratch? (p : TokensProvider) (lines : List (List Char)) (i : Nat) : Option ProviderTokens :=
  lines[i]?.map fun l => p.tokenize l (p.stackAfter p.initial (lines.take i))

@[simp] theorem stackAfter_nil (s : RuleStack) : p.stackAfter s [] = s := rfl

@[simp] theorem stackAfter_cons (s : RuleStack) (l : List Char) (ls : List (List Char)) :
    p.stackAfter s (l :: ls) = p.stackAfter (p.tokenize l s).stack ls := rfl

theorem stackAfter_append (s : RuleStack) (ls ms : List (List Char)) :
    p.stackAfter s (ls ++ ms) = p.stackAfter (p.stackAfter s ls) ms := by
  rw [stackAfter, List.foldl_append]
  rfl

theorem reachable_stackAfter {s : RuleStack} (hs : p.Reachable s) (ls : List (List Char)) :
    p.Reachable (p.stackAfter s ls) := by
  induction ls generalizing s with
  | nil => exact hs
  | cons l ls ih => exact ih (hs.line l)

/-- One line more: the stack before line `i + 1` is the one that line `i` ends with. -/
theorem stackAfter_take_succ {lines : List (List Char)} {i : Nat} {l : List Char}
    (h : lines[i]? = some l) (s : RuleStack) :
    p.stackAfter s (lines.take (i + 1)) = (p.tokenize l (p.stackAfter s (lines.take i))).stack := by
  rw [List.take_add_one, h, stackAfter_append]
  rfl

end TokensProvider

end Tincture
