import Tincture.Proofs.Grammar.Includes
import Tincture.Proofs.Grammar.Numbering

/-!
# The bound of the walk

The walk that numbers the rules of a file is bounded: in the length of chains of includes, and in how
deep rules stand in each other. A walk that is not cut off at the bound goes the same way under each
larger bound (`stepsAlike_number`).
-/

namespace Tincture.Compile

/-- The first is cut off, or they are the same. -/
def CutOff {α : Type} (x y : Except CompileError α) : Prop :=
  x = .error .endlessInclude ∨ x = y

/-- From each state the first step is cut off, or goes the way of the second. -/
def StepsAlike {α : Type} (x y : Numbering α) : Prop :=
  ∀ s, CutOff (x.run s) (y.run s)

section StepsAlike

variable {α β : Type}

theorem CutOff.refl (x : Except CompileError α) : CutOff x x :=
  Or.inr rfl

theorem StepsAlike.refl (x : Numbering α) : StepsAlike x x := fun s =>
  CutOff.refl (x.run s)

theorem CutOff.bind {x y : Except CompileError α} {f g : α → Except CompileError β}
    (hx : CutOff x y) (hf : ∀ a, CutOff (f a) (g a)) : CutOff (x >>= f) (y >>= g) := by
  rcases hx with rfl | rfl
  · exact Or.inl rfl
  cases x with
  | error e => exact Or.inr rfl
  | ok a => exact hf a

/-- What comes of one that is not cut off comes of each other one, unless it is cut off itself. -/
theorem CutOff.of_ok {a : α} {x z : Except CompileError α} (ha : CutOff (.ok a) z)
    (hx : CutOff x z) : CutOff x (.ok a) := by
  rcases ha with ha | rfl
  · cases ha
  · exact hx

theorem StepsAlike.bind {x y : Numbering α} {f g : α → Numbering β} (hx : StepsAlike x y)
    (hf : ∀ a, StepsAlike (f a) (g a)) : StepsAlike (x >>= f) (y >>= g) := fun s => by
  rw [StateT.run_bind, StateT.run_bind]
  exact (hx s).bind fun as => hf as.1 as.2

theorem StepsAlike.liftM {x y : Except CompileError α} (h : CutOff x y) :
    StepsAlike (liftM x) (liftM y) := fun s =>
  h.bind fun a => CutOff.refl (.ok (a, s))

end StepsAlike

/-- The bound of a chain of includes. -/
theorem cutOff_follow (scopeName : String) (repositories : List Repository) {fuel fuel' : Nat}
    (hle : fuel ≤ fuel') (address : Address) (spec : RuleSpec) :
    CutOff (follow scopeName repositories fuel address spec)
      (follow scopeName repositories fuel' address spec) := by
  by_cases h : follow scopeName repositories fuel address spec = .error .endlessInclude
  · exact Or.inl h
  · exact Or.inr (follow_of_le hle h).symm

/-- **The walk** goes the same way under each larger bound, unless it is cut off. -/
theorem stepsAlike_number (scopeName : String) (options : EngineOptions) {limit limit' : Nat}
    (hlimit : limit ≤ limit') :
    (∀ repositories fuel address spec, ∀ fuel' ≥ fuel,
      StepsAlike (number ⟨scopeName, options, limit⟩ repositories fuel address spec)
        (number ⟨scopeName, options, limit'⟩ repositories fuel' address spec)) ∧
    ∀ repositories fuel parent index rules, ∀ fuel' ≥ fuel,
      StepsAlike (numberAll ⟨scopeName, options, limit⟩ repositories fuel parent index rules)
        (numberAll ⟨scopeName, options, limit'⟩ repositories fuel' parent index rules) := by
  -- the induction follows the walk under the smaller bound
  refine number.mutual_induct _ _ ?_ ?_ ?_ ?_
  · intro repositories address spec fuel' _ s
    rw [number]
    exact Or.inl rfl
  · intro repositories fuel address spec hlisted fuel' hfuel
    obtain ⟨fuel', rfl⟩ : ∃ more, fuel' = more + 1 := ⟨fuel' - 1, by omega⟩
    rw [number, number]
    refine (StepsAlike.liftM (cutOff_follow _ _ (Nat.succ_le_succ hlimit) _ _)).bind fun target => ?_
    cases target with
    | root => exact .refl _
    | nothing => exact .refl _
    | rule address spec =>
      refine (StepsAlike.refl _).bind fun s => ?_
      cases s.numbers.lookup address with
      | some id => exact .refl _
      | none =>
        refine (StepsAlike.refl _).bind fun id => (StepsAlike.refl _).bind fun _ => ?_
        refine (hlisted address spec fuel' (Nat.le_of_succ_le_succ hfuel)).bind fun children => ?_
        exact .refl _
  · intro repositories fuel index parent fuel' _
    rw [numberAll, numberAll]
    exact .refl _
  · intro repositories fuel parent index spec rest hspec hrest fuel' hfuel
    rw [numberAll, numberAll]
    exact (hspec fuel' hfuel).bind fun _ => (hrest fuel' hfuel).bind fun _ => .refl _

end Tincture.Compile
