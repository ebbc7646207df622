import Mathlib.Data.List.Basic
import Tincture.Grammar.Compile

/-!
# What numbering keeps

The rules of a grammar are numbered in a walk over its file that allocates numbers, notes addresses
and fills in rules. What these three leave alone the whole walk leaves alone, however the includes
lead through the file (`keeps_number`). So all rules of a compiled grammar were made by `kindOf` from
some rule of the file (`made_of_compile`).
-/

namespace Tincture.Compile

/-- What two parts give one after the other, if neither fails. -/
theorem exists_of_bind_ok {ε α β : Type} {x : Except ε α} {f : α → Except ε β} {b : β}
    (h : x >>= f = .ok b) : ∃ a, x = .ok a ∧ f a = .ok b := by
  cases x with
  | error e => cases h
  | ok a => exact ⟨a, rfl, h⟩

/-- Wherever the step succeeds, it leaves the property of the state alone. -/
def Keeps {α : Type} (Inv : State → Prop) (x : Numbering α) : Prop :=
  ∀ s a s', x.run s = .ok (a, s') → Inv s → Inv s'

section Keeps

variable {α β : Type} {Inv : State → Prop}

theorem keeps_pure (a : α) : Keeps Inv (pure a : Numbering α) := by
  intro s b s' h hs
  cases h
  exact hs

theorem keeps_throw (e : CompileError) : Keeps Inv (throw e : Numbering α) := by
  intro s a s' h
  cases h

theorem keeps_bind {x : Numbering α} {f : α → Numbering β} (hx : Keeps Inv x)
    (hf : ∀ a, Keeps Inv (f a)) : Keeps Inv (x >>= f) := by
  intro s b s' h hs
  rw [StateT.run_bind] at h
  cases hrun : x.run s with
  | error e =>
    rw [hrun] at h
    cases h
  | ok as =>
    rw [hrun] at h
    exact hf as.1 as.2 b s' h (hx s as.1 as.2 hrun hs)

/-- What comes after a part without state may use that it succeeded. -/
theorem keeps_liftM_bind {x : Except CompileError α} {f : α → Numbering β}
    (hf : ∀ a, x = .ok a → Keeps Inv (f a)) : Keeps Inv ((liftM x : Numbering α) >>= f) := by
  intro s b s' h hs
  cases x with
  | error e => cases h
  | ok a => exact hf a rfl s b s' h hs

theorem keeps_get : Keeps Inv (get : Numbering State) := by
  intro s a s' h hs
  cases h
  exact hs

theorem keeps_modify {f : State → State} (hf : ∀ s, Inv s → Inv (f s)) :
    Keeps Inv (modify f : Numbering PUnit) := by
  intro s a s' h hs
  cases h
  exact hf s hs

end Keeps

/-- The rules that the walk fills in under a number: the one that lists the patterns of the grammar,
and those made from a rule of the file. -/
inductive Made (options : EngineOptions) (id : RuleId) : Rule → Prop
  | root (patterns : List RuleId) : Made options id { id := id, kind := .group patterns }
  | ofSpec {spec : RuleSpec} {children : List RuleId} {kind : RuleKind}
      (hkind : kindOf options spec children = .ok kind) :
      Made options id
        { id := id, name := spec.name, contentName := spec.contentName, kind := kind }

/-- A property of the state that the parts of the walk leave alone. -/
structure Stable (options : EngineOptions) (Inv : State → Prop) : Prop where
  allocate : ∀ s, Inv s → Inv { s with rules := s.rules.push none }
  note : ∀ s address id, Inv s → Inv { s with numbers := (address, id) :: s.numbers }
  fill : ∀ s id r, Made options id r → Inv s →
    Inv { s with rules := s.rules.setIfInBounds id (some r) }

variable {ctx : Context} {Inv : State → Prop}

theorem keeps_allocate (hInv : Stable ctx.options Inv) : Keeps Inv allocate := by
  intro s a s' h hs
  cases h
  exact hInv.allocate s hs

/-- **The walk** through a file leaves alone what its parts do. -/
theorem keeps_number (hInv : Stable ctx.options Inv) :
    (∀ repositories fuel address spec, Keeps Inv (number ctx repositories fuel address spec)) ∧
    ∀ repositories fuel parent index rules,
      Keeps Inv (numberAll ctx repositories fuel parent index rules) := by
  -- the induction follows the walk: down into the rules of a rule, and along a list of rules
  refine number.mutual_induct _ _ ?_ ?_ ?_ ?_
  · intro repositories address spec
    rw [number]
    exact keeps_throw _
  · intro repositories fuel address spec hlisted
    rw [number]
    refine keeps_liftM_bind fun target _ => ?_
    cases target with
    | root => exact keeps_pure _
    | nothing => exact keeps_pure _
    | rule address spec =>
      refine keeps_bind keeps_get fun s => ?_
      cases s.numbers.lookup address with
      | some id => exact keeps_pure _
      | none =>
        -- a rule without a number: it gets one, its own rules come next, and then it is filled in
        refine keeps_bind (keeps_allocate hInv) fun id => ?_
        refine keeps_bind (keeps_modify fun s hs => hInv.note s address id hs) fun _ => ?_
        refine keeps_bind (hlisted address spec) fun children => ?_
        refine keeps_liftM_bind fun kind hkind => ?_
        refine keeps_bind (keeps_modify fun s hs => ?_) fun _ => keeps_pure _
        exact hInv.fill s id _ (.ofSpec hkind) hs
  · intro repositories fuel index parent
    rw [numberAll]
    exact keeps_pure _
  · intro repositories fuel parent index spec rest hspec hrest
    rw [numberAll]
    exact keeps_bind hspec fun _ => keeps_bind hrest fun _ => keeps_pure _

theorem keeps_numberGrammar (hInv : Stable ctx.options Inv) (g : GrammarSpec) :
    Keeps Inv (numberGrammar ctx g) := by
  unfold numberGrammar
  refine keeps_bind (keeps_allocate hInv) fun root => ?_
  refine keeps_bind ((keeps_number hInv).2 _ _ _ _ _) fun patterns => ?_
  exact keeps_modify fun s hs => hInv.fill s root _ (.root patterns) hs

/-! ### The rules of a grammar -/

theorem stable_made (options : EngineOptions) :
    Stable options fun s => ∀ id r, s.rules[id]? = some (some r) → Made options id r where
  allocate := by
    intro s hs id r hr
    rw [Array.getElem?_push] at hr
    split at hr
    · simp at hr
    · exact hs id r hr
  note := fun _ _ _ hs => hs
  fill := by
    intro s id r hmade hs id' r' hr
    rw [Array.getElem?_setIfInBounds] at hr
    split at hr
    · rename_i heq
      subst heq
      split at hr
      · obtain rfl := Option.some.inj (Option.some.inj hr)
        exact hmade
      · simp at hr
    · exact hs id' r' hr

/-- What a step that may fail makes of a list, it makes of its parts. -/
theorem exists_of_mapM_ok {ε α β : Type} {f : α → Except ε β} {as : List α} {bs : List β}
    (h : as.mapM f = .ok bs) {i : Nat} {b : β} (hb : bs[i]? = some b) :
    ∃ a, as[i]? = some a ∧ f a = .ok b := by
  induction as generalizing bs i with
  | nil =>
    rw [List.mapM_nil] at h
    obtain rfl := Except.ok.inj h
    simp at hb
  | cons a as ih =>
    rw [List.mapM_cons] at h
    obtain ⟨b', hfirst, h⟩ := exists_of_bind_ok h
    obtain ⟨bs', hrest, h⟩ := exists_of_bind_ok h
    obtain rfl := Except.ok.inj h
    cases i with
    | zero =>
      obtain rfl : b' = b := by simpa using hb
      exact ⟨a, rfl, hfirst⟩
    | succ i => exact ih hrest (by simpa using hb)

/-- The rule table has the rules that were filled in. -/
theorem getElem?_of_ruleTable {rules : Array (Option Rule)} {table : List Rule}
    (h : ruleTable rules = .ok table) {id : RuleId} {r : Rule} (hr : table[id]? = some r) :
    rules[id]? = some (some r) := by
  obtain ⟨⟨rule, number⟩, hrule, hok⟩ := exists_of_mapM_ok h hr
  rw [List.getElem?_zipIdx, Option.map_eq_some_iff] at hrule
  obtain ⟨rule', hrule', heq⟩ := hrule
  obtain ⟨rfl, _⟩ := Prod.mk.inj heq
  rw [← Array.getElem?_toList, hrule']
  cases rule' with
  | none => cases hok
  | some r' =>
    obtain rfl := Except.ok.inj hok
    rfl

/-- **The rules of a compiled grammar** were all filled in by the walk through its file. -/
theorem made_of_compile {options : EngineOptions} {spec : GrammarSpec} {g : Grammar}
    (h : Grammar.compile options spec = .ok g) :
    g.options = options ∧ ∀ id r, g.rule? id = some r → Made options id r := by
  unfold Grammar.compile at h
  obtain ⟨⟨_, s⟩, hrun, h⟩ := exists_of_bind_ok h
  obtain ⟨table, htable, h⟩ := exists_of_bind_ok h
  obtain rfl := Except.ok.inj h
  refine ⟨rfl, fun id r hr => ?_⟩
  have hstart : ∀ id r, (State.rules {})[id]? = some (some r) → Made options id r := by
    intro id r hr
    simp at hr
  refine keeps_numberGrammar (stable_made options) spec {} () s hrun hstart id r ?_
  refine getElem?_of_ruleTable htable ?_
  rw [← hr, Grammar.rule?, List.getElem?_toArray]

end Tincture.Compile

namespace Tincture

/-! ### Patterns that end regions -/

/-- The pattern that ends the region that a rule begins, or keeps it open. -/
def RuleKind.follow? : RuleKind → Option FollowRule
  | .region _ _ stop _ _ _ => some stop
  | .whileRegion _ _ condition _ _ => some condition
  | .single .. | .group _ => none

/-- What was made of the pattern is what its source stands for. -/
def FollowRule.Compiled (options : EngineOptions) : FollowRule → Prop
  | .fixed source pattern => pattern = Pattern.compile? options source
  | .backReferenced _ => True

/-- The patterns that end regions or keep them open are what their sources stand for. -/
def Grammar.Compiled (g : Grammar) : Prop :=
  ∀ r ∈ g.rules, ∀ f ∈ r.kind.follow?, f.Compiled g.options

theorem Compile.compiled_followRule (options : EngineOptions) (source : String) :
    (followRule options source).Compiled options := by
  unfold followRule
  split
  · trivial
  · rfl

theorem Compile.compiled_kindOf {options : EngineOptions} {spec : RuleSpec}
    {children : List RuleId} {kind : RuleKind} (h : kindOf options spec children = .ok kind) :
    ∀ f ∈ kind.follow?, f.Compiled options := by
  unfold kindOf at h
  dsimp only at h
  split at h
  · obtain ⟨captures, _, h⟩ := exists_of_bind_ok h
    obtain rfl := Except.ok.inj h
    simp [RuleKind.follow?]
  · split at h
    · obtain ⟨beginCaptures, _, h⟩ := exists_of_bind_ok h
      obtain ⟨endCaptures, _, h⟩ := exists_of_bind_ok h
      obtain rfl := Except.ok.inj h
      rintro f ⟨⟩
      exact compiled_followRule options _
    · obtain ⟨beginCaptures, _, h⟩ := exists_of_bind_ok h
      obtain ⟨whileCaptures, _, h⟩ := exists_of_bind_ok h
      obtain rfl := Except.ok.inj h
      rintro f ⟨⟩
      exact compiled_followRule options _
    · cases h
  · obtain rfl := Except.ok.inj h
    simp [RuleKind.follow?]

/-- **A compiled grammar** has made of its patterns what their sources stand for. -/
theorem Grammar.compiled_compile {options : EngineOptions} {spec : GrammarSpec} {g : Grammar}
    (h : Grammar.compile options spec = .ok g) : g.Compiled := by
  obtain ⟨rfl, hmade⟩ := Compile.made_of_compile h
  intro r hr
  obtain ⟨id, hid⟩ := Array.getElem?_of_mem hr
  cases hmade id r hid with
  | root => simp [RuleKind.follow?]
  | ofSpec hkind => exact Compile.compiled_kindOf hkind

end Tincture
