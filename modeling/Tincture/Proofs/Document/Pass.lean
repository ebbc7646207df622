import Mathlib.Data.List.Basic
import Tincture.Document.Basic
import Tincture.Proofs.Tokens.SameStack

/-!
# Passes over lines

A pass goes from line to line in one of three ways: it stops, it keeps what is known of the next
line, or it computes the line. `PassRun` has one rule for each of them, `passRun_pass` says that
`Document.pass` goes by these rules, and all that is known of a pass is shown by induction on them.

What is known of a line is right as long as it *follows* from the stack before it (`Follows`). A
list of slots in which every one does, looked at from a given first stack, is linked, and
`PassRun.linked` is what a pass makes of that: it may start at a slot that does not follow, and may
leave behind one such slot, the one at which it stops.
-/

namespace Tincture

open Text

namespace Document

variable {p : TokensProvider}

/-! ### The rules of a pass -/

/-- A line is kept as it is if the line before it ended as it did before and its tokens are known. -/
def Keeps (settled : Bool) (slot : Option CachedLine) : Prop :=
  settled = true ∧ ∃ c, slot = some c ∧ c.stale = false

theorem keeps_some {settled : Bool} {c : CachedLine} :
    Keeps settled (some c) ↔ settled = true ∧ c.stale = false := by
  simp [Keeps]

theorem not_keeps_none (settled : Bool) : ¬ Keeps settled none := by
  simp [Keeps]

/-- Whether a line ends now as it did before. -/
def settles (slot : Option CachedLine) (out : ProviderTokens) : Bool :=
  slot.any fun old => old.stack.same out.stack

end Document

namespace CachedLine

/-- What is known of a line whose tokens were just computed. -/
def ofOutput (out : ProviderTokens) : CachedLine :=
  ⟨out.tokens, out.stack, false⟩

/-- The tokens and the stack that are known of a line. -/
def output (c : CachedLine) : ProviderTokens :=
  ⟨c.tokens, c.stack⟩

@[simp] theorem stack_ofOutput (out : ProviderTokens) : (ofOutput out).stack = out.stack := rfl

end CachedLine

namespace Document

variable {p : TokensProvider}

/-- All stacks that are known were handed out by the provider. -/
def HandedOut (p : TokensProvider) (slots : List (Option CachedLine)) : Prop :=
  ∀ c, some c ∈ slots → p.Reachable c.stack

theorem handedOut_cons_some {c : CachedLine} {slots : List (Option CachedLine)} :
    HandedOut p (some c :: slots) ↔ p.Reachable c.stack ∧ HandedOut p slots := by
  simp [HandedOut]

theorem HandedOut.tail {slot : Option CachedLine} {slots : List (Option CachedLine)}
    (h : HandedOut p (slot :: slots)) : HandedOut p slots :=
  fun c hc => h c (List.mem_cons_of_mem _ hc)

/-- How a pass goes over lines of which `slots` are known. -/
inductive PassRun (p : TokensProvider) : (todo : Nat) → (settled : Bool) → RuleStack →
    List (List Char) → List (Option CachedLine) → Pass → Prop where
  | ended (todo : Nat) (settled : Bool) (stack : RuleStack) :
    PassRun p todo settled stack [] [] ⟨[], 0, 0⟩
  | stopped {settled : Bool} {slot : Option CachedLine} {ls : List (List Char)}
      {slots : List (Option CachedLine)} (stack : RuleStack) (l : List Char)
      (hkeep : ¬ Keeps settled slot) (hlen : ls.length = slots.length) :
    PassRun p 0 settled stack (l :: ls) (slot :: slots) ⟨slot :: slots, 0, 0⟩
  | kept {todo : Nat} {c : CachedLine} {ls : List (List Char)} {slots : List (Option CachedLine)}
      {r : Pass} (stack : RuleStack) (l : List Char) (hc : c.stale = false)
      (rest : PassRun p (todo - 1) true c.stack ls slots r) :
    PassRun p todo true stack (l :: ls) (some c :: slots) (r.kept c)
  | computed {todo : Nat} {settled : Bool} {stack : RuleStack} {l : List Char}
      {slot : Option CachedLine} {ls : List (List Char)} {slots : List (Option CachedLine)}
      {r : Pass} (hkeep : ¬ Keeps settled slot)
      (rest : PassRun p todo (settles slot (p.tokenize l stack)) (p.tokenize l stack).stack ls slots
        r) :
    PassRun p (todo + 1) settled stack (l :: ls) (slot :: slots)
      (r.computed (CachedLine.ofOutput (p.tokenize l stack)))

/-- **A pass goes by the rules.** -/
theorem passRun_pass (p : TokensProvider) (todo : Nat) (settled : Bool) (stack : RuleStack)
    {lines : List (List Char)} {slots : List (Option CachedLine)}
    (hlen : lines.length = slots.length) :
    PassRun p todo settled stack (lines.map trimLineFeed) slots
      (pass p todo settled stack lines slots) := by
  fun_induction pass p todo settled stack lines slots with
  | case1 todo settled stack line lines slots c hc _ ih =>
    obtain ⟨rfl, hstale⟩ : settled = true ∧ c.stale = false := by simpa using hc
    exact .kept stack _ hstale (ih (by simpa using hlen))
  | case2 settled stack line lines slots c hc =>
    exact .stopped stack _ (by simpa [keeps_some] using hc) (by simpa using hlen)
  | case3 settled stack line lines slots c hc todo _ ih =>
    exact .computed (by simpa [keeps_some] using hc) (ih todo (by simpa using hlen))
  | case4 settled stack line lines slots =>
    exact .stopped stack _ (not_keeps_none settled) (by simpa using hlen)
  | case5 settled stack line lines slots todo _ ih =>
    exact .computed (not_keeps_none settled) (ih todo (by simpa using hlen))
  | case6 lines todo settled stack slots hcons =>
    -- there are no more lines, and so no more slots
    cases lines with
    | nil =>
      obtain rfl : slots = [] := List.eq_nil_of_length_eq_zero hlen.symm
      exact .ended todo settled stack
    | cons l ls =>
      obtain ⟨slot, rest, rfl⟩ := List.exists_cons_of_length_eq_add_one hlen.symm
      exact (hcons l ls slot rest rfl rfl).elim

namespace PassRun

variable {todo : Nat} {settled : Bool} {stack : RuleStack} {lines : List (List Char)}
  {slots : List (Option CachedLine)} {r : Pass}

/-! ### How far a pass goes -/

theorem length_slots (h : PassRun p todo settled stack lines slots r) :
    r.slots.length = slots.length := by
  induction h with
  | ended => rfl
  | stopped => rfl
  | kept _ _ _ _ ih => simp [Pass.kept, ih]
  | computed _ _ ih => simp [Pass.computed, ih]

theorem reached_le (h : PassRun p todo settled stack lines slots r) :
    r.reached ≤ slots.length := by
  induction h with
  | ended => exact Nat.le_refl 0
  | stopped => exact Nat.zero_le _
  | kept _ _ _ _ ih => simpa [Pass.kept] using ih
  | computed _ _ ih => simpa [Pass.computed] using ih

/-- A pass goes as far as it was told to, or to the end. -/
theorem todo_le_or_eq (h : PassRun p todo settled stack lines slots r) :
    todo ≤ r.reached ∨ r.reached = slots.length := by
  induction h with
  | ended => exact Or.inr rfl
  | stopped => exact Or.inl (Nat.le_refl 0)
  | kept _ _ _ _ ih =>
    simp only [Pass.kept, List.length_cons]
    omega
  | computed _ _ ih =>
    simp only [Pass.computed, List.length_cons]
    omega

/-- All tokens are known of a line that a pass has gone over. -/
theorem exists_of_lt_reached (h : PassRun p todo settled stack lines slots r) {i : Nat}
    (hi : i < r.reached) : ∃ c, r.slots[i]? = some (some c) ∧ c.stale = false := by
  induction h generalizing i with
  | ended => simp at hi
  | stopped => simp at hi
  | @kept _ c _ _ _ _ _ hc _ ih =>
    cases i with
    | zero => exact ⟨c, rfl, hc⟩
    | succ i => exact ih (Nat.lt_of_succ_lt_succ hi)
  | computed _ _ ih =>
    cases i with
    | zero => exact ⟨_, rfl, rfl⟩
    | succ i => exact ih (Nat.lt_of_succ_lt_succ hi)

/-- All stacks that are known after a pass were handed out by the provider, if those were that it
started with. -/
theorem handedOut (h : PassRun p todo settled stack lines slots r) (hstack : p.Reachable stack)
    (hslots : HandedOut p slots) : HandedOut p r.slots := by
  induction h with
  | ended => exact hslots
  | stopped => exact hslots
  | kept _ _ _ _ ih =>
    obtain ⟨hc, hrest⟩ := handedOut_cons_some.mp hslots
    exact handedOut_cons_some.mpr ⟨hc, ih hc hrest⟩
  | @computed _ _ _ l _ _ _ _ _ _ ih =>
    exact handedOut_cons_some.mpr ⟨hstack.line l, ih (hstack.line l) hslots.tail⟩

end PassRun

/-! ### Slots that follow from each other -/

/-- What is known of a line with the text `l` is what the provider gives for it after the stack
`before`, as far as anything is known. -/
def Follows (p : TokensProvider) (before : Option RuleStack) (l : List Char) :
    Option CachedLine → Prop
  | none => True
  | some c => c.stale = true ∨ match before with
    | none => False
    | some s => c.output.Same (p.tokenize l s)

instance (p : TokensProvider) (before : Option RuleStack) (l : List Char) :
    (slot : Option CachedLine) → Decidable (Follows p before l slot)
  | none => isTrue trivial
  | some c => match before with
    | none => inferInstanceAs (Decidable (c.stale = true ∨ False))
    | some s => inferInstanceAs (Decidable (c.stale = true ∨ c.output.Same (p.tokenize l s)))

/-- The stack that line `i` is known to end with. -/
def stackAt (slots : List (Option CachedLine)) (i : Nat) : Option RuleStack :=
  (slots[i]?).join.map (·.stack)

/-- The stack that is known to stand before a line, `first` being the one before the first line. -/
def before? (first : Option RuleStack) (slots : List (Option CachedLine)) : Nat → Option RuleStack
  | 0 => first
  | i + 1 => stackAt slots i

theorem before?_congr {first : Option RuleStack} {slots slots' : List (Option CachedLine)} {i : Nat}
    (h : ∀ j < i, slots'[j]? = slots[j]?) : before? first slots' i = before? first slots i := by
  cases i with
  | zero => rfl
  | succ i => rw [before?, before?, stackAt, stackAt, h i (Nat.lt_succ_self i)]

/-- What is known of line `i` follows from the stack before it. -/
def Linked (p : TokensProvider) (first : Option RuleStack) (lines : List (List Char))
    (slots : List (Option CachedLine)) (i : Nat) : Prop :=
  ∀ l, lines[i]? = some l → Follows p (before? first slots i) l (slots[i]?).join

instance (p : TokensProvider) (first : Option RuleStack) (lines : List (List Char))
    (slots : List (Option CachedLine)) (i : Nat) : Decidable (Linked p first lines slots i) :=
  match h : lines[i]? with
  | none => isTrue fun l hl => by simp [h] at hl
  | some l => decidable_of_iff (Follows p (before? first slots i) l (slots[i]?).join)
      ⟨fun hf l' hl => by rw [h] at hl; cases hl; exact hf, fun hf => hf l h⟩

section Linked

variable {first : Option RuleStack} {l : List Char} {ls : List (List Char)}
  {slot : Option CachedLine} {slots : List (Option CachedLine)}

theorem linked_cons_zero : Linked p first (l :: ls) (slot :: slots) 0 ↔ Follows p first l slot := by
  simp [Linked, before?]

theorem linked_cons_succ (i : Nat) :
    Linked p first (l :: ls) (slot :: slots) (i + 1) ↔
      Linked p (slot.map (·.stack)) ls slots i := by
  cases i <;> simp [Linked, before?, stackAt]

/-- Only the first line looks at the first stack. -/
theorem Linked.change_first {i : Nat} (hi : i ≠ 0) (h : Linked p first ls slots i)
    (other : Option RuleStack) : Linked p other ls slots i := by
  obtain ⟨j, rfl⟩ := Nat.exists_eq_succ_of_ne_zero hi
  exact h

theorem linked_drop (n i : Nat) :
    Linked p (before? first slots n) (ls.drop n) (slots.drop n) i ↔
      Linked p first ls slots (n + i) := by
  cases i with
  | zero => simp [Linked, before?]
  | succ i => simp [Linked, before?, stackAt, ← Nat.add_assoc]

/-- A line that follows from a stack follows from every stack that counts as the same. -/
theorem Follows.of_same (hp : p.Respectful) {s t : RuleStack} (hs : p.Reachable s)
    (ht : p.Reachable t) (hst : s.same t = true) (h : Follows p (some s) l slot) :
    Follows p (some t) l slot := by
  cases slot with
  | none => exact h
  | some c =>
    rcases h with hstale | hsame
    · exact Or.inl hstale
    · exact Or.inr (hsame.trans (hp l s t hs ht hst))

theorem Linked.of_same (hp : p.Respectful) {s t : RuleStack} (hs : p.Reachable s)
    (ht : p.Reachable t) (hst : s.same t = true) (h : Linked p (some s) ls slots 0) :
    Linked p (some t) ls slots 0 :=
  fun l hl => Follows.of_same hp hs ht hst (h l hl)

end Linked

/-- **What a pass makes of linked slots.** All slots but the first one have to be linked, and the
first one too if the pass may keep it. Afterwards all slots are linked but the one at which the pass
stops. -/
theorem PassRun.linked (hp : p.Respectful) {todo : Nat} {settled : Bool} {stack : RuleStack}
    {lines : List (List Char)} {slots : List (Option CachedLine)} {r : Pass}
    (h : PassRun p todo settled stack lines slots r) (hstack : p.Reachable stack)
    (hslots : HandedOut p slots) (hrest : ∀ i, i ≠ 0 → Linked p none lines slots i)
    (hfirst : settled = true → Linked p (some stack) lines slots 0) :
    ∀ i, i ≠ r.reached → Linked p (some stack) lines r.slots i := by
  induction h with
  | ended => exact fun i _ l hl => by simp at hl
  | stopped stack => exact fun i hi => (hrest i hi).change_first hi (some stack)
  | @kept _ c ls slots r _ l hc _ ih =>
    -- the line follows from the stack before it, and what comes after it from its own stack
    obtain ⟨hcr, hout⟩ := handedOut_cons_some.mp hslots
    have hnext : ∀ i, Linked p (some c.stack) ls slots i := fun i =>
      (linked_cons_succ i).mp (hrest (i + 1) (Nat.succ_ne_zero i))
    intro i hi
    cases i with
    | zero => exact linked_cons_zero.mpr (linked_cons_zero.mp (hfirst rfl))
    | succ i =>
      refine (linked_cons_succ i).mpr (ih hcr hout ?_ (fun _ => hnext 0) i ?_)
      · exact fun j hj => (hnext j).change_first hj none
      · exact fun heq => hi (by rw [heq]; rfl)
  | @computed _ _ stack l slot ls slots r _ _ ih =>
    have hnext : ∀ i, Linked p (slot.map (·.stack)) ls slots i := fun i =>
      (linked_cons_succ i).mp (hrest (i + 1) (Nat.succ_ne_zero i))
    intro i hi
    cases i with
    | zero => exact linked_cons_zero.mpr (Or.inr (ProviderTokens.Same.refl _))
    | succ i =>
      refine (linked_cons_succ i).mpr (ih (hstack.line l) hslots.tail ?_ ?_ i ?_)
      · exact fun j hj => (hnext j).change_first hj none
      · -- the line ends as before, so what follows the old stack follows the new one
        intro hsettles
        cases slot with
        | none => simp [settles] at hsettles
        | some c =>
          have hc : p.Reachable c.stack := (handedOut_cons_some.mp hslots).1
          exact Linked.of_same hp hc (hstack.line l) (by simpa [settles] using hsettles) (hnext 0)
      · exact fun heq => hi (by rw [heq]; rfl)

/-! ### What a pass keeps and what it computes -/

namespace PassRun

variable {todo : Nat} {settled : Bool} {stack : RuleStack} {lines : List (List Char)}
  {slots : List (Option CachedLine)} {r : Pass}

/-- After a line that ended as before, all lines are kept up to one whose tokens are not known. -/
theorem kept_of_settled (h : PassRun p todo true stack lines slots r) {n : Nat}
    (hn : ∀ i < n, ∃ c, slots[i]? = some (some c) ∧ c.stale = false) :
    n ≤ r.reached ∧ ∀ i < n, r.slots[i]? = slots[i]? := by
  -- of the rules only the one that keeps a line applies to the first `n` lines
  generalize hs : true = settled at h
  induction h generalizing n with
  | ended =>
    cases n with
    | zero => simp
    | succ n => obtain ⟨c, hc, _⟩ := hn 0 n.succ_pos; simp at hc
  | stopped _ _ hkeep =>
    cases n with
    | zero => simp
    | succ n =>
      obtain ⟨c, hc, hstale⟩ := hn 0 n.succ_pos
      exact (hkeep ⟨hs.symm, c, by simpa using hc, hstale⟩).elim
  | kept _ _ _ _ ih =>
    cases n with
    | zero => simp
    | succ n =>
      obtain ⟨hreach, hkept⟩ := ih (fun i hi => hn (i + 1) (Nat.succ_lt_succ hi)) rfl
      refine ⟨Nat.succ_le_succ hreach, fun i hi => ?_⟩
      cases i with
      | zero => rfl
      | succ i => exact hkept i (Nat.lt_of_succ_lt_succ hi)
  | computed hkeep =>
    cases n with
    | zero => simp
    | succ n =>
      obtain ⟨c, hc, hstale⟩ := hn 0 n.succ_pos
      exact (hkeep ⟨hs.symm, c, by simpa using hc, hstale⟩).elim

/-- A pass that keeps all lines computes none. -/
theorem tokenized_eq_zero (h : PassRun p todo true stack lines slots r)
    (hslots : ∀ i < slots.length, ∃ c, slots[i]? = some (some c) ∧ c.stale = false) :
    r.tokenized = 0 := by
  generalize hs : true = settled at h
  induction h with
  | ended => rfl
  | stopped => rfl
  | kept _ _ _ _ ih => exact ih (fun i hi => hslots (i + 1) (Nat.succ_lt_succ hi)) rfl
  | computed hkeep =>
    obtain ⟨c, hc, hstale⟩ := hslots 0 (Nat.succ_pos _)
    exact (hkeep ⟨hs.symm, c, by simpa using hc, hstale⟩).elim

theorem tokenized_nil (h : PassRun p todo settled stack lines [] r) : r.tokenized = 0 := by
  cases h
  rfl

/-- A line is known, before and after, to end with stacks that count as the same. -/
def EndsAlike (slots after : List (Option CachedLine)) (i : Nat) : Prop :=
  ∃ s t, stackAt slots i = some s ∧ stackAt after i = some t ∧ s.same t = true

theorem endsAlike_zero (slot : Option CachedLine) (slots after : List (Option CachedLine))
    (out : ProviderTokens) :
    EndsAlike (slot :: slots) (some (.ofOutput out) :: after) 0 ↔ settles slot out = true := by
  cases slot <;> simp [EndsAlike, stackAt, settles]

/-- **The work of a pass.** Of lines of which nothing is known before line `k`, and everything after
it, a pass computes all up to the first one, from line `k` on, that ends as before. -/
theorem exists_tokenized_eq (h : PassRun p todo false stack lines slots r)
    (htodo : slots.length ≤ todo) {k : Nat} (hk : k < slots.length)
    (hnone : ∀ i < k, slots[i]? = some none)
    (hknown : ∀ i, k < i → i < slots.length → ∃ c, slots[i]? = some (some c) ∧ c.stale = false) :
    ∃ m, k ≤ m ∧ m < slots.length ∧ r.tokenized = m + 1 ∧
      (∀ i, k ≤ i → i < m → ¬ EndsAlike slots r.slots i) ∧
      (m + 1 = slots.length ∨ EndsAlike slots r.slots m) := by
  generalize hs : false = settled at h
  induction h generalizing k with
  | ended => simp at hk
  | stopped => simp at htodo
  | kept => cases hs
  | @computed todo settled stack l slot ls slots r _ rest ih =>
    by_cases hset : settles slot (p.tokenize l stack) = true
    · -- the first line ends as before, so the rest is kept
      have hk0 : k = 0 := by
        by_contra hne
        have : slot = none := by simpa using hnone 0 (Nat.pos_of_ne_zero hne)
        simp [this, settles] at hset
      subst hk0
      have hall : ∀ i < slots.length, ∃ c, slots[i]? = some (some c) ∧ c.stale = false :=
        fun i hi => hknown (i + 1) i.succ_pos (Nat.succ_lt_succ hi)
      rw [hset] at rest
      refine ⟨0, Nat.le_refl 0, Nat.succ_pos _, ?_, fun i _ hi => absurd hi i.not_lt_zero, ?_⟩
      · simp [Pass.computed, rest.tokenized_eq_zero hall]
      · exact Or.inr ((endsAlike_zero _ _ _ _).mpr hset)
    · have hset : settles slot (p.tokenize l stack) = false := by simpa using hset
      by_cases hlast : slots = []
      · -- there is no other line to end as before
        subst hlast
        have hk0 : k = 0 := by simpa using hk
        subst hk0
        refine ⟨0, Nat.le_refl 0, Nat.succ_pos _, ?_, fun i _ hi => absurd hi i.not_lt_zero, ?_⟩
        · simp [Pass.computed, rest.tokenized_nil]
        · exact Or.inl rfl
      · -- the line ends otherwise, and the next one is computed too
        have hpos : 0 < slots.length := List.length_pos_of_ne_nil hlast
        have htodo' : slots.length ≤ todo := by simpa using htodo
        simp only [List.length_cons] at hk hknown
        obtain ⟨m, hkm, hm, hcount, hbefore, hat⟩ := ih htodo' (k := k - 1) (by omega)
          (fun i hi => hnone (i + 1) (by omega))
          (fun i hi hlen => hknown (i + 1) (by omega) (by omega)) hset.symm
        refine ⟨m + 1, by omega, Nat.succ_lt_succ hm, ?_, ?_, ?_⟩
        · simp [Pass.computed, hcount]
        · intro i hki him halike
          cases i with
          | zero => simp [(endsAlike_zero _ _ _ _).mp halike] at hset
          | succ i => exact hbefore i (by omega) (by omega) halike
        · rcases hat with hend | halike
          · exact Or.inl (by simpa using hend)
          · exact Or.inr halike

/-- A pass over lines of which nothing is known before line `n`, and which finds that line to end as
before, keeps the known lines after it. -/
theorem kept_of_endsAlike (h : PassRun p todo false stack lines slots r)
    (htodo : slots.length ≤ todo) {n q : Nat} {c : CachedLine}
    (hnone : ∀ i < n, slots[i]? = some none) (hc : slots[n]? = some (some c))
    (hsame : c.stack.same (p.stackAfter stack (lines.take (n + 1))) = true)
    (hknown : ∀ i < q, ∃ c, slots[n + 1 + i]? = some (some c) ∧ c.stale = false) :
    n + 1 + q ≤ r.reached ∧ ∀ i < q, r.slots[n + 1 + i]? = slots[n + 1 + i]? := by
  generalize hs : false = settled at h
  induction h generalizing n with
  | ended => simp at hc
  | stopped => simp at htodo
  | kept => cases hs
  | @computed todo settled stack l slot ls slots r _ rest ih =>
    cases n with
    | zero =>
      -- this is line `n`: it ends as before, and what is known behind it is kept
      have hslot : slot = some c := by simpa using hc
      have hset : settles slot (p.tokenize l stack) = true := by
        simpa [hslot, settles] using hsame
      rw [hset] at rest
      obtain ⟨hreach, hkept⟩ := rest.kept_of_settled (n := q) fun i hi => by
        simpa [Nat.add_comm 1 i] using hknown i hi
      constructor
      · simp only [Pass.computed]
        omega
      · intro i hi
        simpa [Pass.computed, Nat.add_comm 1 i] using hkept i hi
    | succ n =>
      -- nothing is known of the line, so that it cannot end as before
      have hslot : slot = none := by simpa using hnone 0 n.succ_pos
      have hset : settles slot (p.tokenize l stack) = false := by simp [hslot, settles]
      have hshift : ∀ i, n + 1 + 1 + i = n + 1 + i + 1 := by omega
      obtain ⟨hreach, hkept⟩ := ih (by simpa using htodo) (n := n)
        (fun i hi => hnone (i + 1) (Nat.succ_lt_succ hi)) (by simpa using hc)
        (by simpa using hsame) (fun i hi => by simpa [hshift] using hknown i hi) hset.symm
      constructor
      · simp only [Pass.computed]
        omega
      · intro i hi
        simpa [Pass.computed, hshift] using hkept i hi

end PassRun

end Document

end Tincture
