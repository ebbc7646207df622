import Tincture.Proofs.Document.Fitted

/-!
# Histories of a document

A document is made from a text and then edited and tokenized in any order (`Operation`, `run`).
However this goes, it stays `Coherent`: there is a slot for each line, the tokens of all lines
before the first invalid one are known, and all stacks were handed out by the provider
(`coherent_run`).

That the tokens are right is another matter. A line is `LinkedAt` if what is known of it follows
from the line before it. When all lines before the first invalid one are linked, they have the
tokens that a pass from scratch gives them (`right_of_linkedAt`), and the other way round
(`Right.linkedAt`).
-/

namespace Tincture

namespace Document

open Text

variable {p : TokensProvider} {d d' : Document}

/-! ### Operations -/

/-- A call that changes a part of the text. -/
inductive Edit where
  | replace (start stop : Nat) (text : List Char)
  | insert (place : Nat) (text : List Char)
  | delete (start stop : Nat)

namespace Edit

def start : Edit → Nat
  | replace start _ _ => start
  | insert place _ => place
  | delete start _ => start

def stop : Edit → Nat
  | replace _ stop _ => stop
  | insert place _ => place
  | delete _ stop => stop

/-- The text that comes in. -/
def text : Edit → List Char
  | replace _ _ text => text
  | insert _ text => text
  | delete _ _ => []

def apply (d : Document) : Edit → Document
  | replace start stop text => d.replace start stop text
  | insert place text => d.insert place text
  | delete start stop => d.delete start stop

/-- Every edit replaces something. -/
theorem apply_eq_replace (e : Edit) (d : Document) :
    e.apply d = d.replace e.start e.stop e.text := by
  cases e <;> rfl

end Edit

/-- What can be done with a document. -/
inductive Operation where
  | edit (e : Edit)
  | setText (text : List Char)
  | invalidateAll
  | ensure (upTo : Nat)

namespace Operation

/-- The text that an operation brings in. -/
def text : Operation → List Char
  | edit e => e.text
  | setText text => text
  | invalidateAll | ensure _ => []

def apply (p : TokensProvider) (d : Document) : Operation → Document
  | edit e => e.apply d
  | setText text => ofText text
  | invalidateAll => d.invalidateAll
  | ensure upTo => (d.ensureTokenized p upTo).1

end Operation

/-- One operation after the other. -/
def run (p : TokensProvider) (d : Document) (ops : List Operation) : Document :=
  ops.foldl (Operation.apply p) d

theorem run_append (d : Document) (ops ops' : List Operation) :
    d.run p (ops ++ ops') = (d.run p ops).run p ops' :=
  List.foldl_append

/-- No operation brings a carriage return into the text. -/
def NoReturns (ops : List Operation) : Prop :=
  ∀ op ∈ ops, '\r' ∉ op.text

instance (ops : List Operation) : Decidable (NoReturns ops) :=
  inferInstanceAs (Decidable (∀ op ∈ ops, '\r' ∉ op.text))

theorem noReturns_cons {op : Operation} {ops : List Operation} :
    NoReturns (op :: ops) ↔ '\r' ∉ op.text ∧ NoReturns ops := by
  simp [NoReturns]

/-! ### Coherent documents -/

/-- What holds of a document whatever was done with it. -/
structure Coherent (p : TokensProvider) (d : Document) : Prop where
  noReturn : '\r' ∉ d.text
  fits : d.slots.length = d.lineCount
  known : ∀ i < d.firstInvalid, ∃ c, d.slots[i]? = some (some c) ∧ c.stale = false
  handedOut : HandedOut p d.slots

theorem coherent_ofText {text : List Char} (h : '\r' ∉ text) : Coherent p (ofText text) where
  noReturn := h
  fits := (Fitted.ofText text).fits
  known := (Fitted.ofText text).known
  handedOut := fun c hc => by simp [ofText] at hc

namespace Coherent

theorem fitted (h : Coherent p d) : Fitted d :=
  ⟨h.fits, h.known⟩

theorem firstInvalid_le (h : Coherent p d) : d.firstInvalid ≤ d.lineCount :=
  h.fitted.firstInvalid_le

theorem invalidateAll (h : Coherent p d) : Coherent p d.invalidateAll where
  noReturn := h.noReturn
  fits := h.fitted.invalidateAll.fits
  known := h.fitted.invalidateAll.known
  handedOut := fun c hc => by simp [Document.invalidateAll] at hc

theorem spliced {first last k : Nat} (h : Coherent p d) (hs : Spliced d d' first last k)
    (htext : '\r' ∉ d'.text) : Coherent p d' where
  noReturn := htext
  fits := hs.slots_fit h.fits
  known := fun i hi => by
    have hf := hs.firstInvalid
    rw [hs.slot_before h.fits (by omega)]
    exact h.known i (by omega)
  handedOut := fun c hc => by
    rw [hs.slots] at hc
    simp only [List.mem_append, List.mem_cons, List.mem_replicate, Option.map_eq_some_iff,
      reduceCtorEq, and_false, false_or, eq_comm (a := some c)] at hc
    -- a slot is old, or carries the stack of an old one
    rcases hc with hc | ⟨old, hold, rfl⟩ | hc
    · exact h.handedOut c (List.mem_of_mem_take hc)
    · rw [Option.join_eq_some_iff] at hold
      exact h.handedOut old (List.mem_of_getElem? hold)
    · exact h.handedOut c (List.mem_of_mem_drop hc)

theorem replace (h : Coherent p d) (start stop : Nat) {new : List Char} (hnew : '\r' ∉ new) :
    Coherent p (d.replace start stop new) :=
  h.spliced (spliced_replace d start stop h.noReturn hnew)
    (not_mem_text_replace start stop h.noReturn hnew)

/-- The stack with which a pass starts is the one that is known to stand there. -/
theorem before?_firstInvalid (h : Coherent p d) :
    before? (some p.initial) d.slots d.firstInvalid = some (d.stackBefore p d.firstInvalid) := by
  cases hf : d.firstInvalid with
  | zero => rfl
  | succ i =>
    obtain ⟨c, hc, _⟩ := h.known i (by omega)
    simp [before?, stackAt, stackBefore, hc]

theorem reachable_stackBefore (h : Coherent p d) (i : Nat) : p.Reachable (d.stackBefore p i) := by
  cases i with
  | zero => exact .initial
  | succ i =>
    cases hc : (d.slots[i]?).join with
    | none => simpa [stackBefore, hc] using TokensProvider.Reachable.initial
    | some c =>
      rw [Option.join_eq_some_iff] at hc
      simpa [stackBefore, hc] using h.handedOut c (List.mem_of_getElem? hc)

end Coherent

/-! ### Passes -/

theorem Coherent.afterPass {todo : Nat} {r : Pass} (h : Coherent p d)
    (hr : PassRun p todo false (d.stackBefore p d.firstInvalid) (d.lines.drop d.firstInvalid)
      (d.slots.drop d.firstInvalid) r) : Coherent p (d.afterPass r) where
  noReturn := h.noReturn
  fits := (h.fitted.afterPass hr).fits
  known := (h.fitted.afterPass hr).known
  handedOut := fun c hc => by
    rcases List.mem_append.mp hc with hc | hc
    · exact h.handedOut c (List.mem_of_mem_take hc)
    · have hslots : HandedOut p (d.slots.drop d.firstInvalid) :=
        fun c hc => h.handedOut c (List.mem_of_mem_drop hc)
      exact hr.handedOut (h.reachable_stackBefore _) hslots c hc

theorem lines_ensureTokenized (d : Document) (p : TokensProvider) (upTo : Nat) :
    (d.ensureTokenized p upTo).1.lines = d.lines := rfl

theorem Coherent.ensure (h : Coherent p d) (upTo : Nat) :
    Coherent p (d.ensureTokenized p upTo).1 := by
  obtain ⟨r, hr, heq⟩ := ensureTokenized_eq h.fitted p upTo
  rw [heq]
  exact h.afterPass hr

/-- After a pass to the last line, the tokens of all lines are known. -/
theorem firstInvalid_ensure (h : Coherent p d) {upTo : Nat} (hup : d.lineCount ≤ upTo + 1) :
    (d.ensureTokenized p upTo).1.firstInvalid = d.lineCount := by
  have hreached := h.fitted.lt_firstInvalid_ensure p upTo
  have hle : _ ≤ d.lineCount := (h.fitted.ensure p upTo).firstInvalid_le
  omega

/-! ### Histories -/

theorem Coherent.apply (h : Coherent p d) {op : Operation} (hop : '\r' ∉ op.text) :
    Coherent p (op.apply p d) := by
  cases op with
  | edit e =>
    rw [Operation.apply, e.apply_eq_replace]
    exact h.replace e.start e.stop hop
  | setText text => exact coherent_ofText hop
  | invalidateAll => exact h.invalidateAll
  | ensure upTo => exact h.ensure upTo

/-- **A document stays coherent**, whatever is done with it. -/
theorem Coherent.run (h : Coherent p d) {ops : List Operation} (hops : NoReturns ops) :
    Coherent p (d.run p ops) := by
  induction ops generalizing d with
  | nil => exact h
  | cons op ops ih =>
    obtain ⟨hop, hrest⟩ := noReturns_cons.mp hops
    exact ih (h.apply hop) hrest

theorem coherent_run (p : TokensProvider) {text : List Char} {ops : List Operation}
    (htext : '\r' ∉ text) (hops : NoReturns ops) : Coherent p ((ofText text).run p ops) :=
  (coherent_ofText htext).run hops

/-! ### Linked lines -/

/-- What is known of a line follows from the stack that the line before it ends with. -/
def LinkedAt (p : TokensProvider) (d : Document) (i : Nat) : Prop :=
  Linked p (some p.initial) d.lines d.slots i

instance (p : TokensProvider) (d : Document) (i : Nat) : Decidable (LinkedAt p d i) :=
  inferInstanceAs (Decidable (Linked p (some p.initial) d.lines d.slots i))

/-- A line of which no tokens are known is linked. -/
theorem linkedAt_of_forall_stale {i : Nat}
    (h : ∀ c, d.slots[i]? = some (some c) → c.stale = true) : LinkedAt p d i := by
  intro l _
  cases hc : (d.slots[i]?).join with
  | none => trivial
  | some c => exact Or.inl (h c (Option.join_eq_some_iff.mp hc))

theorem linkedAt_of_lineCount_le {i : Nat} (hi : d.lineCount ≤ i) : LinkedAt p d i := by
  intro l hl
  rw [List.getElem?_eq_none (by rwa [length_lines])] at hl
  cases hl

/-- Lines are linked as before if their text, what is known of them, and the stack before them are
as before. -/
theorem linkedAt_congr {i j : Nat} (hline : d'.lines[i]? = d.lines[j]?)
    (hslot : d'.slots[i]? = d.slots[j]?)
    (hbefore : before? (some p.initial) d'.slots i = before? (some p.initial) d.slots j) :
    LinkedAt p d' i ↔ LinkedAt p d j := by
  rw [LinkedAt, LinkedAt, Linked, Linked, hline, hslot, hbefore]

/-- From the last line that an edit brings in on, lines are known to end as the lines did that they
were. -/
theorem Spliced.stackAt_shift {first last k : Nat} (h : Spliced d d' first last k)
    (hfits : d.slots.length = d.lineCount) (j : Nat) :
    stackAt d'.slots (first + k + j) = stackAt d.slots (last + j) := by
  cases j with
  | zero =>
    rw [Nat.add_zero, Nat.add_zero, stackAt, stackAt, h.slot_carried hfits]
    cases (d.slots[last]?).join <;> rfl
  | succ j =>
    rw [show first + k + (j + 1) = first + k + 1 + j by omega,
      show last + (j + 1) = last + 1 + j by omega, stackAt, stackAt, h.slot_after hfits]

/-- **Edits keep lines linked**: a line after an edit is linked if the line that it was is. -/
theorem Spliced.linkedAt {first last k : Nat} (h : Spliced d d' first last k)
    (hfits : d.slots.length = d.lineCount) {i : Nat} (hbefore : i < first → LinkedAt p d i)
    (hafter : ∀ j, i = first + k + 1 + j → LinkedAt p d (last + 1 + j)) : LinkedAt p d' i := by
  rcases Nat.lt_or_ge i first with hi | hi
  · refine (linkedAt_congr (h.line_before hi) (h.slot_before hfits hi) ?_).mpr (hbefore hi)
    exact before?_congr fun j hj => h.slot_before hfits (Nat.lt_trans hj hi)
  obtain ⟨n, rfl⟩ := Nat.exists_eq_add_of_le hi
  -- of the lines that the edit brings in only the stack at the end of the last one is known
  rcases Nat.lt_trichotomy n k with hn | rfl | hn
  · apply linkedAt_of_forall_stale
    intro c hc
    simp [h.slot_new hfits hn] at hc
  · apply linkedAt_of_forall_stale
    intro c hc
    rw [h.slot_carried hfits, Option.some.injEq, Option.map_eq_some_iff] at hc
    obtain ⟨old, _, rfl⟩ := hc
    rfl
  · obtain ⟨j, rfl⟩ := Nat.exists_eq_add_of_lt hn
    have hj : first + (k + j + 1) = first + k + 1 + j := by omega
    rw [hj]
    refine (linkedAt_congr (h.line_after j) (h.slot_after hfits j) ?_).mpr (hafter j hj)
    rw [show first + k + 1 + j = first + k + j + 1 by omega,
      show last + 1 + j = last + j + 1 by omega]
    exact h.stackAt_shift hfits j

/-- **Passes keep lines linked**: all lines are linked after a pass but the one at which it stops, if
all but the one at which it starts were. -/
theorem linkedAt_ensure (hp : p.Respectful) (h : Coherent p d)
    (hd : ∀ i, i ≠ d.firstInvalid → LinkedAt p d i) (upTo : Nat) :
    ∀ i, i ≠ (d.ensureTokenized p upTo).1.firstInvalid →
      LinkedAt p (d.ensureTokenized p upTo).1 i := by
  obtain ⟨r, hr, heq⟩ := ensureTokenized_eq h.fitted p upTo
  rw [heq]
  intro i hi
  -- before the first invalid line nothing changes, and from there on it is the pass that counts
  rcases Nat.lt_or_ge i d.firstInvalid with hlt | hge
  · have hline : (d.afterPass r).lines[i]? = d.lines[i]? := rfl
    have hslot : (d.afterPass r).slots[i]? = d.slots[i]? := slot_afterPass_of_lt h.fitted hlt
    refine (linkedAt_congr hline hslot ?_).mpr (hd i (Nat.ne_of_lt hlt))
    exact before?_congr fun j hj => slot_afterPass_of_lt h.fitted (Nat.lt_trans hj hlt)
  · obtain ⟨j, rfl⟩ := Nat.exists_eq_add_of_le hge
    have hslots : HandedOut p (d.slots.drop d.firstInvalid) :=
      fun c hc => h.handedOut c (List.mem_of_mem_drop hc)
    have hrest : ∀ j, j ≠ 0 →
        Linked p none (d.lines.drop d.firstInvalid) (d.slots.drop d.firstInvalid) j := by
      intro j hj
      have := (linked_drop d.firstInvalid j).mpr (hd (d.firstInvalid + j) (by omega))
      exact this.change_first hj none
    have hlinked := hr.linked hp (h.reachable_stackBefore _) hslots hrest (by simp) j
      (fun hj => hi (by rw [hj]; rfl))
    rw [LinkedAt, ← linked_drop, drop_slots_afterPass h.fitted]
    have hbefore : before? (some p.initial) (d.afterPass r).slots d.firstInvalid
        = some (d.stackBefore p d.firstInvalid) := by
      rw [← h.before?_firstInvalid]
      exact before?_congr fun j hj => slot_afterPass_of_lt h.fitted hj
    rw [hbefore]
    exact hlinked

end Document

end Tincture
