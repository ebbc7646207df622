import Tincture.Proofs.Document.History

/-!
# Right tokens

The tokens of a document are `Right` if every line before the first invalid one has the tokens and
the stack that it gets when all lines are tokenized from the first on. In a coherent document this
is the same as each of these lines being linked (`Right.linkedAt`, `right_of_linkedAt`).
-/

namespace Tincture

/-! ### Stacks after many lines -/

namespace TokensProvider

variable {p : TokensProvider}

/-- Stacks that count as the same still do so after any lines. -/
theorem stackAfter_same (hp : p.Respectful) {s t : RuleStack} (hs : p.Reachable s)
    (ht : p.Reachable t) (hst : s.same t = true) (ls : List (List Char)) :
    (p.stackAfter s ls).same (p.stackAfter t ls) = true := by
  induction ls generalizing s t with
  | nil => exact hst
  | cons l ls ih => exact ih (hs.line l) (ht.line l) (hp l s t hs ht hst).2

theorem reachable_scratch (lines : List (List Char)) (i : Nat) :
    p.Reachable (p.stackAfter p.initial (lines.take i)) :=
  reachable_stackAfter .initial _

end TokensProvider

namespace Document

variable {p : TokensProvider} {d : Document}

/-! ### Right tokens -/

/-- Every line before the first invalid one has the tokens and the stack that it gets from
scratch. -/
def Right (p : TokensProvider) (d : Document) : Prop :=
  ∀ i < d.firstInvalid, ∃ out, p.scratch? d.lines i = some out ∧
    d.tokens? i = some out.tokens ∧
    ∃ s, d.endStack? i = some s ∧ s.same out.stack = true

/-- What is known of a line agrees with what it gets from scratch. -/
theorem right_iff_slots (h : Coherent p d) : Right p d ↔ ∀ i < d.firstInvalid, ∃ c out,
    d.slots[i]? = some (some c) ∧ p.scratch? d.lines i = some out ∧ c.output.Same out := by
  refine forall_congr' fun i => forall_congr' fun hi => ?_
  obtain ⟨c, hc, _⟩ := h.known i hi
  have hcached : d.cached? i = some c := by rw [cached?, if_pos hi, hc]; rfl
  simp only [tokens?, endStack?, hcached, hc, Option.map_some, Option.some.injEq]
  constructor
  · rintro ⟨out, hout, htokens, s, rfl, hs⟩
    exact ⟨c, out, rfl, hout, htokens, hs⟩
  · rintro ⟨_, out, rfl, hout, htokens, hs⟩
    exact ⟨out, hout, htokens, _, rfl, hs⟩

theorem scratch?_eq_some {i : Nat} {l : List Char} (hl : d.lines[i]? = some l) :
    p.scratch? d.lines i = some (p.tokenize l (p.stackAfter p.initial (d.lines.take i))) := by
  rw [TokensProvider.scratch?, hl]
  rfl

/-- The stack that is known before a line is the one from scratch, if that holds of the end of the
line before. -/
theorem before?_succ {i : Nat} {c : CachedLine} {out : ProviderTokens} (h : Coherent p d)
    (hc : d.slots[i]? = some (some c)) (hout : p.scratch? d.lines i = some out)
    (hsame : c.output.Same out) : ∃ s, before? (some p.initial) d.slots (i + 1) = some s ∧
      p.Reachable s ∧ s.same (p.stackAfter p.initial (d.lines.take (i + 1))) = true := by
  obtain ⟨l, hl, rfl⟩ := Option.map_eq_some_iff.mp hout
  refine ⟨c.stack, by simp [before?, stackAt, hc], h.handedOut c (List.mem_of_getElem? hc), ?_⟩
  rw [TokensProvider.stackAfter_take_succ hl]
  exact hsame.2

/-- The stack before a line up to the first invalid one, in a document with right tokens. -/
theorem Right.stack_before (h : Coherent p d) (hr : Right p d) {i : Nat} (hi : i ≤ d.firstInvalid) :
    ∃ s, before? (some p.initial) d.slots i = some s ∧ p.Reachable s ∧
      s.same (p.stackAfter p.initial (d.lines.take i)) = true := by
  cases i with
  | zero => exact ⟨p.initial, rfl, .initial, RuleStack.same_refl _⟩
  | succ i =>
    obtain ⟨c, out, hc, hout, hsame⟩ := (right_iff_slots h).mp hr i hi
    exact before?_succ h hc hout hsame

/-- A line that has its tokens from scratch is linked, if the stack before it is the one from
scratch. -/
theorem linkedAt_of_same_scratch (hp : p.Respectful) {i : Nat} {s : RuleStack} {c : CachedLine}
    {out : ProviderTokens} (hs : before? (some p.initial) d.slots i = some s)
    (hreach : p.Reachable s) (hsame : s.same (p.stackAfter p.initial (d.lines.take i)) = true)
    (hc : d.slots[i]? = some (some c)) (hout : p.scratch? d.lines i = some out)
    (hcout : c.output.Same out) : LinkedAt p d i := by
  intro l hl
  rw [hs, hc]
  rw [scratch?_eq_some hl, Option.some.injEq] at hout
  subst hout
  have hstack := hp l s _ hreach (TokensProvider.reachable_scratch d.lines i) hsame
  exact Or.inr (hcout.trans hstack.symm)

/-- Right tokens follow from each other. -/
theorem Right.linkedAt (hp : p.Respectful) (h : Coherent p d) (hr : Right p d) {i : Nat}
    (hi : i < d.firstInvalid) : LinkedAt p d i := by
  obtain ⟨s, hs, hreach, hsame⟩ := hr.stack_before h (Nat.le_of_lt hi)
  obtain ⟨c, out, hc, hout, hcout⟩ := (right_iff_slots h).mp hr i hi
  exact linkedAt_of_same_scratch hp hs hreach hsame hc hout hcout

/-- A linked line has its tokens from scratch, if the stack before it is the one from scratch. -/
theorem LinkedAt.same_scratch (hp : p.Respectful) (h : Coherent p d) {i : Nat}
    (hi : i < d.firstInvalid) {s : RuleStack}
    (hs : before? (some p.initial) d.slots i = some s) (hreach : p.Reachable s)
    (hsame : s.same (p.stackAfter p.initial (d.lines.take i)) = true) (hlinked : LinkedAt p d i) :
    ∃ c out, d.slots[i]? = some (some c) ∧ p.scratch? d.lines i = some out ∧
      c.output.Same out := by
  obtain ⟨l, hl⟩ : ∃ l, d.lines[i]? = some l := by
    have := h.firstInvalid_le
    exact ⟨_, List.getElem?_eq_getElem (by rw [length_lines]; omega)⟩
  obtain ⟨c, hc, hstale⟩ := h.known i hi
  have hfollows := hlinked l hl
  rw [hs, hc] at hfollows
  refine ⟨c, _, hc, scratch?_eq_some hl, ?_⟩
  rcases hfollows with htrue | hcs
  -- the tokens are known, so they are not stale
  · simp [hstale] at htrue
  · exact hcs.trans (hp l s _ hreach (TokensProvider.reachable_scratch d.lines i) hsame)

/-- **Linked lines have right tokens.** The induction goes from line to line: the stack before a
line counts as the same as the one from scratch. -/
theorem right_of_linkedAt (hp : p.Respectful) (h : Coherent p d)
    (hd : ∀ i < d.firstInvalid, LinkedAt p d i) : Right p d := by
  refine (right_iff_slots h).mpr fun i => ?_
  induction i with
  | zero =>
    intro hi
    exact (hd 0 hi).same_scratch hp h hi rfl .initial (RuleStack.same_refl _)
  | succ i ih =>
    intro hi
    obtain ⟨b, out, hb, hout, hbout⟩ := ih (Nat.lt_of_succ_lt hi)
    obtain ⟨s, hs, hreach, hsame⟩ := before?_succ h hb hout hbout
    exact (hd (i + 1) hi).same_scratch hp h hi hs hreach hsame

end Document

end Tincture
