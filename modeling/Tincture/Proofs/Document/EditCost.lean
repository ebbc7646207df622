import Tincture.Proofs.Document.Retokenization

/-!
# What edits of a tokenized document cost

The tokens of all lines are known of a document after a pass to its end (`Full`). If they are right,
edits followed by one pass to the end leave them right, however many edits there were; and if they
are not, already the next pass leaves them wrong, since it does nothing (`right_after_edits_iff`).
They are right if all passes so far went to the end (`careful_of_wholePasses`), or no edit abandoned
a change in another way.

The pass after a single edit computes the lines from the first touched one up to the first line,
from the last one that came in on, that ends as the line did that it was (`exists_ensure_eq`).
-/

namespace Tincture.Document

open Text

variable {p : TokensProvider} {d d' : Document}

/-- The tokens of all lines are known. -/
def Full (d : Document) : Prop :=
  d.firstInvalid = d.lineCount

instance (d : Document) : Decidable (Full d) :=
  inferInstanceAs (Decidable (d.firstInvalid = d.lineCount))

/-- Edits and no passes. -/
def edits (es : List Edit) : List Operation :=
  es.map .edit

/-! ### Passes to the end -/

/-- All passes of a history go to the last line. -/
def WholePasses (p : TokensProvider) : Document → List Operation → Prop
  | _, [] => True
  | d, .ensure upTo :: ops =>
    d.lineCount ≤ upTo + 1 ∧ WholePasses p (d.ensureTokenized p upTo).1 ops
  | d, op :: ops => WholePasses p (op.apply p d) ops

instance decidableWholePasses (p : TokensProvider) :
    (d : Document) → (ops : List Operation) → Decidable (WholePasses p d ops)
  | _, [] => isTrue trivial
  | d, .ensure upTo :: ops =>
    have := decidableWholePasses p (d.ensureTokenized p upTo).1 ops
    inferInstanceAs (Decidable (d.lineCount ≤ upTo + 1 ∧ _))
  | d, .setText text :: ops => decidableWholePasses p (Operation.apply p d (.setText text)) ops
  | d, .invalidateAll :: ops => decidableWholePasses p (Operation.apply p d .invalidateAll) ops
  | d, .edit e :: ops => decidableWholePasses p (Operation.apply p d (.edit e)) ops

/-- No tokens are known of the first invalid line. -/
def Clear (d : Document) : Prop :=
  ∀ c, d.slots[d.firstInvalid]? = some (some c) → c.stale = true

theorem clear_of_lineCount_le (h : Coherent p d) (hf : d.lineCount ≤ d.firstInvalid) :
    Clear d := by
  intro c hc
  rw [List.getElem?_eq_none (by rw [h.fits]; exact hf)] at hc
  simp at hc

/-- Edits and passes to the end leave nothing known of the first invalid line. -/
theorem clear_replace (h : Coherent p d) (hd : Clear d) (start stop : Nat) {new : List Char}
    (hnew : '\r' ∉ new) : Clear (d.replace start stop new) := by
  have hs := spliced_replace d start stop h.noReturn hnew
  have hinvalid := hs.firstInvalid
  intro c hc
  rcases Nat.lt_or_ge d.firstInvalid (d.firstTouched start) with hlt | hge
  · rw [hinvalid, Nat.min_eq_left (Nat.le_of_lt hlt), hs.slot_before h.fits hlt] at hc
    exact hd c hc
  · rw [hinvalid, Nat.min_eq_right hge] at hc
    -- the first touched line is the last one too, with its old stack at most, or it is new
    rcases Nat.eq_zero_or_pos (breaks new) with hk | hk
    · have hcarried := hs.slot_carried h.fits
      rw [hk, Nat.add_zero, hc, Option.some.injEq, eq_comm, Option.map_eq_some_iff] at hcarried
      obtain ⟨old, _, rfl⟩ := hcarried
      rfl
    · have hslot := hs.slot_new h.fits hk
      rw [Nat.add_zero, hc] at hslot
      simp at hslot

/-- **Passes to the end abandon nothing.** -/
theorem careful_of_wholePasses (h : Coherent p d) (hd : Clear d) {ops : List Operation}
    (hops : NoReturns ops) (hwhole : WholePasses p d ops) : Careful p d ops := by
  induction ops generalizing d with
  | nil => trivial
  | cons op ops ih =>
    obtain ⟨hop, hrest⟩ := noReturns_cons.mp hops
    have happly := h.apply hop
    cases op with
    | edit e =>
      refine ⟨fun habandons => habandons.2 (linkedAt_of_forall_stale hd), ?_⟩
      refine ih happly ?_ hrest hwhole
      show Clear (e.apply d)
      rw [e.apply_eq_replace]
      exact clear_replace h hd e.start e.stop hop
    | setText text =>
      refine ih happly (fun c hc => ?_) hrest hwhole
      simp [Operation.apply, ofText, List.getElem?_replicate] at hc
    | invalidateAll =>
      refine ih happly (fun c hc => ?_) hrest hwhole
      simp [Operation.apply, invalidateAll, List.getElem?_replicate] at hc
    | ensure upTo =>
      refine ih happly (clear_of_lineCount_le happly ?_) hrest hwhole.2
      exact Nat.le_of_eq (firstInvalid_ensure h hwhole.1).symm

theorem clear_ofText (text : List Char) : Clear (ofText text) := by
  intro c hc
  simp [ofText, List.getElem?_replicate] at hc

/-! ### Edits and one pass -/

theorem linkedAt_of_full (hp : p.Respectful) (h : Coherent p d) (hfull : Full d)
    (hr : Right p d) (i : Nat) : LinkedAt p d i := by
  rcases Nat.lt_or_ge i d.firstInvalid with hi | hi
  · exact hr.linkedAt hp h hi
  · exact linkedAt_of_lineCount_le (by rw [← hfull]; exact hi)

/-- Edits of a document with linked lines leave all lines linked. -/
theorem linkedAt_edits (h : Coherent p d) (hd : ∀ i, LinkedAt p d i) {es : List Edit}
    (hes : ∀ e ∈ es, '\r' ∉ e.text) :
    Coherent p (d.run p (edits es)) ∧ ∀ i, LinkedAt p (d.run p (edits es)) i := by
  induction es generalizing d with
  | nil => exact ⟨h, hd⟩
  | cons e es ih =>
    have he : '\r' ∉ e.text := hes e List.mem_cons_self
    have hs := spliced_replace d e.start e.stop h.noReturn he
    have hlinked : ∀ i, LinkedAt p (e.apply d) i := by
      rw [e.apply_eq_replace]
      exact fun i => hs.linkedAt h.fits (fun _ => hd i) (fun j _ => hd _)
    have hop : '\r' ∉ (Operation.edit e).text := he
    exact ih (h.apply hop) hlinked fun e' he' => hes e' (List.mem_cons_of_mem _ he')

/-- A pass over a document of which all tokens are known does nothing. -/
theorem ensureTokenized_of_full (h : Coherent p d) (hfull : Full d) (upTo : Nat) :
    (d.ensureTokenized p upTo).1 = d := by
  obtain ⟨r, hr, heq⟩ := ensureTokenized_eq h.fitted p upTo
  have hslots : d.slots.drop d.firstInvalid = [] := by
    rw [List.drop_eq_nil_iff, h.fits]
    exact Nat.le_of_eq hfull.symm
  have hzero := hr.reached_le
  have hnil := hr.length_slots
  rw [hslots, List.length_nil] at hzero hnil
  rw [heq, afterPass, List.eq_nil_of_length_eq_zero hnil, List.append_nil,
    Nat.le_zero.mp hzero, List.take_of_length_le (by rw [h.fits]; exact Nat.le_of_eq hfull.symm)]
  rfl

/-- **Edits lose nothing**: after any edits and one pass to the end all tokens are right, exactly if
they were before. -/
theorem right_after_edits_iff (hp : p.Respectful) (h : Coherent p d) (hfull : Full d) :
    Right p d ↔ ∀ es : List Edit, (∀ e ∈ es, '\r' ∉ e.text) → ∀ upTo,
      (d.run p (edits es)).lineCount ≤ upTo + 1 →
      Full (d.run p (edits es ++ [.ensure upTo])) ∧
        Right p (d.run p (edits es ++ [.ensure upTo])) := by
  constructor
  · intro hr es hes upTo hup
    obtain ⟨hedits, hlinked⟩ := linkedAt_edits h (linkedAt_of_full hp h hfull hr) hes
    rw [run_append]
    refine ⟨firstInvalid_ensure hedits hup, right_of_linkedAt hp (hedits.ensure upTo) ?_⟩
    exact fun i hi => linkedAt_ensure hp hedits (fun i _ => hlinked i) upTo i (Nat.ne_of_lt hi)
  · -- with no edits at all the pass has nothing to do
    intro hall
    have hright := (hall [] (by simp) d.lineCount (Nat.le_succ _)).2
    have hpass : d.run p (edits [] ++ [.ensure d.lineCount]) = d :=
      ensureTokenized_of_full h hfull d.lineCount
    rwa [hpass] at hright

/-! ### The lines that one edit makes a pass compute -/

/-- Line `i` ends in `d'` as the line ended in `d` that it was before an edit that put `k` breaks in
the place of the lines from `first` to `last`. -/
def EndsAsBefore (d d' : Document) (first last k i : Nat) : Prop :=
  ∃ s t, d.endStack? (i - k - first + last) = some s ∧ d'.endStack? i = some t ∧ s.same t = true

theorem endStack?_of_lt {i : Nat} (hi : i < d.firstInvalid) : d.endStack? i = stackAt d.slots i := by
  rw [endStack?, cached?, if_pos hi, stackAt]

/-- **An edit costs the lines it must**: the pass after it computes the lines from the first touched
one up to the first line, from the last one that came in on, that ends as before, or all up to the
end. -/
theorem exists_ensure_eq (h : Coherent p d) (hfull : Full d) {e : Edit} (he : '\r' ∉ e.text)
    {upTo : Nat} (hup : (e.apply d).lineCount ≤ upTo + 1) :
    let first := d.firstTouched e.start
    let last := d.lastTouched e.start e.stop
    let k := breaks e.text
    let after := ((e.apply d).ensureTokenized p upTo).1
    ∃ m, first + k ≤ m ∧ m < after.lineCount ∧
      ((e.apply d).ensureTokenized p upTo).2 = m - first + 1 ∧
      (∀ i, first + k ≤ i → i < m → ¬ EndsAsBefore d after first last k i) ∧
      (m + 1 = after.lineCount ∨ EndsAsBefore d after first last k m) := by
  intro first last k after
  have hs : Spliced d (e.apply d) first last k := by
    rw [e.apply_eq_replace]
    exact spliced_replace d e.start e.stop h.noReturn he
  have hop : '\r' ∉ (Operation.edit e).text := he
  have hedit : Coherent p (e.apply d) := h.apply hop
  have hfirst : (e.apply d).firstInvalid = first := by
    have := hs.first_le
    have := hs.last_lt
    rw [hs.firstInvalid, hfull]
    omega
  have hcount := hs.lineCount
  have hlast := hs.last_lt
  have hle := hs.first_le
  have hfits := hedit.fits
  obtain ⟨r, hr, heq⟩ := ensureTokenized_eq hedit.fitted p upTo
  have hafter : after = (e.apply d).afterPass r := by
    show ((e.apply d).ensureTokenized p upTo).1 = _
    rw [heq]
  have hlines : after.lineCount = (e.apply d).lineCount := by rw [hafter]; rfl
  have hvalid : after.firstInvalid = (e.apply d).lineCount := firstInvalid_ensure hedit hup
  -- a line that the pass goes over ends as before if its slot says so
  have halike : ∀ i, k ≤ i → first + i < (e.apply d).lineCount →
      (PassRun.EndsAlike ((e.apply d).slots.drop first) r.slots i ↔
        EndsAsBefore d after first last k (first + i)) := by
    intro i hki hi
    obtain ⟨j, rfl⟩ := Nat.exists_eq_add_of_le hki
    have hold : stackAt ((e.apply d).slots.drop first) (k + j)
        = d.endStack? (first + (k + j) - k - first + last) := by
      rw [stackAt, List.getElem?_drop, ← Nat.add_assoc]
      refine (hs.stackAt_shift h.fits j).trans ?_
      rw [show first + k + j - k - first + last = last + j by omega]
      exact (endStack?_of_lt (by rw [hfull]; omega)).symm
    have hnew : stackAt r.slots (k + j) = after.endStack? (first + (k + j)) := by
      rw [endStack?_of_lt (by rw [hvalid]; exact hi), hafter, stackAt, stackAt, ← hfirst,
        slot_afterPass_add hedit.fitted]
    rw [PassRun.EndsAlike, EndsAsBefore, hold, hnew]
  rw [hfirst] at hr
  have hlen : ((e.apply d).slots.drop first).length = (e.apply d).lineCount - first := by
    rw [List.length_drop, hfits]
  -- nothing is known of the new lines but the last one, and everything behind it
  obtain ⟨m, hkm, hm, htokenized, hbefore, hat⟩ := hr.exists_tokenized_eq (k := k)
    (by rw [hlen]; omega) (by rw [hlen]; omega)
    (fun i hi => by rw [List.getElem?_drop]; exact hs.slot_new h.fits hi)
    (fun i hki hi => by
      obtain ⟨j, rfl⟩ := Nat.exists_eq_add_of_lt hki
      rw [hlen] at hi
      rw [List.getElem?_drop, show first + (k + j + 1) = first + k + 1 + j by omega,
        hs.slot_after h.fits]
      exact h.known _ (by rw [hfull]; omega))
  rw [hlen] at hm hat
  refine ⟨first + m, by omega, by omega, ?_, fun i hi him hends => ?_, ?_⟩
  · rw [heq]
    show r.tokenized = _
    omega
  · obtain ⟨j, rfl⟩ := Nat.exists_eq_add_of_le (Nat.le_trans (Nat.le_add_right first k) hi)
    exact hbefore j (by omega) (by omega) ((halike j (by omega) (by omega)).mpr hends)
  · rcases hat with hend | hends
    · exact Or.inl (by omega)
    · exact Or.inr ((halike m hkm (by omega)).mp hends)

/-! ### A fully tokenized document -/

/-- **What edits of a tokenized document cost.** Say a pass went to the end last. If all passes did, or
no edit abandoned a change in another way, then all tokens are right; if they are, then and only then
edits and one pass leave them right. The pass after a single edit computes the lines from the first
touched one up to the first line, from the last one that came in on, that ends as before. -/
theorem edit_cost (p : TokensProvider) (hp : p.Respectful) {text : List Char}
    {ops : List Operation} (htext : '\r' ∉ text) (hops : NoReturns ops)
    (hfull : Full ((ofText text).run p ops)) :
    let d := (ofText text).run p ops
    (WholePasses p (ofText text) ops ∨ Careful p (ofText text) ops → Right p d) ∧
    (Right p d ↔ ∀ es : List Edit, (∀ e ∈ es, '\r' ∉ e.text) → ∀ upTo,
      (d.run p (edits es)).lineCount ≤ upTo + 1 →
      Full (d.run p (edits es ++ [.ensure upTo])) ∧
        Right p (d.run p (edits es ++ [.ensure upTo]))) ∧
    ∀ e : Edit, '\r' ∉ e.text → ∀ upTo, (e.apply d).lineCount ≤ upTo + 1 →
      let first := d.firstTouched e.start
      let last := d.lastTouched e.start e.stop
      let k := breaks e.text
      let after := ((e.apply d).ensureTokenized p upTo).1
      ∃ m, first + k ≤ m ∧ m < after.lineCount ∧
        ((e.apply d).ensureTokenized p upTo).2 = m - first + 1 ∧
        (∀ i, first + k ≤ i → i < m → ¬ EndsAsBefore d after first last k i) ∧
        (m + 1 = after.lineCount ∨ EndsAsBefore d after first last k m) := by
  intro d
  have hfirst : Coherent p (ofText text) := coherent_ofText htext
  have h : Coherent p d := coherent_run p htext hops
  refine ⟨fun hhistory => ?_, right_after_edits_iff hp h hfull,
    fun e he upTo hup => exists_ensure_eq h hfull he hup⟩
  have hcareful : Careful p (ofText text) ops :=
    hhistory.elim (careful_of_wholePasses hfirst (clear_ofText text) hops) id
  exact right_run hp hfirst (fun i _ => linkedAt_ofText text i) hops hcareful

/-- Two passes to the end, and between them a brace is opened in the second of four lines. -/
def opened : List Operation :=
  [.ensure 3, .edit (.insert 3 ['\x7b']), .ensure 3]

/-- After `opened` all tokens are right, and so they are again after any edits and a pass. Closing the
brace then makes the pass compute all lines from the second one on. -/
theorem edit_cost_braces :
    WholePasses braces (ofText "a\nb\nc\nd".toList) opened ∧
    (let d := (ofText "a\nb\nc\nd".toList).run braces opened
    Full d ∧ Right braces d ∧
    (∀ es : List Edit, (∀ e ∈ es, '\r' ∉ e.text) → ∀ upTo,
      (d.run braces (edits es)).lineCount ≤ upTo + 1 →
      Right braces (d.run braces (edits es ++ [.ensure upTo]))) ∧
    ∃ m, 1 ≤ m ∧ m = 3 ∧
      (((Edit.insert 4 ['\x7d']).apply d).ensureTokenized braces 3).2 = m - 1 + 1) := by
  have hwhole : WholePasses braces (ofText "a\nb\nc\nd".toList) opened := by decide
  have hfull : Full ((ofText "a\nb\nc\nd".toList).run braces opened) := by decide
  obtain ⟨hright, hedits, hcost⟩ :=
    edit_cost braces respectful_braces (by decide) (by decide) hfull
  refine ⟨hwhole, hfull, hright (Or.inl hwhole), fun es hes upTo hup => ?_, ?_⟩
  · exact (hedits.mp (hright (Or.inl hwhole)) es hes upTo hup).2
  · obtain ⟨m, hfirst, _, hcount, _⟩ := hcost (.insert 4 ['\x7d']) (by decide) 3 (by decide)
    refine ⟨m, hfirst, ?_, hcount⟩
    have hthree : (((Edit.insert 4 ['\x7d']).apply ((ofText "a\nb\nc\nd".toList).run braces
        opened)).ensureTokenized braces 3).2 = 3 := by decide
    have htouched : ((ofText "a\nb\nc\nd".toList).run braces opened).firstTouched 4 = 1 := by
      decide
    rw [hthree] at hcount
    change 3 = m - ((ofText "a\nb\nc\nd".toList).run braces opened).firstTouched 4 + 1 at hcount
    rw [htouched] at hcount
    omega

/-- The change abandoned in `abandoning`, above one more line. -/
def settledAbove : List Operation :=
  [.ensure 3, .edit (.insert 3 ['\x7b']), .ensure 1, .edit (.insert 1 ['x']), .ensure 3]

/-- **A pass to the end is not enough**: after `settledAbove` all tokens are known, and an edit of the
last line and one more pass leave the third line with the tokens that it had before the brace. -/
theorem not_right_after_whole_pass : ¬ ∀ (p : TokensProvider) (text : List Char)
    (ops : List Operation), p.Respectful → '\r' ∉ text → NoReturns ops →
    Full ((ofText text).run p ops) → ∀ es : List Edit, (∀ e ∈ es, '\r' ∉ e.text) → ∀ upTo,
      ((ofText text).run p (ops ++ edits es)).lineCount ≤ upTo + 1 →
      Right p ((ofText text).run p (ops ++ edits es ++ [.ensure upTo])) := by
  intro hall
  have hright := hall braces "a\nb\nc\nd".toList settledAbove respectful_braces (by decide)
    (by decide) (by decide) [.insert 9 ['y']] (by decide) 3 (by decide)
  obtain ⟨out, hout, htokens, _⟩ := hright 2 (by decide)
  have hscratch : (braces.scratch? ((ofText "a\nb\nc\nd".toList).run braces
      (settledAbove ++ edits [.insert 9 ['y']] ++ [.ensure 3])).lines 2).map (·.tokens)
      = some [⟨0, "", none, ["block"]⟩] := by decide
  have hkept : ((ofText "a\nb\nc\nd".toList).run braces
      (settledAbove ++ edits [.insert 9 ['y']] ++ [.ensure 3])).tokens? 2
      = some [⟨0, "", none, []⟩] := by decide
  rw [hout] at hscratch
  rw [hkept] at htokens
  simp_all

end Tincture.Document
