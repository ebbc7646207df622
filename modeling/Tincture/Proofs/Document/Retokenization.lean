import Tincture.Proofs.Document.Right

/-!
# Right tokens through edits and passes

A pass that is told to stop early may stop in the middle of a change: the line after it has tokens
that follow from a stack which is no longer there. As long as this is the first invalid line, the
next pass starts with it. An edit further up moves the first invalid line away, and a pass that
settles above then keeps the tokens of the line where the change was left (`not_always_right`). Such
an edit *abandons* the change.

Main statement (`right_of_careful_iff`): the tokens of a document are right if no edit abandoned a
change, and any edit that abandons one can be followed by an edit that takes it back and a pass to
the end, after which they are wrong.
-/

namespace Tincture.Document

open Text

variable {p : TokensProvider} {d : Document}

/-! ### Careful histories -/

/-- The edit lies above the first invalid line, and what is known of that line does not follow from
the line before it. -/
def Abandons (p : TokensProvider) (d : Document) (e : Edit) : Prop :=
  d.lastTouched e.start e.stop < d.firstInvalid ∧ ¬ LinkedAt p d d.firstInvalid

/-- No edit abandons a change. -/
def Careful (p : TokensProvider) : Document → List Operation → Prop
  | _, [] => True
  | d, .edit e :: ops => ¬ Abandons p d e ∧ Careful p (e.apply d) ops
  | d, op :: ops => Careful p (op.apply p d) ops

instance (p : TokensProvider) (d : Document) (e : Edit) : Decidable (Abandons p d e) :=
  inferInstanceAs (Decidable (_ ∧ ¬ LinkedAt p d d.firstInvalid))

instance decidableCareful (p : TokensProvider) :
    (d : Document) → (ops : List Operation) → Decidable (Careful p d ops)
  | _, [] => isTrue trivial
  | d, .edit e :: ops =>
    have := decidableCareful p (e.apply d) ops
    inferInstanceAs (Decidable (¬ Abandons p d e ∧ Careful p (e.apply d) ops))
  | d, .setText text :: ops => decidableCareful p (Operation.apply p d (.setText text)) ops
  | d, .invalidateAll :: ops => decidableCareful p (Operation.apply p d .invalidateAll) ops
  | d, .ensure upTo :: ops => decidableCareful p (Operation.apply p d (.ensure upTo)) ops

theorem Careful.tail {op : Operation} {ops : List Operation} (h : Careful p d (op :: ops)) :
    Careful p (op.apply p d) ops := by
  cases op with
  | edit => exact h.2
  | setText => exact h
  | invalidateAll => exact h
  | ensure => exact h

/-- **One operation** leaves all lines linked but the first invalid one, if it does not abandon a
change. -/
theorem linkedAt_apply (hp : p.Respectful) (h : Coherent p d)
    (hd : ∀ i, i ≠ d.firstInvalid → LinkedAt p d i) {op : Operation} (hop : '\r' ∉ op.text)
    (hcareful : ∀ e, op = .edit e → ¬ Abandons p d e) :
    ∀ i, i ≠ (op.apply p d).firstInvalid → LinkedAt p (op.apply p d) i := by
  cases op with
  | edit e =>
    have hs : Spliced d (d.replace e.start e.stop e.text) _ _ _ :=
      spliced_replace d e.start e.stop h.noReturn hop
    have hkeep : ¬ Abandons p d e := hcareful e rfl
    rw [Operation.apply, e.apply_eq_replace]
    intro i hi
    refine hs.linkedAt h.fits (fun hlt => hd i ?_) (fun j hj => ?_)
    · have := hs.firstInvalid
      omega
    · by_cases hf : d.lastTouched e.start e.stop + 1 + j = d.firstInvalid
      · -- a line that is not linked here is a change that the edit abandons
        rw [hf]
        by_contra hbroken
        exact hkeep ⟨by omega, hbroken⟩
      · exact hd _ hf
  | setText text =>
    intro i _
    apply linkedAt_of_forall_stale
    intro c hc
    simp [Operation.apply, ofText, List.getElem?_replicate] at hc
  | invalidateAll =>
    intro i _
    apply linkedAt_of_forall_stale
    intro c hc
    simp [Operation.apply, invalidateAll, List.getElem?_replicate] at hc
  | ensure upTo => exact linkedAt_ensure hp h hd upTo

/-- **A careful history** leaves all lines linked but the first invalid one. -/
theorem linkedAt_run (hp : p.Respectful) (h : Coherent p d)
    (hd : ∀ i, i ≠ d.firstInvalid → LinkedAt p d i) {ops : List Operation} (hops : NoReturns ops)
    (hcareful : Careful p d ops) :
    ∀ i, i ≠ (d.run p ops).firstInvalid → LinkedAt p (d.run p ops) i := by
  induction ops generalizing d with
  | nil => exact hd
  | cons op ops ih =>
    obtain ⟨hop, hrest⟩ := noReturns_cons.mp hops
    refine ih (h.apply hop) (linkedAt_apply hp h hd hop ?_) hrest hcareful.tail
    rintro e rfl
    exact hcareful.1

theorem linkedAt_ofText (text : List Char) (i : Nat) : LinkedAt p (ofText text) i := by
  apply linkedAt_of_forall_stale
  intro c hc
  simp [ofText, List.getElem?_replicate] at hc

/-- After a careful history the tokens are right. -/
theorem right_run (hp : p.Respectful) (h : Coherent p d)
    (hd : ∀ i, i ≠ d.firstInvalid → LinkedAt p d i) {ops : List Operation} (hops : NoReturns ops)
    (hcareful : Careful p d ops) : Right p (d.run p ops) :=
  right_of_linkedAt hp (h.run hops) fun i hi =>
    linkedAt_run hp h hd hops hcareful i (Nat.ne_of_lt hi)

/-! ### Abandoned changes -/

/-- The edit that takes an edit back. -/
def undo (d : Document) (start stop : Nat) (new : List Char) : Edit :=
  .replace (d.editStart start) (d.editStart start + new.length) (d.removed start stop)

section Undo

variable (d : Document) (start stop : Nat) (new : List Char)

theorem editStart_undo :
    (d.replace start stop new).editStart (d.editStart start) = d.editStart start := by
  have hlen := d.length_take_editStart start
  rw [editStart, text_replace, List.append_assoc, List.length_append, hlen]
  exact Nat.min_eq_left (Nat.le_add_right _ _)

theorem editStop_undo : (d.replace start stop new).editStop (d.editStart start)
    (d.editStart start + new.length) = d.editStart start + new.length := by
  have hlen := d.length_take_editStart start
  rw [editStop, editStart_undo, text_replace, List.length_append, List.length_append, hlen,
    Nat.min_eq_left (Nat.le_add_right _ _)]
  exact Nat.max_eq_right (Nat.le_add_right _ _)

theorem take_editStart_undo :
    (d.replace start stop new).text.take (d.editStart start) = d.text.take (d.editStart start) := by
  rw [text_replace, List.append_assoc]
  exact List.take_left' (d.length_take_editStart start)

theorem length_editStop_undo : (d.text.take (d.editStart start) ++ new).length
    = d.editStart start + new.length := by
  rw [List.length_append, d.length_take_editStart]

/-- Taking an edit back leads to the old text. -/
theorem text_undo : ((d.undo start stop new).apply (d.replace start stop new)).text = d.text := by
  show (d.replace start stop new).text.take ((d.replace start stop new).editStart _)
    ++ d.removed start stop ++ (d.replace start stop new).text.drop
      ((d.replace start stop new).editStop _ _) = d.text
  rw [editStart_undo, editStop_undo, take_editStart_undo, text_replace,
    List.drop_left' (d.length_editStop_undo start new)]
  exact (d.text_eq_append start stop).symm

variable {d new} (hd : '\r' ∉ d.text) (hnew : '\r' ∉ new)
include hd hnew

/-- The lines that an edit brings in are the ones that taking it back touches. -/
theorem touched_undo :
    (d.replace start stop new).firstTouched (d.editStart start) = d.firstTouched start ∧
    (d.replace start stop new).lastTouched (d.editStart start) (d.editStart start + new.length)
      = d.firstTouched start + breaks new := by
  have hafter := not_mem_text_replace start stop hd hnew
  have hfirst : (d.replace start stop new).firstTouched (d.editStart start)
      = d.firstTouched start := by
    rw [firstTouched_eq _ hafter, editStart_undo, take_editStart_undo, firstTouched_eq start hd]
  refine ⟨hfirst, ?_⟩
  rw [lastTouched_eq _ _ hafter, hfirst, removed, editStart_undo, editStop_undo, text_replace,
    List.take_left' (d.length_editStop_undo start new),
    List.drop_left' (d.length_take_editStart start)]

end Undo

/-- `d'` has the lines of `d`. Nothing is known of the lines from `first` to `last` but the stack that
the last one ends with, and of the other lines what is known in `d`. -/
structure Reopened (d d' : Document) (first last : Nat) : Prop where
  first_le : first ≤ last
  lines : d'.lines = d.lines
  firstInvalid : d'.firstInvalid = first
  slot_before : ∀ i < first, d'.slots[i]? = d.slots[i]?
  slot_between : ∀ i, first ≤ i → i < last → d'.slots[i]? = some none
  slot_last : d'.slots[last]? = some ((d.slots[last]?).join.map (·.carried.carried))
  slot_after : ∀ i, last < i → d'.slots[i]? = d.slots[i]?

/-- **What an edit leaves behind when it is taken back.** -/
theorem reopened_undo (h : Coherent p d) {start stop : Nat} {new : List Char} (hnew : '\r' ∉ new)
    (hvalid : d.lastTouched start stop < d.firstInvalid) :
    Reopened d ((d.undo start stop new).apply (d.replace start stop new)) (d.firstTouched start)
      (d.lastTouched start stop) := by
  obtain ⟨hfirst, hlast⟩ := touched_undo start stop h.noReturn hnew
  have hremoved := not_mem_removed start stop h.noReturn
  have hlastEq := lastTouched_eq start stop h.noReturn
  have hs := spliced_replace d start stop h.noReturn hnew
  have h₁ : Coherent p (d.replace start stop new) := h.replace start stop hnew
  -- the second edit splices the lines that the first one brought in
  have hs' := spliced_replace (d.replace start stop new) (d.editStart start)
    (d.editStart start + new.length) h₁.noReturn hremoved
  rw [hfirst, hlast] at hs'
  have hfits := hs.slots_fit h.fits
  refine ⟨hs.first_le, ?_, ?_, fun i hi => ?_, fun i hi hlt => ?_, ?_, fun i hi => ?_⟩
  · rw [Document.lines, text_undo]
    rfl
  · refine hs'.firstInvalid.trans ?_
    rw [hs.firstInvalid]
    omega
  · exact (hs'.slot_before hfits hi).trans (hs.slot_before h.fits hi)
  · obtain ⟨j, rfl⟩ := Nat.exists_eq_add_of_le hi
    exact hs'.slot_new hfits (by omega)
  · have hcarried := hs'.slot_carried hfits
    rw [hs.slot_carried h.fits, ← hlastEq] at hcarried
    refine hcarried.trans ?_
    cases (d.slots[d.lastTouched start stop]?).join <;> rfl
  · obtain ⟨j, rfl⟩ := Nat.exists_eq_add_of_le hi
    have hj := hs'.slot_after hfits j
    rw [hs.slot_after h.fits, ← hlastEq] at hj
    exact hj

/-- The stack that a pass from a line on goes through is the one from scratch, if the tokens before
that line are right. -/
theorem Right.stackAfter_same (hp : p.Respectful) (h : Coherent p d) (hr : Right p d) {i n : Nat}
    (hi : i ≤ d.firstInvalid) {s : RuleStack}
    (hs : before? (some p.initial) d.slots i = some s) :
    (p.stackAfter s ((d.lines.drop i).take n)).same
      (p.stackAfter p.initial (d.lines.take (i + n))) = true := by
  obtain ⟨t, ht, hreach, hsame⟩ := hr.stack_before h hi
  obtain rfl : s = t := by simpa [hs] using ht
  rw [List.take_add, TokensProvider.stackAfter_append]
  exact TokensProvider.stackAfter_same hp hreach (TokensProvider.reachable_scratch d.lines i) hsame _

/-- A pass to the end of a reopened document ends the last open line as before, and so it keeps the
tokens that are known after it, right or not. -/
theorem Reopened.kept_by_pass {d' : Document} {first last : Nat} (hd : Reopened d d' first last)
    (hp : p.Respectful) (h : Coherent p d) (h' : Coherent p d') (hr : Right p d)
    (hvalid : last < d.firstInvalid) {b : CachedLine}
    (hb : d.slots[d.firstInvalid]? = some (some b)) (hfresh : b.stale = false) {upTo : Nat}
    (hup : d.lineCount ≤ upTo + 1) :
    d.firstInvalid < (d'.ensureTokenized p upTo).1.firstInvalid ∧
      (d'.ensureTokenized p upTo).1.slots[d.firstInvalid]? = some (some b) := by
  have hcount : d'.lineCount = d.lineCount := by rw [← length_lines, hd.lines, length_lines]
  obtain ⟨n, rfl⟩ := Nat.exists_eq_add_of_le hd.first_le
  obtain ⟨q, hq⟩ := Nat.exists_eq_add_of_le hvalid
  obtain ⟨c, hc, _⟩ := h.known (first + n) hvalid
  have hknown : ∀ i < q + 1, ∃ c, (d'.slots.drop first)[n + 1 + i]? = some (some c) ∧
      c.stale = false := by
    intro i hi
    rw [List.getElem?_drop, hd.slot_after _ (by omega)]
    rcases Nat.lt_or_eq_of_le (Nat.le_of_lt_succ hi) with hi | rfl
    · exact h.known _ (by omega)
    · rw [show first + (n + 1 + i) = d.firstInvalid by omega]
      exact ⟨b, hb, hfresh⟩
  have hstack : before? (some p.initial) d.slots first = some (d'.stackBefore p first) := by
    have hbefore := h'.before?_firstInvalid
    rw [hd.firstInvalid] at hbefore
    rw [← hbefore]
    exact (before?_congr hd.slot_before).symm
  -- both the old stack and the new one are the stack from scratch
  have hsame : c.carried.carried.stack.same
      (p.stackAfter (d'.stackBefore p first) ((d.lines.drop first).take (n + 1))) = true := by
    obtain ⟨s, hs, _, hscratch⟩ := hr.stack_before h hvalid
    obtain rfl : c.stack = s := by simpa [before?, stackAt, hc] using hs
    have hpass := hr.stackAfter_same hp h (n := n + 1) (by omega) hstack
    exact RuleStack.same_trans hscratch (RuleStack.same_symm hpass)
  -- so the pass finds that line to end as before, and keeps what is known behind it
  obtain ⟨r, hrun, heq⟩ := ensureTokenized_eq h'.fitted p upTo
  rw [heq]
  rw [hd.firstInvalid, hd.lines] at hrun
  have hfits := h'.fits
  obtain ⟨hreach, hkeep⟩ := hrun.kept_of_endsAlike (by rw [List.length_drop]; omega)
    (fun i hi => by rw [List.getElem?_drop]; exact hd.slot_between _ (by omega) (by omega))
    (by rw [List.getElem?_drop, hd.slot_last, hc]; rfl) hsame hknown
  constructor
  · show d.firstInvalid < d'.firstInvalid + r.reached
    rw [hd.firstInvalid]
    omega
  · have hplace : d.firstInvalid = d'.firstInvalid + (n + 1 + q) := by
      rw [hd.firstInvalid]
      omega
    rw [hplace, slot_afterPass_add h'.fitted, hkeep q (Nat.lt_succ_self q), List.getElem?_drop,
      hd.slot_after _ (by omega), ← hd.firstInvalid, ← hplace]
    exact hb

/-- **An abandoned change stays**: once the edit is taken back, a pass to the end keeps the tokens
that do not follow. -/
theorem not_right_of_abandons (hp : p.Respectful) (h : Coherent p d) (hr : Right p d) {e : Edit}
    (he : '\r' ∉ e.text) (habandons : Abandons p d e) {upTo : Nat} (hup : d.lineCount ≤ upTo + 1) :
    ¬ Right p ((e.apply d).run p [.edit (d.undo e.start e.stop e.text), .ensure upTo]) := by
  obtain ⟨hvalid, hbroken⟩ := habandons
  rw [e.apply_eq_replace]
  have hd := reopened_undo h he hvalid
  have h' : Coherent p ((d.undo e.start e.stop e.text).apply (d.replace e.start e.stop e.text)) :=
    (h.replace e.start e.stop he).replace _ _ (not_mem_removed e.start e.stop h.noReturn)
  -- the first invalid line has tokens, or it would be linked
  obtain ⟨b, hb, hfresh⟩ : ∃ c, d.slots[d.firstInvalid]? = some (some c) ∧ c.stale = false := by
    by_contra hno
    refine hbroken (linkedAt_of_forall_stale fun c hc => ?_)
    by_contra hstale
    exact hno ⟨c, hc, by simpa using hstale⟩
  obtain ⟨hinvalid, hslot⟩ := hd.kept_by_pass hp h h' hr hvalid hb hfresh hup
  intro hright
  obtain ⟨b', out, hb', hout, hbout⟩ := (right_iff_slots (h'.ensure upTo)).mp hright _ hinvalid
  obtain rfl : b = b' := by simpa [hslot] using hb'
  obtain ⟨s, hs, hreach, hscratch⟩ := hr.stack_before h (Nat.le_refl _)
  rw [lines_ensureTokenized, hd.lines] at hout
  exact hbroken (linkedAt_of_same_scratch hp hs hreach hscratch hb hout hbout)

/-! ### When tokens are right -/

theorem noReturns_undo (h : Coherent p d) (e : Edit) (upTo : Nat) :
    NoReturns [.edit (d.undo e.start e.stop e.text), .ensure upTo] := by
  intro op hop
  rcases List.mem_pair.mp hop with rfl | rfl
  · exact not_mem_removed e.start e.stop h.noReturn
  · exact List.not_mem_nil

/-- Taking an edit back at once abandons nothing. -/
theorem careful_undo (h : Coherent p d) {e : Edit} (he : '\r' ∉ e.text) (upTo : Nat) :
    Careful p (e.apply d) [.edit (d.undo e.start e.stop e.text), .ensure upTo] := by
  refine ⟨?_, trivial⟩
  rintro ⟨hlast, _⟩
  have hs := spliced_replace d e.start e.stop h.noReturn he
  rw [e.apply_eq_replace, hs.firstInvalid] at hlast
  obtain ⟨_, htouched⟩ := touched_undo e.start e.stop h.noReturn he
  have : (d.replace e.start e.stop e.text).lastTouched (d.editStart e.start)
      (d.editStart e.start + e.text.length) < min d.firstInvalid (d.firstTouched e.start) := hlast
  omega

/-- **When incremental tokens are right.** After a history in which no edit abandons a change, every
line before the first invalid one has the tokens and the stack that a pass from scratch gives it. This
goes on whatever is done after one more edit, as long as nothing is abandoned, exactly if that edit
does not abandon a change itself. -/
theorem right_of_careful_iff (p : TokensProvider) (hp : p.Respectful) {text : List Char}
    {ops : List Operation} (htext : '\r' ∉ text) (hops : NoReturns ops)
    (hcareful : Careful p (ofText text) ops) :
    Right p ((ofText text).run p ops) ∧
    ∀ e : Edit, '\r' ∉ e.text → (¬ Abandons p ((ofText text).run p ops) e ↔
      ∀ later, NoReturns later → Careful p (e.apply ((ofText text).run p ops)) later →
        Right p ((e.apply ((ofText text).run p ops)).run p later)) := by
  have hfirst : Coherent p (ofText text) := coherent_ofText htext
  have hlinked := linkedAt_run hp hfirst (fun i _ => linkedAt_ofText text i) hops hcareful
  have hright := right_run hp hfirst (fun i _ => linkedAt_ofText text i) hops hcareful
  have h := coherent_run p htext hops
  generalize (ofText text).run p ops = d at *
  refine ⟨hright, fun e he => ⟨fun hkeep later hlater hcarefulLater => ?_, fun hall habandons => ?_⟩⟩
  · have hop : '\r' ∉ (Operation.edit e).text := he
    have hedit := linkedAt_apply hp h hlinked hop (by rintro _ ⟨⟩; exact hkeep)
    exact right_run hp (h.apply hop) hedit hlater hcarefulLater
  · refine not_right_of_abandons hp h hright he habandons (Nat.le_succ d.lineCount) ?_
    exact hall _ (noReturns_undo h e d.lineCount) (careful_undo h he d.lineCount)

/-! ### Counting braces -/

/-- A provider that counts braces: the stack is as deep as there are open ones, and a line has one
token with as many scopes as were open before it. -/
def braces : TokensProvider where
  tokenize line stack :=
    ⟨[⟨0, "", none, List.replicate stack.depth "block"⟩],
      List.replicate (stack.depth + line.count '\x7b' - line.count '\x7d')
        { rule := 0, nameScopes := [], contentScopes := [] }⟩

theorem respectful_braces : braces.Respectful := by
  intro l s t _ _ hst
  have heq : braces.tokenize l s = braces.tokenize l t := by
    simp only [braces, RuleStack.depth_eq_of_same hst]
  rw [heq]
  exact ProviderTokens.Same.refl _

/-- A brace is opened in the second of three lines, a pass stops right after it, and before the next
pass a character is put into the first line. -/
def abandoning : List Operation :=
  [.ensure 2, .edit (.insert 3 ['\x7b']), .ensure 1, .edit (.insert 1 ['x']), .ensure 2]

/-- **Tokens are not always right**: after `abandoning`, the third line has the tokens that it had
before the brace was opened. -/
theorem not_always_right : ¬ ∀ (p : TokensProvider) (text : List Char) (ops : List Operation),
    p.Respectful → '\r' ∉ text → NoReturns ops → Right p ((ofText text).run p ops) := by
  intro hall
  have hright := hall braces "a\nb\nc".toList abandoning respectful_braces (by decide) (by decide)
  obtain ⟨out, hout, htokens, _⟩ := hright 2 (by decide)
  have hscratch : (braces.scratch? ((ofText "a\nb\nc".toList).run braces abandoning).lines 2).map
      (·.tokens) = some [⟨0, "", none, ["block"]⟩] := by decide
  have hkept : ((ofText "a\nb\nc".toList).run braces abandoning).tokens? 2
      = some [⟨0, "", none, []⟩] := by decide
  rw [hout] at hscratch
  rw [hkept] at htokens
  simp_all

/-- The same brace, and the pass that stops after it. -/
def stopped : List Operation :=
  [.ensure 2, .edit (.insert 3 ['\x7b']), .ensure 1]

/-- What stopped there is right so far, and stays so when the third line is edited next, but not when
the first one is. -/
theorem right_of_careful_iff_braces :
    Careful braces (ofText "a\nb\nc".toList) stopped ∧
    Right braces ((ofText "a\nb\nc".toList).run braces stopped) ∧
    (∀ later, NoReturns later →
      Careful braces ((ofText "a\nb\nc".toList).run braces (stopped ++ [.edit (.insert 5 ['y'])]))
        later →
      Right braces (((ofText "a\nb\nc".toList).run braces
        (stopped ++ [.edit (.insert 5 ['y'])])).run braces later)) ∧
    ¬ ∀ later, NoReturns later →
      Careful braces ((ofText "a\nb\nc".toList).run braces (stopped ++ [.edit (.insert 1 ['x'])]))
        later →
      Right braces (((ofText "a\nb\nc".toList).run braces
        (stopped ++ [.edit (.insert 1 ['x'])])).run braces later) := by
  have hcareful : Careful braces (ofText "a\nb\nc".toList) stopped := by decide
  have h := right_of_careful_iff braces respectful_braces (by decide) (by decide) hcareful
  have hkeep : ¬ Abandons braces ((ofText "a\nb\nc".toList).run braces stopped)
      (.insert 5 ['y']) := by decide
  have habandons : Abandons braces ((ofText "a\nb\nc".toList).run braces stopped)
      (.insert 1 ['x']) := by decide
  refine ⟨hcareful, h.1, (h.2 (.insert 5 ['y']) (by decide)).mp hkeep, fun hall => ?_⟩
  exact (h.2 (.insert 1 ['x']) (by decide)).mpr hall habandons

end Tincture.Document
