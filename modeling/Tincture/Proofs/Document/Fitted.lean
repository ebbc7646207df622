import Mathlib.Data.List.Basic
import Tincture.Proofs.Document.Edit
import Tincture.Proofs.Document.Pass

/-!
# Slots and lines

A document has one slot for each line, and of all lines before the first invalid one the tokens are
known (`Fitted`). This holds of every text, also where an edit makes one break of a carriage return
and a line feed or parts them: the lines outside of those that an edit touches are never fewer than
before but for one, so that the number of slots that come in is computed without loss
(`lineCount_le_replace`). It is 0 if an edit takes out a line and the text around it grows together
to one break.

No provider has a part in this; `Reachable` documents are those that any calls lead to, with any
providers (`fitted_of_reachable`).
-/

namespace Tincture.Document

open Text

variable {p : TokensProvider} {d : Document}

/-- There is a slot for each line, and the tokens of all lines before the first invalid one are
known. -/
structure Fitted (d : Document) : Prop where
  fits : d.slots.length = d.lineCount
  known : ∀ i < d.firstInvalid, ∃ c, d.slots[i]? = some (some c) ∧ c.stale = false

namespace Fitted

theorem firstInvalid_le (h : Fitted d) : d.firstInvalid ≤ d.lineCount := by
  by_contra hlt
  obtain ⟨c, hc, _⟩ := h.known d.lineCount (by omega)
  rw [← h.fits, List.getElem?_eq_none (Nat.le_refl _)] at hc
  simp at hc

theorem ofText (text : List Char) : Fitted (ofText text) where
  fits := List.length_replicate
  known := fun i hi => absurd hi i.not_lt_zero

theorem invalidateAll (h : Fitted d) : Fitted d.invalidateAll where
  fits := by
    rw [Document.invalidateAll, List.length_map]
    exact h.fits
  known := fun i hi => absurd hi i.not_lt_zero

end Fitted

/-! ### Edits -/

section Edits

variable (d) (start stop : Nat) (new : List Char)

theorem firstTouched_le_lastTouched : d.firstTouched start ≤ d.lastTouched start stop :=
  lineAt_mono d.text (d.editStart_le_editStop start stop)

/-- The lines behind the last touched one are those of the text behind the edit. -/
theorem lineCount_eq_lastTouched_add : d.lineCount =
    d.lastTouched start stop + breaks (d.text.drop (d.editStop start stop)) + 1 := by
  rw [lineCount_eq, breaks_eq_lineAt_add d.text (d.editStop start stop)]
  rfl

theorem lastTouched_lt_lineCount : d.lastTouched start stop < d.lineCount := by
  have := d.lineCount_eq_lastTouched_add start stop
  omega

/-- **The lines outside of an edit** stay, but for one that grows together with another. -/
theorem firstTouched_add_le : d.firstTouched start + breaks (d.text.drop (d.editStop start stop)) ≤
    (d.replace start stop new).lineCount := by
  rw [lineCount_eq, text_replace, List.append_assoc]
  have hbefore := lineAt_le_breaks_take d.text (d.editStart start)
  have hbehind := breaks_le_breaks_append new (d.text.drop (d.editStop start stop))
  have hcut := breaks_add_le (d.text.take (d.editStart start))
    (new ++ d.text.drop (d.editStop start stop))
  rw [firstTouched]
  omega

/-- The number of slots that come in is computed without loss. -/
theorem lineCount_le_replace : d.lineCount ≤
    d.lastTouched start stop - d.firstTouched start + 1 + (d.replace start stop new).lineCount := by
  have hcount := d.lineCount_eq_lastTouched_add start stop
  have houtside := d.firstTouched_add_le start stop new
  have htouched := d.firstTouched_le_lastTouched start stop
  omega

end Edits

theorem Fitted.replace (h : Fitted d) (start stop : Nat) (new : List Char) :
    Fitted (d.replace start stop new) := by
  have hfits := h.fits
  have htouched := d.firstTouched_le_lastTouched start stop
  have hlast := d.lastTouched_lt_lineCount start stop
  have hloss := d.lineCount_le_replace start stop new
  have htake : (d.slots.take (d.firstTouched start)).length = d.firstTouched start := by
    rw [List.length_take]
    omega
  constructor
  · have hin : (List.replicate (d.slotsIn start stop new - 1) none ++
        if d.slotsIn start stop new = 0 then []
        else [(d.slots[d.lastTouched start stop]?).join.map CachedLine.carried]).length =
          d.slotsIn start stop new := by
      rw [List.length_append, List.length_replicate]
      split
      · simp [*]
      · simp
        omega
    rw [slots_replace, List.length_append, htake, List.length_append, hin, List.length_drop,
      slotsIn]
    omega
  · -- what is known before the edit is as it was
    intro i hi
    have hi : i < d.firstInvalid ∧ i < d.firstTouched start := Nat.lt_min.mp hi
    rw [slots_replace, List.getElem?_append_left (by rw [htake]; exact hi.2),
      List.getElem?_take_of_lt hi.2]
    exact h.known i hi.1

/-! ### Passes -/

/-- What a pass makes of a document. -/
def afterPass (d : Document) (r : Pass) : Document :=
  { d with slots := d.slots.take d.firstInvalid ++ r.slots
           firstInvalid := d.firstInvalid + r.reached }

theorem ensureTokenized_eq (h : Fitted d) (p : TokensProvider) (upTo : Nat) : ∃ r,
    PassRun p (min upTo (d.lineCount - 1) + 1 - d.firstInvalid) false
      (d.stackBefore p d.firstInvalid) (d.lines.drop d.firstInvalid) (d.slots.drop d.firstInvalid)
      r ∧ d.ensureTokenized p upTo = (d.afterPass r, r.tokenized) := by
  have hlen : ((brokenLines d.text).drop d.firstInvalid).length
      = (d.slots.drop d.firstInvalid).length := by
    rw [List.length_drop, List.length_drop, h.fits]
    rfl
  refine ⟨_, ?_, rfl⟩
  rw [lines, ← List.map_drop, ← h.fits]
  exact passRun_pass p _ false (d.stackBefore p d.firstInvalid) hlen

section AfterPass

variable {todo : Nat} {r : Pass} (h : Fitted d)
  (hr : PassRun p todo false (d.stackBefore p d.firstInvalid) (d.lines.drop d.firstInvalid)
    (d.slots.drop d.firstInvalid) r)
include h

theorem Fitted.length_take_slots : (d.slots.take d.firstInvalid).length = d.firstInvalid := by
  have := h.firstInvalid_le
  have := h.fits
  rw [List.length_take]
  omega

theorem slot_afterPass_of_lt {i : Nat} (hi : i < d.firstInvalid) :
    (d.afterPass r).slots[i]? = d.slots[i]? := by
  rw [afterPass, List.getElem?_append_left (by rwa [h.length_take_slots]),
    List.getElem?_take_of_lt hi]

theorem slot_afterPass_add (j : Nat) :
    (d.afterPass r).slots[d.firstInvalid + j]? = r.slots[j]? := by
  rw [afterPass, List.getElem?_append_right (by rw [h.length_take_slots]; omega),
    h.length_take_slots, Nat.add_sub_cancel_left]

theorem drop_slots_afterPass : (d.afterPass r).slots.drop d.firstInvalid = r.slots :=
  List.drop_left' h.length_take_slots

include hr

theorem Fitted.afterPass : Fitted (d.afterPass r) where
  fits := by
    have hle := h.firstInvalid_le
    have hfits := h.fits
    show (d.slots.take d.firstInvalid ++ r.slots).length = d.lineCount
    rw [List.length_append, h.length_take_slots, hr.length_slots, List.length_drop]
    omega
  known := fun i hi => by
    rcases Nat.lt_or_ge i d.firstInvalid with hlt | hge
    · rw [slot_afterPass_of_lt h hlt]
      exact h.known i hlt
    · obtain ⟨j, rfl⟩ := Nat.exists_eq_add_of_le hge
      rw [slot_afterPass_add h]
      exact hr.exists_of_lt_reached (Nat.lt_of_add_lt_add_left hi)

end AfterPass

namespace Fitted

theorem ensure (h : Fitted d) (p : TokensProvider) (upTo : Nat) :
    Fitted (d.ensureTokenized p upTo).1 := by
  obtain ⟨r, hr, heq⟩ := ensureTokenized_eq h p upTo
  rw [heq]
  exact h.afterPass hr

/-- A pass goes at least to the line that it was told, or to the end. -/
theorem lt_firstInvalid_ensure (h : Fitted d) (p : TokensProvider) (upTo : Nat) :
    min upTo (d.lineCount - 1) < (d.ensureTokenized p upTo).1.firstInvalid := by
  obtain ⟨r, hr, heq⟩ := ensureTokenized_eq h p upTo
  have hle := h.firstInvalid_le
  have hfits := h.fits
  have hpos := d.lineCount_pos
  have hend := hr.todo_le_or_eq
  rw [List.length_drop] at hend
  rw [heq]
  show _ < d.firstInvalid + r.reached
  omega

/-- The tokens of a line before the first invalid one can be asked for. -/
theorem exists_tokens? (h : Fitted d) {i : Nat} (hi : i < d.firstInvalid) :
    ∃ tokens, d.tokens? i = some tokens := by
  obtain ⟨c, hc, _⟩ := h.known i hi
  exact ⟨c.tokens, by rw [tokens?, cached?, if_pos hi, hc]; rfl⟩

end Fitted

/-! ### Reachable documents -/

/-- What calls lead to. A text that is set anew makes a new document; passes ask any provider. -/
inductive Reachable : Document → Prop where
  | ofText (text : List Char) : Reachable (ofText text)
  | replace {d : Document} (h : Reachable d) (start stop : Nat) (text : List Char) :
    Reachable (d.replace start stop text)
  | insert {d : Document} (h : Reachable d) (place : Nat) (text : List Char) :
    Reachable (d.insert place text)
  | delete {d : Document} (h : Reachable d) (start stop : Nat) : Reachable (d.delete start stop)
  | invalidateAll {d : Document} (h : Reachable d) : Reachable d.invalidateAll
  | ensure {d : Document} (h : Reachable d) (p : TokensProvider) (upTo : Nat) :
    Reachable (d.ensureTokenized p upTo).1

/-- **Slots and lines fit**, whatever was done with a document. -/
theorem fitted_of_reachable (h : Reachable d) : Fitted d := by
  induction h with
  | ofText text => exact .ofText text
  | replace _ start stop text ih => exact ih.replace start stop text
  | insert _ place text ih => exact ih.replace place place text
  | delete _ start stop ih => exact ih.replace start stop []
  | invalidateAll _ ih => exact ih.invalidateAll
  | ensure _ p upTo ih => exact ih.ensure p upTo

/-- **The slots of a reachable document** are as many as its lines, so that every line that an edit
touches has one, and what comes in for the touched lines is computed without loss. The first invalid
line is not behind the end, all lines before it have their tokens, and a pass gives tokens to all
lines that it was asked for. -/
theorem reachable_fits {d : Document} (h : Reachable d) :
    d.slots.length = d.lineCount ∧ d.firstInvalid ≤ d.lineCount ∧
      (∀ i < d.firstInvalid, ∃ c, d.slots[i]? = some (some c) ∧ c.stale = false) ∧
      (∀ start stop new, d.firstTouched start ≤ d.lastTouched start stop ∧
        d.lastTouched start stop < d.slots.length ∧
        d.lineCount ≤ d.lastTouched start stop - d.firstTouched start + 1 +
          (d.replace start stop new).lineCount) ∧
      ∀ p upTo i, i ≤ min upTo (d.lineCount - 1) →
        ∃ tokens, (d.ensureTokenized p upTo).1.tokens? i = some tokens := by
  have hd := fitted_of_reachable h
  refine ⟨hd.fits, hd.firstInvalid_le, hd.known, fun start stop new => ?_, fun p upTo i hi => ?_⟩
  · rw [hd.fits]
    exact ⟨d.firstTouched_le_lastTouched start stop, d.lastTouched_lt_lineCount start stop,
      d.lineCount_le_replace start stop new⟩
  · have hlt := Nat.lt_of_le_of_lt hi (hd.lt_firstInvalid_ensure p upTo)
    exact (hd.ensure p upTo).exists_tokens? hlt

/-- A carriage return and a line feed grow together around a line that is taken out: no slot comes
in for it. -/
theorem reachable_fits_joined :
    let d := ((ofText "a\rx\nb".toList).ensureTokenized .plain 9).1
    Reachable (d.delete 2 3) ∧ d.lineCount = 3 ∧ d.slotsIn 2 3 [] = 0 ∧
      (d.delete 2 3).slots.length = 2 := by
  intro d
  have h : Reachable (d.delete 2 3) := ((Reachable.ofText _).ensure .plain 9).delete 2 3
  obtain ⟨hfits, _⟩ := reachable_fits h
  exact ⟨h, by decide, by decide, hfits.trans (by decide)⟩

end Tincture.Document
