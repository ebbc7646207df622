import Mathlib.Data.List.Basic
import Tincture.Document.Basic
import Tincture.Proofs.Text.BrokenLines

/-!
# What an edit does to the lines

An edit of a text without carriage returns touches the lines from `firstTouched` to `lastTouched`.
Afterwards there is one line more in their place than the new text has breaks; the lines before and
after are the old ones, with the old slots (`spliced_replace`). Of the lines in between nothing is
known, but that the last one keeps the stack of the last one that was touched.

`Spliced` says this once, and everything about edits is derived from it.
-/

namespace Tincture.Document

open Text

/-! ### Lines -/

/-- The texts of the lines. -/
def lines (d : Document) : List (List Char) :=
  (brokenLines d.text).map trimLineFeed

@[simp] theorem length_lines (d : Document) : d.lines.length = d.lineCount := by
  simp [lines, lineCount]

theorem lineCount_eq (d : Document) : d.lineCount = breaks d.text + 1 :=
  length_brokenLines d.text

theorem lineCount_pos (d : Document) : 0 < d.lineCount := by
  rw [lineCount_eq]
  exact Nat.succ_pos _

/-! ### The place of an edit -/

/-- Where an edit starts. -/
def editStart (d : Document) (start : Nat) : Nat :=
  min start d.text.length

/-- Where what an edit replaces stops. -/
def editStop (d : Document) (start stop : Nat) : Nat :=
  max (d.editStart start) (min stop d.text.length)

/-- The first line that an edit touches. -/
def firstTouched (d : Document) (start : Nat) : Nat :=
  lineAt d.text (d.editStart start)

/-- The last line that an edit touches. -/
def lastTouched (d : Document) (start stop : Nat) : Nat :=
  lineAt d.text (d.editStop start stop)

/-- The text that an edit takes out. -/
def removed (d : Document) (start stop : Nat) : List Char :=
  (d.text.take (d.editStop start stop)).drop (d.editStart start)

section Place

variable (d : Document) (start stop : Nat)

theorem editStart_le_editStop : d.editStart start ≤ d.editStop start stop :=
  Nat.le_max_left _ _

theorem length_take_editStart :
    (d.text.take (d.editStart start)).length = d.editStart start := by
  rw [List.length_take]
  exact Nat.min_eq_left (Nat.min_le_right _ _)

theorem take_editStop : d.text.take (d.editStop start stop) =
    d.text.take (d.editStart start) ++ d.removed start stop := by
  have h := d.editStart_le_editStop start stop
  conv_lhs =>
    rw [← List.take_append_drop (d.editStart start) (d.text.take (d.editStop start stop)),
      List.take_take, Nat.min_eq_left h]
  rfl

/-- The text around an edit. -/
theorem text_eq_append : d.text =
    d.text.take (d.editStart start) ++ d.removed start stop
      ++ d.text.drop (d.editStop start stop) := by
  rw [← take_editStop, List.take_append_drop]

theorem text_replace (new : List Char) : (d.replace start stop new).text =
    d.text.take (d.editStart start) ++ new ++ d.text.drop (d.editStop start stop) := rfl

/-- The number of slots that come in. -/
def slotsIn (new : List Char) : Nat :=
  d.lastTouched start stop - d.firstTouched start + 1 + (d.replace start stop new).lineCount
    - d.lineCount

theorem slots_replace (new : List Char) : (d.replace start stop new).slots =
    d.slots.take (d.firstTouched start) ++
    ((List.replicate (d.slotsIn start stop new - 1) none ++
      if d.slotsIn start stop new = 0 then []
      else [(d.slots[d.lastTouched start stop]?).join.map CachedLine.carried]) ++
    d.slots.drop (d.lastTouched start stop + 1)) := by
  rw [← List.append_assoc]
  rfl

variable {d} (hd : '\r' ∉ d.text)
include hd

theorem not_mem_take_editStart : '\r' ∉ d.text.take (d.editStart start) :=
  fun h => hd (List.mem_of_mem_take h)

theorem not_mem_removed : '\r' ∉ d.removed start stop :=
  fun h => hd (List.mem_of_mem_take (List.mem_of_mem_drop h))

theorem not_mem_text_replace {new : List Char} (hnew : '\r' ∉ new) :
    '\r' ∉ (d.replace start stop new).text := by
  rw [text_replace]
  intro h
  rcases List.mem_append.mp h with h | h
  · rcases List.mem_append.mp h with h | h
    · exact hd (List.mem_of_mem_take h)
    · exact hnew h
  · exact hd (List.mem_of_mem_drop h)

/-- The first touched line is the number of breaks before the edit. -/
theorem firstTouched_eq : d.firstTouched start = breaks (d.text.take (d.editStart start)) :=
  lineAt_eq_breaks d.text _ (parted_of_not_mem (not_mem_take_editStart start hd) _)

/-- As many lines more are touched as breaks are taken out. -/
theorem lastTouched_eq :
    d.lastTouched start stop = d.firstTouched start + breaks (d.removed start stop) := by
  have hstart := not_mem_take_editStart start hd
  have htake : '\r' ∉ d.text.take (d.editStop start stop) := fun h => hd (List.mem_of_mem_take h)
  rw [lastTouched, lineAt_eq_breaks d.text _ (parted_of_not_mem htake _), take_editStop,
    breaks_append (parted_of_not_mem hstart _), firstTouched_eq start hd]

end Place

/-! ### Splicing -/

/-- `d'` is `d` with the lines from `first` to `last` replaced by `k + 1` lines. -/
structure Spliced (d d' : Document) (first last k : Nat) : Prop where
  first_le : first ≤ last
  last_lt : last < d.lineCount
  lineCount : d'.lineCount + last = d.lineCount + first + k
  lines_before : d'.lines.take first = d.lines.take first
  lines_after : d'.lines.drop (first + k + 1) = d.lines.drop (last + 1)
  slots : d'.slots = d.slots.take first ++ (List.replicate k none ++
    ((d.slots[last]?).join.map CachedLine.carried :: d.slots.drop (last + 1)))
  firstInvalid : d'.firstInvalid = min d.firstInvalid first

theorem spliced_replace (d : Document) (start stop : Nat) {new : List Char} (hd : '\r' ∉ d.text)
    (hnew : '\r' ∉ new) :
    Spliced d (d.replace start stop new) (d.firstTouched start) (d.lastTouched start stop)
      (breaks new) := by
  -- the text was `a ++ m ++ c` and is `a ++ new ++ c` now
  set a := d.text.take (d.editStart start) with ha
  set m := d.removed start stop with hm
  set c := d.text.drop (d.editStop start stop) with hc
  have htext : d.text = a ++ m ++ c := d.text_eq_append start stop
  have hafter : (d.replace start stop new).text = a ++ new ++ c := rfl
  have hra : '\r' ∉ a := not_mem_take_editStart start hd
  have hrm : '\r' ∉ m := not_mem_removed start stop hd
  have hram : '\r' ∉ a ++ m := by simp [hra, hrm]
  have hran : '\r' ∉ a ++ new := by simp [hra, hnew]
  have hfirst : d.firstTouched start = breaks a := firstTouched_eq start hd
  have hlast : d.lastTouched start stop = breaks a + breaks m := by
    rw [lastTouched_eq start stop hd, hfirst]
  have hcount : d.lineCount = breaks a + breaks m + breaks c + 1 := by
    rw [lineCount_eq, htext, breaks_append (parted_of_not_mem hram c),
      breaks_append (parted_of_not_mem hra m)]
  have hcount' : (d.replace start stop new).lineCount = breaks a + breaks new + breaks c + 1 := by
    rw [lineCount_eq, hafter, breaks_append (parted_of_not_mem hran c),
      breaks_append (parted_of_not_mem hra new)]
  rw [hfirst, hlast]
  refine ⟨Nat.le_add_right _ _, by omega, by omega, ?_, ?_, ?_, ?_⟩
  · rw [lines, lines, hafter, htext, ← List.map_take, ← List.map_take, List.append_assoc,
      List.append_assoc, take_brokenLines_append (parted_of_not_mem hra _) (Nat.le_refl _),
      take_brokenLines_append (parted_of_not_mem hra _) (Nat.le_refl _)]
  · rw [lines, lines, hafter, htext, ← List.map_drop, ← List.map_drop,
      ← breaks_append (parted_of_not_mem hra new), ← breaks_append (parted_of_not_mem hra m),
      drop_brokenLines_append (parted_of_not_mem hran c),
      drop_brokenLines_append (parted_of_not_mem hram c)]
  · -- the number of slots in the middle is computed from the line counts: it is never 0
    have hin : d.slotsIn start stop new = breaks new + 1 := by
      rw [slotsIn]
      omega
    rw [slots_replace, hin, if_neg (Nat.succ_ne_zero _), hfirst, hlast]
    simp
  · show min d.firstInvalid (d.firstTouched start) = _
    rw [hfirst]

namespace Spliced

variable {d d' : Document} {first last k : Nat}

/-! ### Lines and slots one by one -/

theorem line_before (h : Spliced d d' first last k) {i : Nat} (hi : i < first) :
    d'.lines[i]? = d.lines[i]? := by
  rw [← List.getElem?_take_of_lt hi, h.lines_before, List.getElem?_take_of_lt hi]

theorem line_after (h : Spliced d d' first last k) (j : Nat) :
    d'.lines[first + k + 1 + j]? = d.lines[last + 1 + j]? := by
  rw [← List.getElem?_drop, h.lines_after, List.getElem?_drop]

section Slots

variable (h : Spliced d d' first last k) (hfits : d.slots.length = d.lineCount)
include h hfits

theorem length_take_slots : (d.slots.take first).length = first := by
  have := h.first_le
  have := h.last_lt
  rw [List.length_take]
  omega

theorem slots_fit : d'.slots.length = d'.lineCount := by
  have := h.first_le
  have := h.last_lt
  have := h.lineCount
  rw [h.slots, List.length_append, h.length_take_slots hfits]
  simp only [List.length_append, List.length_replicate, List.length_cons, List.length_drop]
  omega

theorem slot_before {i : Nat} (hi : i < first) : d'.slots[i]? = d.slots[i]? := by
  rw [h.slots, List.getElem?_append_left (by rwa [h.length_take_slots hfits]),
    List.getElem?_take_of_lt hi]

theorem slot_from_first (i : Nat) :
    d'.slots[first + i]? = (List.replicate k none ++
      ((d.slots[last]?).join.map CachedLine.carried :: d.slots.drop (last + 1)))[i]? := by
  rw [h.slots, List.getElem?_append_right (by rw [h.length_take_slots hfits]; omega),
    h.length_take_slots hfits, Nat.add_sub_cancel_left]

theorem slot_new {i : Nat} (hi : i < k) : d'.slots[first + i]? = some none := by
  rw [h.slot_from_first hfits, List.getElem?_append_left (by simpa using hi)]
  simp [hi]

theorem slot_carried :
    d'.slots[first + k]? = some ((d.slots[last]?).join.map CachedLine.carried) := by
  rw [h.slot_from_first hfits, List.getElem?_append_right (by simp)]
  simp

theorem slot_after (j : Nat) : d'.slots[first + k + 1 + j]? = d.slots[last + 1 + j]? := by
  rw [show first + k + 1 + j = first + (k + 1 + j) by omega, h.slot_from_first hfits,
    List.getElem?_append_right (by simp; omega), List.length_replicate,
    show k + 1 + j - k = j + 1 by omega, List.getElem?_cons_succ, List.getElem?_drop]

end Slots

end Spliced

end Tincture.Document
