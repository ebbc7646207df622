import Tincture.Proofs.Document.Fitted
import Tincture.Proofs.Text.LineEndings

/-!
# Lines before an edit

The lines before the first one that an edit touches stay as they are, with one exception: behind a
carriage return that ends a line by itself, an edit can bring up a line feed (`JoinsReturn`). Both are
one break then, and the line before the edit is shown without its carriage return. That line is not
among those that the edit touches, so what is known of it is kept if it was known before
(`lines_kept_iff`).

The lines are compared along what the old and the new text have in common at their start
(`exists_common`).
-/

namespace Tincture

/-! ### The line where two texts meet -/

namespace Text

/-- The line where two texts meet is the last one of the first and the first one of the second. -/
theorem getElem?_brokenLines_append {s t : List Char} (h : Parted s t) :
    (brokenLines (s ++ t))[breaks s]? =
      some ((brokenLines s).getLast?.getD [] ++ (brokenLines t).head?.getD []) := by
  have hlength : (brokenLines s).dropLast.length = breaks s := by
    rw [List.length_dropLast, length_brokenLines, Nat.add_sub_cancel]
  rw [brokenLines_append s t h, joinLines, List.getElem?_append_right (Nat.le_of_eq hlength),
    hlength, Nat.sub_self, List.getElem?_cons_zero]

/-- The lines before it are those of the first text. -/
theorem getElem?_brokenLines_of_lt {s t : List Char} (h : Parted s t) {i : Nat} (hi : i < breaks s) :
    (brokenLines (s ++ t))[i]? = (brokenLines s)[i]? := by
  rw [← List.getElem?_take_of_lt hi, take_brokenLines_append h (Nat.le_refl _),
    List.getElem?_take_of_lt hi]

end Text

namespace Document

open Text

/-- A carriage return before an edit ends a line by itself, and the edit brings up a line feed behind
it. -/
structure JoinsReturn (d : Document) (start stop : Nat) (new : List Char) : Prop where
  before : (d.text.take (d.editStart start)).getLast? = some '\r'
  alone : (d.text.drop (d.editStart start)).head? ≠ some '\n'
  behind : (new ++ d.text.drop (d.editStop start stop)).head? = some '\n'

instance (d : Document) (start stop : Nat) (new : List Char) :
    Decidable (d.JoinsReturn start stop new) :=
  decidable_of_iff ((d.text.take (d.editStart start)).getLast? = some '\r' ∧
      (d.text.drop (d.editStart start)).head? ≠ some '\n' ∧
      (new ++ d.text.drop (d.editStop start stop)).head? = some '\n')
    ⟨fun ⟨before, alone, behind⟩ => ⟨before, alone, behind⟩,
      fun ⟨before, alone, behind⟩ => ⟨before, alone, behind⟩⟩

section Edits

variable (d : Document) (start stop : Nat) (new : List Char)

theorem joinsReturn_iff : d.JoinsReturn start stop new ↔
    Parted (d.text.take (d.editStart start)) (d.text.drop (d.editStart start)) ∧
      ¬ Parted (d.text.take (d.editStart start)) (new ++ d.text.drop (d.editStop start stop)) := by
  simp only [Parted, Classical.not_imp, not_not]
  constructor
  · intro h
    exact ⟨fun _ => h.alone, h.before, h.behind⟩
  · rintro ⟨halone, hbefore, hbehind⟩
    exact ⟨hbefore, halone hbefore, hbehind⟩

/-- **What two texts have in common** before and after an edit: as many lines as stay, or one less if
the edit joins a carriage return. -/
theorem exists_common : ∃ common old fresh, d.text = common ++ old ∧
    (d.replace start stop new).text = common ++ fresh ∧ Parted common old ∧ Parted common fresh ∧
    (¬ d.JoinsReturn start stop new ∧ d.firstTouched start = breaks common ∨
      d.JoinsReturn start stop new ∧ d.firstTouched start = breaks common + 1 ∧
        ∃ s t, old = '\r' :: s ∧ s.head? ≠ some '\n' ∧ fresh = '\r' :: '\n' :: t) := by
  set a := d.text.take (d.editStart start) with ha
  set b := d.text.drop (d.editStart start) with hb
  set c := new ++ d.text.drop (d.editStop start stop) with hc
  have htext : d.text = a ++ b := (List.take_append_drop _ _).symm
  have hafter : (d.replace start stop new).text = a ++ c := by
    rw [text_replace, List.append_assoc]
  have hjoins : d.JoinsReturn start stop new ↔ Parted a b ∧ ¬ Parted a c :=
    d.joinsReturn_iff start stop new
  -- a carriage return can follow anything
  have hreturn : ∀ s t, Parted s ('\r' :: t) := fun s t _ => by simp
  by_cases hab : Parted a b
  · have hfirst : d.firstTouched start = breaks a := lineAt_eq_breaks d.text _ hab
    by_cases hac : Parted a c
    · exact ⟨a, b, c, htext, hafter, hab, hac, .inl ⟨fun h => (hjoins.mp h).2 hac, hfirst⟩⟩
    · have hj := hjoins.mpr ⟨hab, hac⟩
      obtain ⟨p, hp⟩ := List.getLast?_eq_some_iff.mp hj.before
      obtain ⟨t, ht⟩ := List.head?_eq_some_iff.mp hj.behind
      rw [← ha] at hp
      rw [← hc] at ht
      have hcount : breaks a = breaks p + 1 := by
        rw [hp, breaks_append (hreturn p [])]
        rfl
      refine ⟨p, '\r' :: b, '\r' :: '\n' :: t, ?_, ?_, hreturn p b, hreturn p _,
        .inr ⟨hj, hfirst.trans hcount, b, t, rfl, hj.alone, rfl⟩⟩
      · rw [htext, hp, List.append_assoc]
        rfl
      · rw [hafter, hp, ht, List.append_assoc]
        rfl
  · -- the edit starts between a carriage return and its line feed, that is, on the line of both
    have hlast : a.getLast? = some '\r' := by
      by_contra hne
      exact hab fun h => absurd h hne
    obtain ⟨p, hp⟩ := List.getLast?_eq_some_iff.mp hlast
    have hcount : breaks a = breaks p + 1 := by
      rw [hp, breaks_append (hreturn p [])]
      rfl
    have hcut := breaks_append_of_not_parted hab
    rw [← htext, breaks_eq_lineAt_add d.text (d.editStart start), ← hb] at hcut
    refine ⟨p, '\r' :: b, '\r' :: c, ?_, ?_, hreturn p b, hreturn p c,
      .inl ⟨fun h => hab (hjoins.mp h).1, ?_⟩⟩
    · rw [htext, hp, List.append_assoc]
      rfl
    · rw [hafter, hp, List.append_assoc]
      rfl
    · show lineAt d.text (d.editStart start) = breaks p
      omega

end Edits

/-- **The lines before an edit** keep their text if the edit joins no carriage return before it, or if
the line of that carriage return was not known; otherwise that line, the last one before the edit, is
shown without it. -/
theorem lines_kept_iff (d : Document) (start stop : Nat) (new : List Char) :
    ((∀ i < (d.replace start stop new).firstInvalid,
        (d.replace start stop new).line? i = d.line? i) ↔
      (d.JoinsReturn start stop new → d.firstInvalid < d.firstTouched start)) ∧
    (d.JoinsReturn start stop new → ∃ i l, d.firstTouched start = i + 1 ∧
      (∀ j < i, (d.replace start stop new).line? j = d.line? j) ∧
      d.line? i = some (l ++ ['\r']) ∧ (d.replace start stop new).line? i = some l) := by
  obtain ⟨common, old, fresh, htext, hafter, hold, hfresh, hcases⟩ := d.exists_common start stop new
  -- the lines of the common start but for its last one
  have hkept : ∀ i < breaks common, (d.replace start stop new).line? i = d.line? i := by
    intro i hi
    rw [line?, line?, hafter, htext, getElem?_brokenLines_of_lt hfresh hi,
      getElem?_brokenLines_of_lt hold hi]
  have hvalid : (d.replace start stop new).firstInvalid =
      min d.firstInvalid (d.firstTouched start) := rfl
  rw [hvalid]
  rcases hcases with ⟨hjoins, hfirst⟩ | ⟨hjoins, hfirst, s, t, rfl, hs, rfl⟩
  · refine ⟨iff_of_true (fun i hi => hkept i ?_) fun h => absurd h hjoins, fun h => absurd h hjoins⟩
    rw [← hfirst]
    exact Nat.lt_of_lt_of_le hi (Nat.min_le_right _ _)
  -- the last line of the common start ends in the carriage return, and then in the line feed too
  set l := (brokenLines common).getLast?.getD [] with hl
  have hbefore : d.line? (breaks common) = some (l ++ ['\r']) := by
    have hreturn : brokenLines ('\r' :: s) = ['\r'] :: brokenLines s :=
      brokenLines_of_isLineBreak rfl fun _ => hs
    rw [line?, htext, getElem?_brokenLines_append hold, hreturn, List.head?_cons, Option.map_some,
      ← hl]
    exact congrArg some (trimLineFeed_of_getLast?_ne (by simp))
  have hbehind : (d.replace start stop new).line? (breaks common) = some l := by
    rw [line?, hafter, getElem?_brokenLines_append hfresh, brokenLines, List.head?_cons,
      Option.map_some, ← hl]
    exact congrArg some (trimLineFeed_append_returnFeed l)
  refine ⟨⟨fun h _ => ?_, fun h i hi => hkept i ?_⟩,
    fun _ => ⟨breaks common, l, hfirst, hkept, hbefore, hbehind⟩⟩
  · by_contra hlt
    have hsame := h (breaks common) (by omega)
    rw [hbefore, hbehind, Option.some.injEq] at hsame
    exact absurd (congrArg List.length hsame) (by simp)
  · have hbelow : d.firstInvalid < d.firstTouched start := h hjoins
    omega

/-- A line feed that is put behind a carriage return changes the line before it, of which all is taken
to be known still. -/
theorem not_always_kept : ¬ ∀ (d : Document) (start stop : Nat) (new : List Char), Reachable d →
    ∀ i < (d.replace start stop new).firstInvalid,
      (d.replace start stop new).line? i = d.line? i := by
  intro h
  have hreachable := (Reachable.ofText "a\r".toList).ensure .plain 9
  have hline := h _ 2 2 ['\n'] hreachable 0 (by decide)
  exact absurd hline (by decide)

end Document

end Tincture
