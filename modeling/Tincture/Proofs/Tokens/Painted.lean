import Mathlib.Data.List.Basic
import Tincture.Tokens.Paint

/-!
# What is painted

A line is painted by strokes up to given places (`Paint.fill`), and however captured groups lie in
each other, painting them comes down to strokes as well. So what holds of paint that is filled in any
order and up to any places inside the line (`Paint.Filled`) holds of all paint: the strokes start at
0, each starts after the one before it, and all start before the end of the paint.
-/

namespace Tincture

namespace Match

variable {pos size : Nat} {m : Match}

theorem start_le_of_fits (h : m.fits pos size = true) : m.start ≤ size := by
  simp only [fits, Span.fits, Bool.and_eq_true, decide_eq_true_eq] at h
  exact Nat.le_trans h.1.1.1 h.1.1.2

theorem stop_le_of_fits (h : m.fits pos size = true) : m.stop ≤ size := by
  simp only [fits, Span.fits, Bool.and_eq_true, decide_eq_true_eq] at h
  exact h.1.1.2

/-- All groups of a match, itself included, lie in the text. -/
theorem fits_of_mem_captures (h : m.fits pos size = true) {s : Span}
    (hs : some s ∈ m.captures) : s.fits size = true := by
  simp only [fits, Bool.and_eq_true, List.all_eq_true] at h
  rw [captures, List.mem_cons, Option.some.injEq] at hs
  rcases hs with rfl | hs
  · exact h.1.1
  · simpa using h.2 _ hs

end Match

namespace Paint

/-- Paint that is filled with scopes of a kind, up to places that are not beyond the given size. -/
inductive Filled (P : List String → Prop) (size : Nat) : Paint → Prop
  | empty : Filled P size {}
  | fill {p : Paint} {scopes : List String} {stop : Nat} (hp : Filled P size p) (hscopes : P scopes)
      (hstop : stop ≤ size) : Filled P size (p.fill scopes stop)

/-- Open groups have scopes of a kind, and end inside the line. -/
def OpenFits (P : List String → Prop) (size : Nat) (opened : List OpenGroup) : Prop :=
  ∀ o ∈ opened, P o.1 ∧ o.2 ≤ size

/-- The scopes of what lies in the innermost open group. -/
def innermost (base : List String) : List OpenGroup → List String
  | (scopes, _) :: _ => scopes
  | [] => base

variable {P : List String → Prop} {size : Nat} {p : Paint}

theorem innermost_of {base : List String} {opened : List OpenGroup} (hbase : P base)
    (hopened : OpenFits P size opened) : P (innermost base opened) := by
  cases opened with
  | nil => exact hbase
  | cons o rest => exact (hopened o List.mem_cons_self).1

namespace Filled

/-! ### Strokes -/

theorem stop_le (h : Filled P size p) : p.stop ≤ size := by
  induction h with
  | empty => exact Nat.zero_le _
  | fill _ _ hstop ih =>
    unfold Paint.fill
    split
    · exact ih
    · exact hstop

theorem stop_eq_zero (h : Filled P size p) (hempty : p.strokes = []) : p.stop = 0 := by
  induction h with
  | empty => rfl
  | fill _ _ _ ih =>
    unfold Paint.fill at hempty ⊢
    split at hempty
    · rw [if_pos ‹_›]
      exact ih hempty
    · simp at hempty

/-- Every stroke starts before the end of the paint, and has scopes of the kind. -/
theorem of_mem_strokes (h : Filled P size p) : ∀ t ∈ p.strokes, t.column < p.stop ∧ P t.scopes := by
  induction h with
  | empty => simp
  | @fill p scopes stop _ hscopes _ ih =>
    unfold Paint.fill
    split
    · exact ih
    · rename_i hlt
      have hlt := Nat.lt_of_not_le hlt
      intro t ht
      rcases List.mem_cons.mp ht with rfl | ht
      · exact ⟨hlt, hscopes⟩
      · exact ⟨Nat.lt_trans (ih t ht).1 hlt, (ih t ht).2⟩

/-- Each stroke starts after the one before it; the last one comes first. -/
theorem pairwise_strokes (h : Filled P size p) :
    p.strokes.Pairwise fun a b => b.column < a.column := by
  induction h with
  | empty => exact List.Pairwise.nil
  | fill hp _ _ ih =>
    unfold Paint.fill
    split
    · exact ih
    · exact List.pairwise_cons.mpr ⟨fun t ht => (hp.of_mem_strokes t ht).1, ih⟩

/-- The first stroke starts at 0. -/
theorem column_getLast? (h : Filled P size p) : ∀ t ∈ p.strokes.getLast?, t.column = 0 := by
  induction h with
  | empty => simp
  | @fill p scopes stop hp _ _ ih =>
    unfold Paint.fill
    split
    · exact ih
    · intro t ht
      rw [List.getLast?_cons, Option.mem_some_iff] at ht
      cases hstrokes : p.strokes.getLast? with
      | none =>
        -- the stroke is the first one, and nothing was painted before it
        rw [hstrokes, Option.getD_none] at ht
        rw [← ht]
        exact hp.stop_eq_zero (List.getLast?_eq_none_iff.mp hstrokes)
      | some t' =>
        rw [hstrokes, Option.getD_some] at ht
        exact ih t (by rw [hstrokes, ht]; rfl)

/-! ### Captured groups -/

section Captures

variable (happend : ∀ scopes more, P scopes → P (scopes ++ more))

theorem closeUpTo {opened : List OpenGroup} (hp : Filled P size p) (hopened : OpenFits P size opened)
    (start : Nat) :
    Filled P size (Paint.closeUpTo start opened p).2 ∧
      OpenFits P size (Paint.closeUpTo start opened p).1 := by
  induction opened generalizing p with
  | nil => exact ⟨hp, hopened⟩
  | cons o rest ih =>
    obtain ⟨⟨hscopes, hstop⟩, hrest⟩ := List.forall_mem_cons.mp hopened
    unfold Paint.closeUpTo
    split
    · exact ⟨hp, hopened⟩
    · exact ih (hp.fill hscopes hstop) hrest

theorem closeAll {opened : List OpenGroup} (hp : Filled P size p)
    (hopened : OpenFits P size opened) : Filled P size (Paint.closeAll opened p) := by
  induction opened generalizing p with
  | nil => exact hp
  | cons o rest ih =>
    obtain ⟨⟨hscopes, hstop⟩, hrest⟩ := List.forall_mem_cons.mp hopened
    exact ih (hp.fill hscopes hstop) hrest

include happend

theorem paintGroups {expand : String → List String} {base : List String} {limit : Nat}
    {groups : List (Option String × Option Span)} {opened : List OpenGroup}
    (hp : Filled P size p) (hbase : P base) (hopened : OpenFits P size opened)
    (hgroups : ∀ group ∈ groups, ∀ s ∈ group.2, s.fits size = true) :
    Filled P size (Paint.paintGroups expand base limit groups opened p) := by
  induction groups generalizing opened p with
  | nil => exact hp.closeAll hopened
  | cons group rest ih =>
    obtain ⟨hgroup, hrest⟩ := List.forall_mem_cons.mp hgroups
    rcases group with ⟨_ | name, _ | s⟩
    · exact ih hp hopened hrest
    · exact ih hp hopened hrest
    · exact ih hp hopened hrest
    have hs : s.start ≤ s.stop ∧ s.stop ≤ size := by
      simpa [Span.fits] using hgroup s rfl
    rw [Paint.paintGroups]
    split
    · exact ih hp hopened hrest
    split
    · exact hp.closeAll hopened
    obtain ⟨hclosed, hstill⟩ := hp.closeUpTo hopened s.start
    -- the group lies in the innermost one that is still open, or in the match itself
    have hparent : P (innermost base (Paint.closeUpTo s.start opened p).1) :=
      innermost_of hbase hstill
    refine ih (hclosed.fill hparent (Nat.le_trans hs.1 hs.2)) ?_ hrest
    exact List.forall_mem_cons.mpr ⟨⟨happend _ _ hparent, hs.2⟩, hstill⟩

/-- **Captured groups** are painted by strokes inside the match. -/
theorem captures {text : Array Char} {base : List String} {pos : Nat} {m : Match}
    (hp : Filled P text.size p) (hbase : P base) (hm : m.fits pos text.size = true)
    (names : CaptureNames) : Filled P text.size (p.captures text base names m) := by
  refine hp.paintGroups happend hbase (fun _ h => absurd h List.not_mem_nil) ?_
  intro group hgroup s hs
  refine Match.fits_of_mem_captures hm ?_
  rw [← Option.mem_def.mp hs]
  exact (List.of_mem_zip (a := group.1) (b := group.2) hgroup).2

end Captures

end Filled

/-! ### Finished tokens -/

/-- The tokens cut a line of a given length from its start on: each starts after the one before it,
and none starts behind the line. -/
structure CutLine (length : Nat) (tokens : List Token) : Prop where
  head : tokens.head?.map (·.column) = some 0
  sorted : tokens.Pairwise fun a b => a.column < b.column
  lt : ∀ t ∈ tokens, t.column < max 1 length

theorem cutLine_singleton (length : Nat) (scopes : List String) : CutLine length [⟨0, scopes⟩] where
  head := rfl
  sorted := List.pairwise_singleton _ _
  lt := by
    intro t ht
    rw [List.mem_singleton.mp ht]
    exact Nat.lt_of_lt_of_le Nat.zero_lt_one (Nat.le_max_left 1 length)

/-- Strokes inside a line, the last one first, cut it. -/
theorem cutLine_reverse {length : Nat} {strokes : List Token} (hne : strokes ≠ [])
    (hfirst : ∀ t ∈ strokes.getLast?, t.column = 0)
    (hsorted : strokes.Pairwise fun a b => b.column < a.column)
    (hlt : ∀ t ∈ strokes, t.column < length) : CutLine length strokes.reverse where
  head := by
    rw [List.head?_reverse, List.getLast?_eq_some_getLast hne, Option.map_some,
      hfirst _ (List.getLast?_eq_some_getLast hne)]
  sorted := List.pairwise_reverse.mpr hsorted
  lt := fun t ht =>
    Nat.lt_of_lt_of_le (hlt t (List.mem_reverse.mp ht)) (Nat.le_max_right 1 length)

/-- **The tokens of a painted line** cut it, and have scopes of the kind. Behind the line there is
only the line feed: at most one stroke starts there, the last one, and it is left out. -/
theorem Filled.finish {length : Nat} (h : Filled P (length + 1) p) {scopes : List String}
    (hscopes : P scopes) :
    CutLine length (p.finish length scopes) ∧ ∀ t ∈ p.finish length scopes, P t.scopes := by
  have hsorted := h.pairwise_strokes
  have hmem := h.of_mem_strokes
  have hfirst := h.column_getLast?
  have hstop := h.stop_le
  have hsingle : CutLine length [⟨0, scopes⟩] ∧ ∀ t ∈ [(⟨0, scopes⟩ : Token)], P t.scopes :=
    ⟨cutLine_singleton length scopes, fun t ht => by rwa [List.mem_singleton.mp ht]⟩
  cases hstrokes : p.strokes with
  | nil =>
    rw [Paint.finish, hstrokes]
    exact hsingle
  | cons t rest =>
    rw [hstrokes] at hsorted hmem hfirst
    obtain ⟨hbefore, hrest⟩ := List.pairwise_cons.mp hsorted
    have ht := (hmem t List.mem_cons_self).1
    rw [Paint.finish, hstrokes]
    by_cases hbehind : length ≤ t.column
    · -- the last stroke is left out, and all others start before it
      simp only [if_pos hbehind]
      cases rest with
      | nil => exact hsingle
      | cons t' rest' =>
        refine ⟨cutLine_reverse (List.cons_ne_nil _ _) hfirst hrest fun u hu => ?_, fun u hu => ?_⟩
        · have := hbefore u hu
          omega
        · exact (hmem u (List.mem_cons_of_mem _ (List.mem_reverse.mp hu))).2
    · simp only [if_neg hbehind]
      refine ⟨cutLine_reverse (List.cons_ne_nil _ _) hfirst hsorted fun u hu => ?_, fun u hu => ?_⟩
      · rcases List.mem_cons.mp hu with rfl | hu
        · exact Nat.lt_of_not_le hbehind
        · exact Nat.lt_trans (hbefore u hu) (Nat.lt_of_not_le hbehind)
      · exact (hmem u (List.mem_reverse.mp hu)).2

end Paint

end Tincture
