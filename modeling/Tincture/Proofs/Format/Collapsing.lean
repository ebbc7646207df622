import Mathlib.Data.List.Basic
import Tincture.Format.Layout
import Tincture.Proofs.Text.Trimming
import Tincture.Proofs.Text.WrittenLines

/-!
# Collapsing runs of blanks

Collapsing keeps a character, or leaves out a blank behind another one (`collapseFrom_cons`). So it
changes no other characters (`filter_collapseSpaces`), neither end of a text (`collapseFrom_append`,
`getLast?_collapseSpaces`), and not what braces are open behind it (`depthAfter_collapseSpaces`); a second
time it changes nothing (`collapseSpaces_collapseSpaces`).
-/

namespace Tincture.Format

open Text

/-- What becomes of one character: it is kept, or it is a blank behind another one and left out. -/
theorem collapseFrom_cons (inString inRaw afterBlank : Bool) (c : Char) :
    (∃ inString' inRaw' afterBlank', (c ≠ ' ' → afterBlank' = false) ∧
      ∀ rest, collapseFrom inString inRaw afterBlank (c :: rest) =
        c :: collapseFrom inString' inRaw' afterBlank' rest) ∨
    (c = ' ' ∧ afterBlank = true ∧ ∀ rest, collapseFrom inString inRaw afterBlank (c :: rest) =
      collapseFrom inString inRaw true rest) := by
  by_cases hc : c = ' '
  · subst hc
    by_cases hout : inString = false ∧ inRaw = false
    · obtain ⟨rfl, rfl⟩ := hout
      cases afterBlank with
      | true => exact .inr ⟨rfl, rfl, fun rest => by simp [collapseFrom]⟩
      | false => exact .inl ⟨false, false, true, by simp, fun rest => by simp [collapseFrom]⟩
    · refine .inl ⟨inString, inRaw, false, by simp, fun rest => ?_⟩
      rw [not_and] at hout
      cases inString <;> simp_all [collapseFrom]
  · exact .inl ⟨if c = '"' ∧ !inRaw then !inString else inString,
      if c = '`' ∧ !inString then !inRaw else inRaw, false, fun _ => rfl,
      fun rest => by simp [collapseFrom, hc]⟩

/-- A blank is kept if none stands before it. -/
theorem collapseFrom_false_cons (inString inRaw : Bool) (c : Char) :
    ∃ inString' inRaw' afterBlank', (c ≠ ' ' → afterBlank' = false) ∧
      ∀ rest, collapseFrom inString inRaw false (c :: rest) =
        c :: collapseFrom inString' inRaw' afterBlank' rest := by
  rcases collapseFrom_cons inString inRaw false c with hkeep | ⟨-, hfalse, -⟩
  · exact hkeep
  · exact absurd hfalse (by simp)

/-- All characters but blanks are kept. -/
theorem filter_collapseFrom {p : Char → Bool} (hp : p ' ' = false)
    (inString inRaw afterBlank : Bool) (s : List Char) :
    (collapseFrom inString inRaw afterBlank s).filter p = s.filter p := by
  induction s generalizing inString inRaw afterBlank with
  | nil => rfl
  | cons c s ih =>
    rcases collapseFrom_cons inString inRaw afterBlank c with ⟨q, r, b, -, hkeep⟩ | ⟨rfl, -, hdrop⟩
    · rw [hkeep, List.filter_cons, ih, List.filter_cons]
    · rw [hdrop, ih, List.filter_cons_of_neg (by simp [hp])]

theorem filter_collapseSpaces {p : Char → Bool} (hp : p ' ' = false) (s : List Char) :
    (collapseSpaces s).filter p = s.filter p :=
  filter_collapseFrom hp false false false s

theorem mem_of_mem_collapseSpaces {s : List Char} {c : Char} (h : c ∈ collapseSpaces s)
    (hblank : c ≠ ' ') : c ∈ s :=
  mem_of_filter_eq (filter_collapseSpaces (by simp) s) h hblank

theorem collapseFrom_collapseFrom (inString inRaw afterBlank : Bool) (s : List Char) :
    collapseFrom inString inRaw afterBlank (collapseFrom inString inRaw afterBlank s) =
      collapseFrom inString inRaw afterBlank s := by
  induction s generalizing inString inRaw afterBlank with
  | nil => rfl
  | cons c s ih =>
    rcases collapseFrom_cons inString inRaw afterBlank c with
      ⟨q, r, b, -, hkeep⟩ | ⟨-, rfl, hdrop⟩
    · rw [hkeep, hkeep, ih]
    · rw [hdrop, ih]

theorem collapseSpaces_collapseSpaces (s : List Char) :
    collapseSpaces (collapseSpaces s) = collapseSpaces s :=
  collapseFrom_collapseFrom false false false s

/-! ### Both ends -/

/-- Up to and with its first blank, a text stays as it is. -/
theorem collapseFrom_append {word : List Char} (h : ' ' ∉ word) (inString inRaw : Bool)
    (rest : List Char) : ∃ inString' inRaw',
      collapseFrom inString inRaw false (word ++ rest) =
        word ++ collapseFrom inString' inRaw' false rest := by
  induction word generalizing inString inRaw with
  | nil => exact ⟨inString, inRaw, rfl⟩
  | cons c word ih =>
    obtain ⟨hc, hword⟩ := List.ne_and_not_mem_of_not_mem_cons h
    obtain ⟨q, r, b, hb, hkeep⟩ := collapseFrom_false_cons inString inRaw c
    obtain rfl := hb hc.symm
    obtain ⟨q', r', hrest⟩ := ih hword q r
    exact ⟨q', r', by rw [List.cons_append, hkeep, hrest, List.cons_append]⟩

/-- Behind a character that is a blank if a blank is left out behind it, the last one stays. -/
theorem getLast?_cons_collapseFrom {d : Char} {afterBlank : Bool} (h : afterBlank = true → d = ' ')
    (inString inRaw : Bool) (s : List Char) :
    (d :: collapseFrom inString inRaw afterBlank s).getLast? = (d :: s).getLast? := by
  induction s generalizing d inString inRaw afterBlank with
  | nil => rfl
  | cons c s ih =>
    rcases collapseFrom_cons inString inRaw afterBlank c with ⟨q, r, b, hb, hkeep⟩ | ⟨rfl, hd, hdrop⟩
    · have hc : b = true → c = ' ' := fun htrue => by
        by_contra hne
        simp [hb hne] at htrue
      rw [hkeep, List.getLast?_cons_cons, List.getLast?_cons_cons, ih hc]
    · subst hd
      obtain rfl := h rfl
      rw [hdrop, ih h, List.getLast?_cons_cons]

theorem getLast?_collapseSpaces (s : List Char) : (collapseSpaces s).getLast? = s.getLast? := by
  rcases s with _ | ⟨c, s⟩
  · rfl
  obtain ⟨q, r, b, hb, hkeep⟩ := collapseFrom_false_cons false false c
  rw [collapseSpaces, hkeep]
  refine getLast?_cons_collapseFrom (fun htrue => ?_) q r s
  by_contra hne
  simp [hb hne] at htrue

theorem trimEnd_collapseSpaces_iff {s : List Char} :
    trimEnd (collapseSpaces s) = collapseSpaces s ↔ trimEnd s = s := by
  rw [trimEnd_eq_self_iff, trimEnd_eq_self_iff, getLast?_collapseSpaces]

/-! ### Braces -/

theorem head?_collapseFrom_false (inString inRaw : Bool) (s : List Char) :
    (collapseFrom inString inRaw false s).head? = s.head? := by
  cases s with
  | nil => rfl
  | cons c s =>
    obtain ⟨q, r, b, -, hkeep⟩ := collapseFrom_false_cons inString inRaw c
    rw [hkeep, List.head?_cons, List.head?_cons]

theorem depthAfter_escape (depth : Nat) (c : Char) (s : List Char) :
    depthAfter true depth ('\\' :: c :: s) = depthAfter true depth s := by
  rw [depthAfter, if_pos rfl]

theorem depthAfter_true_cons {c : Char} (hc : c ≠ '\\') (depth : Nat) (s : List Char) :
    depthAfter true depth (c :: s) =
      if c = '"' then depthAfter false depth s else depthAfter true depth s := by
  cases s <;> simp [depthAfter, hc]

theorem depthAfter_blank_cons (inString : Bool) (depth : Nat) (s : List Char) :
    depthAfter inString depth (' ' :: s) = depthAfter inString depth s := by
  cases inString with
  | true => simp [depthAfter_true_cons]
  | false => simp [depthAfter]

/-- The braces that are open behind a text do not depend on its runs of blanks: the blank that a
backslash in a string takes with it is the first one of its run, which is kept. -/
theorem depthAfter_collapseFrom (quoted : Bool) (depth : Nat) :
    ∀ (s : List Char) (inString inRaw afterBlank : Bool),
      depthAfter quoted depth (collapseFrom inString inRaw afterBlank s) =
        depthAfter quoted depth s := by
  intro s
  -- behind a backslash two characters go at once, so the induction is on the length
  induction hn : s.length using Nat.strong_induction_on generalizing s quoted depth with
  | _ n ih =>
  intro inString inRaw afterBlank
  rcases s with _ | ⟨c, s⟩
  · rfl
  have ih' : ∀ quoted depth inString inRaw afterBlank,
      depthAfter quoted depth (collapseFrom inString inRaw afterBlank s) =
        depthAfter quoted depth s := fun quoted depth =>
    ih s.length (by simp [← hn]) quoted depth s rfl
  rcases collapseFrom_cons inString inRaw afterBlank c with ⟨q, r, b, hb, hkeep⟩ | ⟨rfl, -, hdrop⟩
  · rw [hkeep]
    cases quoted with
    | true =>
      by_cases hescape : c = '\\'
      · -- the character that goes with the backslash is kept, as no blank stands before it
        obtain rfl := hb (by simp [hescape])
        subst hescape
        rcases s with _ | ⟨d, s⟩
        · rfl
        obtain ⟨q', r', b', -, hkeep'⟩ := collapseFrom_false_cons q r d
        rw [hkeep', depthAfter_escape, depthAfter_escape]
        exact ih s.length (by simp only [List.length_cons] at hn; omega) true depth s rfl q' r' b'
      · simp only [depthAfter_true_cons hescape, ih']
    | false =>
      by_cases hslash : c = '/'
      · obtain rfl := hb (by simp [hslash])
        simp only [depthAfter, ih', head?_collapseFrom_false]
      · simp only [depthAfter, ih', hslash, false_and, ↓reduceIte]
  · rw [hdrop, depthAfter_blank_cons, ih']

theorem depthAfter_collapseSpaces (depth : Nat) (s : List Char) :
    depthAfter false depth (collapseSpaces s) = depthAfter false depth s :=
  depthAfter_collapseFrom false depth s false false false

end Tincture.Format
