import Mathlib.Data.List.Basic

/-!
# The order of bytes

Texts are compared by their characters, one after the other. UTF-8 is made so that this is the order
of their bytes as well (`utf8_lt_iff`): of two characters the smaller one has the smaller bytes,
whatever stands behind them (`utf8EncodeChar_append_lt`), as no character's bytes start those of
another one.
-/

namespace Tincture.Text

/-- The bytes of a text in UTF-8. -/
def utf8 (s : List Char) : List UInt8 :=
  s.flatMap String.utf8EncodeChar

@[simp] theorem utf8_nil : utf8 [] = [] := rfl

@[simp] theorem utf8_cons (c : Char) (s : List Char) :
    utf8 (c :: s) = String.utf8EncodeChar c ++ utf8 s := rfl

/-- The order of bytes that are given by their numbers. -/
theorem ofNat_lt_ofNat_iff {m n : Nat} (hm : m < 256) (hn : n < 256) :
    UInt8.ofNat m < UInt8.ofNat n ↔ m < n := by
  rw [UInt8.lt_iff_toNat_lt, UInt8.toNat_ofNat_of_lt' hm, UInt8.toNat_ofNat_of_lt' hn]

theorem ofNat_inj_iff {m n : Nat} (hm : m < 256) (hn : n < 256) :
    UInt8.ofNat m = UInt8.ofNat n ↔ m = n := by
  rw [← UInt8.toNat_inj, UInt8.toNat_ofNat_of_lt' hm, UInt8.toNat_ofNat_of_lt' hn]

/-- Of two numbers the smaller one has the smaller last six bits, or less before them. -/
theorem lt_iff_sixBits {m n : Nat} :
    m < n ↔ m / 64 < n / 64 ∨ m / 64 = n / 64 ∧ m % 64 < n % 64 := by
  omega

/-- **The bytes of the smaller character** are smaller, whatever stands behind the characters. -/
theorem utf8EncodeChar_append_lt {c d : Char} (h : c < d) (s t : List UInt8) :
    String.utf8EncodeChar c ++ s < String.utf8EncodeChar d ++ t := by
  have hlt : c.val.toNat < d.val.toNat := h
  have hmax : d.val.toNat < 0x110000 := d.valid.elim (by omega) (by omega)
  unfold String.utf8EncodeChar
  dsimp only
  generalize c.val.toNat = m at *
  generalize d.val.toNat = n at *
  -- what a byte holds are six bits, and what is left for the first one
  have hdiv : ∀ k : Nat, k / 4096 = k / 64 / 64 ∧ k / 262144 = k / 64 / 64 / 64 := by omega
  simp only [fun k => (hdiv k).1, fun k => (hdiv k).2]
  have hlast := lt_iff_sixBits.mp hlt
  have hthird := lt_iff_sixBits (m := m / 64) (n := n / 64)
  have hsecond := lt_iff_sixBits (m := m / 64 / 64) (n := n / 64 / 64)
  -- by the number of bytes of each; those of the larger character are at least as many
  split_ifs <;> simp (disch := omega) only [List.cons_append, List.nil_append,
    List.cons_lt_cons_iff, ofNat_lt_ofNat_iff, ofNat_inj_iff] <;> omega

/-- A text that is smaller has smaller bytes. -/
theorem utf8_lt_of_lt {s t : List Char} (h : s < t) : utf8 s < utf8 t := by
  induction h with
  | nil =>
    rename_i d t
    obtain ⟨b, rest, hbytes⟩ := List.exists_cons_of_ne_nil (String.utf8EncodeChar_ne_nil (c := d))
    rw [utf8_nil, utf8_cons, hbytes]
    exact List.nil_lt_cons b (rest ++ utf8 t)
  | rel hlt => exact utf8EncodeChar_append_lt hlt _ _
  | cons _ ih => exact List.append_left_lt ih

/-- **Texts are ordered as their bytes are.** -/
theorem utf8_lt_iff {s t : List Char} : utf8 s < utf8 t ↔ s < t := by
  refine ⟨fun h => ?_, utf8_lt_of_lt⟩
  by_contra hnot
  rcases List.le_iff_lt_or_eq.mp (List.not_lt.mp hnot) with hlt | rfl
  · exact List.lt_asymm h (utf8_lt_of_lt hlt)
  · exact List.lt_irrefl _ h

end Tincture.Text
