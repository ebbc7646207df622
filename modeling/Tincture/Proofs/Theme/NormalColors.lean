import Mathlib.Tactic.IntervalCases
import Tincture.Proofs.Text.Trimming
import Tincture.Proofs.Theme.ColorTexts

/-!
# Normal forms of colours

A colour is read back from its text. What is written for the colour of a text is the `normalForm` of
the text's digits: all of them in upper case, short ones twice, and those of the opacity only if they
are there and the colour is not opaque. So a text in normal form stays as it is
(`round_trips_in_normalForm`).

Reader and writer choose the form by different things, one by how many digits there are and the other
by the opacity. They meet in `exists_ofDigits?`: the digits that were read, short ones twice
(`ofDigits?_doubled`), are those of the channels, where the ones of the opacity may be missing.
-/

namespace Tincture.Color

open Text Unicode

/-- The digits of all channels that are written, two for each of them, in upper case. -/
def fullDigits (digits : List Char) : List Char :=
  (if digits.length ≤ 4 then digits.flatMap fun d => [d, d] else digits).map Char.toUpper

/-- The normal form of a colour that is written in digits: a `#`, six digits, and two more for the
opacity if it is written and not full. -/
def normalForm (digits : List Char) : List Char :=
  let full := fullDigits digits
  '#' :: full.take 6 ++ if full.drop 6 = ['F', 'F'] then [] else full.drop 6

/-- The text of the colour that a text spells. -/
def normalize (text : String) : Except ThemeError String :=
  (ofHex text).map fun c => String.ofList c.toHex

/-! ### Digits -/

/-- A digit stands for a number, which is written as the digit in upper case. -/
theorem IsHexDigit.exists_value {d : Char} (h : IsHexDigit d) :
    ∃ n < 16, hexValue? d = some n ∧ upperDigit n = d.toUpper := by
  obtain ⟨code, hcode⟩ : ∃ code, d.toNat = code := ⟨_, rfl⟩
  obtain rfl : d = Char.ofNat code := by rw [← hcode, Char.ofNat_toNat]
  rw [isHexDigit_iff, hcode] at h
  clear hcode
  rcases h with ⟨hlow, hhigh⟩ | ⟨hlow, hhigh⟩ | ⟨hlow, hhigh⟩
  all_goals interval_cases code <;> exact ⟨_, by decide, rfl, by decide⟩

theorem hexValue?_upperDigit : ∀ n < 16, hexValue? (upperDigit n) = some n := by
  decide

theorem isHexDigit_upperDigit {n : Nat} (h : n < 16) : IsHexDigit (upperDigit n) := by
  rw [← isSome_hexValue?_iff, hexValue?_upperDigit n h, Option.isSome_some]

instance (c : Char) : Decidable (IsHexDigit c) :=
  decidable_of_iff _ isSome_hexValue?_iff

theorem IsHexDigit.not_blank {d : Char} (h : IsHexDigit d) : isBlank d = false := by
  rw [isHexDigit_iff] at h
  refine Bool.eq_false_iff.mpr fun hblank => ?_
  simp only [isBlank, Bool.or_eq_true, Bool.and_eq_true, decide_eq_true_eq, beq_iff_eq] at hblank
  omega

/-! ### Channels -/

/-- Two digits count as one number. -/
theorem channel?_of_values {a b : Char} {m n : Nat} (hplus : a ≠ '+') (hm : hexValue? a = some m)
    (hn : hexValue? b = some n) : channel? a b = some (UInt8.ofNat (m * 16 + n)) := by
  rw [channel?, if_neg hplus, hm, hn]
  rfl

/-- A channel is read back from its digits. -/
theorem channel?_upperDigit (x : UInt8) :
    channel? (upperDigit (x.toNat / 16)) (upperDigit (x.toNat % 16)) = some x := by
  have hx : x.toNat < 256 := x.toNat_lt
  have hhigh := hexValue?_upperDigit (x.toNat / 16) (by omega)
  have hlow := hexValue?_upperDigit (x.toNat % 16) (by omega)
  have hplus : upperDigit (x.toNat / 16) ≠ '+' :=
    (isHexDigit_upperDigit (by omega)).ne_plus
  have hsum : x.toNat / 16 * 16 + x.toNat % 16 = x.toNat := by omega
  rw [channel?_of_values hplus hhigh hlow, hsum, UInt8.ofNat_toNat]

theorem channelDigits_injective : Function.Injective channelDigits := by
  intro x y h
  obtain ⟨hhigh, hlow⟩ : _ ∧ _ := by simpa [channelDigits] using h
  have hx := channel?_upperDigit x
  rw [hhigh, hlow, channel?_upperDigit y] at hx
  exact (Option.some.inj hx).symm

theorem channelDigits_eq_full_iff {x : UInt8} : channelDigits x = ['F', 'F'] ↔ x = 255 :=
  channelDigits_injective.eq_iff' (by decide)

theorem isHexDigit_of_mem_channelDigits {x : UInt8} {d : Char} (h : d ∈ channelDigits x) :
    IsHexDigit d := by
  have hx : x.toNat < 256 := x.toNat_lt
  obtain rfl | rfl : d = upperDigit (x.toNat / 16) ∨ d = upperDigit (x.toNat % 16) := by
    simpa [channelDigits] using h
  · exact isHexDigit_upperDigit (by omega)
  · exact isHexDigit_upperDigit (by omega)

/-- Two digits are read as the channel that is written with them. -/
theorem exists_channel? {a b : Char} (ha : IsHexDigit a) (hb : IsHexDigit b) :
    ∃ x, channel? a b = some x ∧ channelDigits x = [a.toUpper, b.toUpper] := by
  obtain ⟨m, hm, hma, hupperA⟩ := ha.exists_value
  obtain ⟨n, hn, hnb, hupperB⟩ := hb.exists_value
  have hsize : (UInt8.ofNat (m * 16 + n)).toNat = m * 16 + n :=
    UInt8.toNat_ofNat_of_lt' (by simp only [UInt8.size]; omega)
  refine ⟨_, channel?_of_values ha.ne_plus hma hnb, ?_⟩
  have hhigh : (m * 16 + n) / 16 = m := by omega
  have hlow : (m * 16 + n) % 16 = n := by omega
  rw [channelDigits, hsize, hhigh, hlow, hupperA, hupperB]

/-- A short digit is read as two of it. -/
theorem short?_eq_channel? {a : Char} (h : IsHexDigit a) : short? a = channel? a a := by
  obtain ⟨n, -, hn, -⟩ := h.exists_value
  have hdouble : n * 17 = n * 16 + n := by omega
  rw [channel?_of_values h.ne_plus hn hn, short?, hn, Option.map_some, hdouble]

/-- Short digits are read as the digits with each of them twice. -/
theorem ofDigits?_doubled {digits : List Char} (hlength : digits.length ∈ [3, 4])
    (hhex : ∀ d ∈ digits, IsHexDigit d) :
    ofDigits? (digits.flatMap fun d => [d, d]) = ofDigits? digits := by
  rcases length_mem_three_four hlength with ⟨r, g, b, rfl⟩ | ⟨r, g, b, a, rfl⟩
  · have hr := short?_eq_channel? (hhex r (by simp))
    have hg := short?_eq_channel? (hhex g (by simp))
    have hb := short?_eq_channel? (hhex b (by simp))
    simp [ofDigits?, hr, hg, hb]
  · have hr := short?_eq_channel? (hhex r (by simp))
    have hg := short?_eq_channel? (hhex g (by simp))
    have hb := short?_eq_channel? (hhex b (by simp))
    have ha := short?_eq_channel? (hhex a (by simp))
    simp [ofDigits?, hr, hg, hb, ha]

/-- Two digits for each channel are read as the colour that is written with them; without digits for
the opacity it is full. -/
theorem exists_ofDigits?_of_full {digits : List Char} (hlength : digits.length ∈ [6, 8])
    (hhex : ∀ d ∈ digits, IsHexDigit d) :
    ∃ c opacity, ofDigits? digits = some c ∧
      digits.map Char.toUpper =
        channelDigits c.red ++ channelDigits c.green ++ channelDigits c.blue ++ opacity ∧
      (opacity = [] ∧ c.alpha = 255 ∨ opacity = channelDigits c.alpha) := by
  match digits, hlength with
  | [r₁, r₂, g₁, g₂, b₁, b₂], _ =>
    obtain ⟨red, hr, hred⟩ := exists_channel? (hhex r₁ (by simp)) (hhex r₂ (by simp))
    obtain ⟨green, hg, hgreen⟩ := exists_channel? (hhex g₁ (by simp)) (hhex g₂ (by simp))
    obtain ⟨blue, hb, hblue⟩ := exists_channel? (hhex b₁ (by simp)) (hhex b₂ (by simp))
    refine ⟨⟨red, green, blue, 255⟩, [], by simp [ofDigits?, hr, hg, hb], ?_, .inl ⟨rfl, rfl⟩⟩
    rw [hred, hgreen, hblue]
    rfl
  | [r₁, r₂, g₁, g₂, b₁, b₂, a₁, a₂], _ =>
    obtain ⟨red, hr, hred⟩ := exists_channel? (hhex r₁ (by simp)) (hhex r₂ (by simp))
    obtain ⟨green, hg, hgreen⟩ := exists_channel? (hhex g₁ (by simp)) (hhex g₂ (by simp))
    obtain ⟨blue, hb, hblue⟩ := exists_channel? (hhex b₁ (by simp)) (hhex b₂ (by simp))
    obtain ⟨alpha, ha, halpha⟩ := exists_channel? (hhex a₁ (by simp)) (hhex a₂ (by simp))
    refine ⟨⟨red, green, blue, alpha⟩, _, by simp [ofDigits?, hr, hg, hb, ha], ?_, .inr rfl⟩
    rw [hred, hgreen, hblue, halpha]
    rfl

/-! ### Reading what was written -/

theorem trim_of_not_blank {s : List Char} (h : ∀ c ∈ s, isBlank c = false) : trim s = s := by
  refine trim_eq_self_iff.mpr ⟨?_, trimEnd_eq_self_iff.mpr fun c hc => h c (List.mem_of_getLast? hc)⟩
  cases s with
  | nil => rfl
  | cons c s => exact trimStart_cons_of_not_isBlank (h c List.mem_cons_self) s

/-- A `#` before digits does not count. -/
theorem ofHex?_append {signs digits : List Char} (hsigns : signs ∈ [[], ['#']])
    (hdigits : ∀ d ∈ digits, IsHexDigit d) : ofHex? (signs ++ digits) = ofDigits? digits := by
  have hsign : ∀ c ∈ signs, c = '#' := by
    rcases List.mem_pair.mp hsigns with rfl | rfl <;> simp
  have hblank : ∀ c ∈ signs ++ digits, isBlank c = false := by
    intro c hc
    rcases List.mem_append.mp hc with hc | hc
    · rw [hsign c hc]
      decide
    · exact (hdigits c hc).not_blank
  rw [ofHex?, trim_of_not_blank hblank,
    dropWhile_signs_append hsign fun h => (hdigits _ h).ne_sign rfl]

theorem ofHex?_toHex (c : Color) : ofHex? c.toHex = some c := by
  have hhex : ∀ d ∈ c.toHex.tail, IsHexDigit d := by
    intro d hd
    simp only [toHex, List.cons_append, List.tail_cons, List.mem_append] at hd
    rcases hd with ((hred | hgreen) | hblue) | hopacity
    · exact isHexDigit_of_mem_channelDigits hred
    · exact isHexDigit_of_mem_channelDigits hgreen
    · exact isHexDigit_of_mem_channelDigits hblue
    · split at hopacity
      · cases hopacity
      · exact isHexDigit_of_mem_channelDigits hopacity
  have hread : ofDigits? c.toHex.tail = some c := by
    obtain ⟨r, g, b, a⟩ := c
    by_cases ha : a = 255
    · simp [toHex, channelDigits, ofDigits?, channel?_upperDigit, ha]
    · simp [toHex, channelDigits, ofDigits?, channel?_upperDigit, ha]
  have hsign : ofHex? (['#'] ++ c.toHex.tail) = ofDigits? c.toHex.tail :=
    ofHex?_append (by simp) hhex
  exact hsign.trans hread

/-- **Digits are read as the colour that is written with them.** -/
theorem exists_ofDigits? {digits : List Char} (h : IsColorDigits digits) :
    ∃ c opacity, ofDigits? digits = some c ∧
      fullDigits digits =
        channelDigits c.red ++ channelDigits c.green ++ channelDigits c.blue ++ opacity ∧
      (opacity = [] ∧ c.alpha = 255 ∨ opacity = channelDigits c.alpha) := by
  obtain ⟨hlength, hhex⟩ := h
  simp only [List.mem_cons, List.not_mem_nil, or_false] at hlength
  rw [fullDigits]
  by_cases hshort : digits.length ≤ 4
  · have htwice : (digits.flatMap fun d => [d, d]).length = 2 * digits.length := by
      simp [List.length_flatMap, Nat.mul_comm]
    rw [if_pos hshort, ← ofDigits?_doubled (by simp; omega) hhex]
    refine exists_ofDigits?_of_full (by rw [htwice]; simp; omega) fun d hd => ?_
    obtain ⟨d', hd', hmem⟩ := List.mem_flatMap.mp hd
    obtain rfl : d = d' := by simpa using hmem
    exact hhex d hd'
  · rw [if_neg hshort]
    exact exists_ofDigits?_of_full (by simp; omega) hhex

/-- What is written for the colour of digits is their normal form. -/
theorem exists_toHex_eq_normalForm {digits : List Char} (h : IsColorDigits digits) :
    ∃ c, ofDigits? digits = some c ∧ c.toHex = normalForm digits := by
  obtain ⟨c, opacity, hread, hfull, hopacity⟩ := exists_ofDigits? h
  refine ⟨c, hread, ?_⟩
  have htake : (fullDigits digits).take 6 =
      channelDigits c.red ++ channelDigits c.green ++ channelDigits c.blue := by
    rw [hfull]
    rfl
  have hdrop : (fullDigits digits).drop 6 = opacity := by
    rw [hfull]
    rfl
  rw [normalForm, htake, hdrop, toHex]
  rcases hopacity with ⟨rfl, halpha⟩ | rfl
  · rw [if_pos halpha, if_neg (List.cons_ne_nil _ _).symm]
    rfl
  · simp only [channelDigits_eq_full_iff]
    rfl

theorem ofHex_of_ofHex? {text : List Char} {c : Color} (h : ofHex? text = some c) :
    ofHex (String.ofList text) = .ok c := by
  rw [ofHex, String.toList_ofList, h]

/-- **A colour is read back from its text**, and the text of the colour that digits spell is their
normal form, which stays as it is. -/
theorem round_trips_in_normalForm :
    (∀ c : Color, ofHex (String.ofList c.toHex) = .ok c) ∧
      ∀ signs digits, signs ∈ [[], ['#']] → IsColorDigits digits →
        normalize (String.ofList (signs ++ digits)) = .ok (String.ofList (normalForm digits)) ∧
        normalize (String.ofList (normalForm digits)) = .ok (String.ofList (normalForm digits)) := by
  have hback : ∀ c : Color, ofHex (String.ofList c.toHex) = .ok c :=
    fun c => ofHex_of_ofHex? (ofHex?_toHex c)
  refine ⟨hback, fun signs digits hsigns hdigits => ?_⟩
  obtain ⟨c, hread, hnormal⟩ := exists_toHex_eq_normalForm hdigits
  have hfirst : ofHex (String.ofList (signs ++ digits)) = .ok c :=
    ofHex_of_ofHex? ((ofHex?_append hsigns hdigits.hex).trans hread)
  constructor
  · rw [normalize, hfirst, ← hnormal]
    rfl
  · rw [← hnormal, normalize, hback c]
    rfl

/-- Short digits with a full opacity. -/
theorem round_trips_in_normalForm_short :
    ['#'] ∈ [[], ['#']] ∧ IsColorDigits ['a', 'B', 'c', 'f'] ∧ normalize "#aBcf" = .ok "#AABBCC" ∧
      normalize "#AABBCC" = .ok "#AABBCC" := by
  have hsigns : ['#'] ∈ [[], ['#']] := by decide
  have hdigits : IsColorDigits ['a', 'B', 'c', 'f'] := by
    refine ⟨by decide, ?_⟩
    simp only [List.forall_mem_cons, List.not_mem_nil, IsEmpty.forall_iff, implies_true, and_true]
    decide
  have h := round_trips_in_normalForm.2 ['#'] ['a', 'B', 'c', 'f'] hsigns hdigits
  have hform : String.ofList (normalForm ['a', 'B', 'c', 'f']) = "#AABBCC" := by decide
  rw [hform] at h
  exact ⟨hsigns, hdigits, h⟩

end Tincture.Color
