import Mathlib.Data.List.TakeWhile
import Mathlib.Tactic.SplitIfs
import Tincture.Theme.Basic

/-!
# Texts that are colours

A text is a colour as it is documented (`IsColorText`) if three, four, six or eight hexadecimal digits
remain of it without the white space around it and without one `#` before them. Every such text is
read. But any number of `#` may stand there, and where a channel has two digits, a plus sign may stand
for the first one (`SpellsColor`). These are the only texts that are read beyond the documented ones
(`IsLaxText`, `ofHex_accepts_iff`); any other one is an error that shows it.
-/

namespace Tincture.Color

open Text Unicode

/-! ### Digits -/

/-- A hexadecimal digit, in upper or in lower case. -/
def IsHexDigit (c : Char) : Prop :=
  '0' ≤ c ∧ c ≤ '9' ∨ 'A' ≤ c ∧ c ≤ 'F' ∨ 'a' ≤ c ∧ c ≤ 'f'

theorem isHexDigit_iff {c : Char} : IsHexDigit c ↔
    0x30 ≤ c.toNat ∧ c.toNat ≤ 0x39 ∨ 0x41 ≤ c.toNat ∧ c.toNat ≤ 0x46 ∨
      0x61 ≤ c.toNat ∧ c.toNat ≤ 0x66 :=
  Iff.rfl

theorem isSome_hexValue?_iff {c : Char} : (hexValue? c).isSome = true ↔ IsHexDigit c := by
  rw [isHexDigit_iff]
  unfold hexValue?
  dsimp only
  split_ifs with hdigit hupper hlower
  · simp [hdigit]
  · simp [hupper]
  · simp [hlower]
  · simp [hdigit, hupper, hlower]

theorem IsHexDigit.ne_plus {c : Char} (h : IsHexDigit c) : c ≠ '+' := by
  rintro rfl
  exact absurd h (by unfold IsHexDigit; decide)

theorem IsHexDigit.ne_sign {c : Char} (h : IsHexDigit c) : c ≠ '#' := by
  rintro rfl
  exact absurd h (by unfold IsHexDigit; decide)

/-- Three, four, six or eight hexadecimal digits. -/
structure IsColorDigits (digits : List Char) : Prop where
  length : digits.length ∈ [3, 4, 6, 8]
  hex : ∀ d ∈ digits, IsHexDigit d

/-- The characters of channels that have two each. -/
def pairDigits (channels : List (Char × Char)) : List Char :=
  channels.flatMap fun p => [p.1, p.2]

/-- What is read as the digits of a colour: three or four of them, or three or four pairs, of which
each may begin with a plus sign. -/
inductive SpellsColor : List Char → Prop where
  | short {digits : List Char} (length : digits.length ∈ [3, 4]) (hex : ∀ d ∈ digits, IsHexDigit d) :
    SpellsColor digits
  | full {channels : List (Char × Char)} (length : channels.length ∈ [3, 4])
    (hex : ∀ p ∈ channels, (p.1 = '+' ∨ IsHexDigit p.1) ∧ IsHexDigit p.2) :
    SpellsColor (pairDigits channels)

theorem length_pairDigits (channels : List (Char × Char)) :
    (pairDigits channels).length = 2 * channels.length := by
  induction channels with
  | nil => rfl
  | cons p channels ih =>
    have hcons : pairDigits (p :: channels) = p.1 :: p.2 :: pairDigits channels := rfl
    rw [hcons, List.length_cons, List.length_cons, ih, List.length_cons]
    omega

theorem mem_pairDigits_iff {channels : List (Char × Char)} {c : Char} :
    c ∈ pairDigits channels ↔ ∃ p ∈ channels, c = p.1 ∨ c = p.2 := by
  simp [pairDigits]

theorem isSome_short?_iff {a : Char} : (short? a).isSome = true ↔ IsHexDigit a := by
  rw [short?, Option.isSome_map, isSome_hexValue?_iff]

theorem isSome_channel?_iff {a b : Char} :
    (channel? a b).isSome = true ↔ (a = '+' ∨ IsHexDigit a) ∧ IsHexDigit b := by
  rw [← isSome_hexValue?_iff, ← isSome_hexValue?_iff, channel?]
  by_cases ha : a = '+'
  · cases hb : hexValue? b <;> simp [ha]
  · cases hhigh : hexValue? a <;> cases hb : hexValue? b <;> simp [ha]

/-- A step that is followed by steps of which none depends on it. -/
theorem isSome_bind_iff {α β : Type} {x : Option α} {f : α → Option β} {p : Prop}
    (h : ∀ a, (f a).isSome = true ↔ p) : (x >>= f).isSome = true ↔ x.isSome = true ∧ p := by
  cases x with
  | none => simp
  | some a => simpa using h a

theorem isSome_ofDigits?_three_iff {r g b : Char} :
    (ofDigits? [r, g, b]).isSome = true ↔ ∀ d ∈ [r, g, b], IsHexDigit d := by
  refine (isSome_bind_iff fun _ => isSome_bind_iff fun _ => isSome_bind_iff fun _ =>
    iff_of_true rfl trivial).trans ?_
  simp [isSome_short?_iff]

theorem isSome_ofDigits?_four_iff {r g b a : Char} :
    (ofDigits? [r, g, b, a]).isSome = true ↔ ∀ d ∈ [r, g, b, a], IsHexDigit d := by
  refine (isSome_bind_iff fun _ => isSome_bind_iff fun _ => isSome_bind_iff fun _ =>
    isSome_bind_iff fun _ => iff_of_true rfl trivial).trans ?_
  simp [isSome_short?_iff]

theorem isSome_ofDigits?_six_iff {r₁ r₂ g₁ g₂ b₁ b₂ : Char} :
    (ofDigits? [r₁, r₂, g₁, g₂, b₁, b₂]).isSome = true ↔
      ∀ p ∈ [(r₁, r₂), (g₁, g₂), (b₁, b₂)], (p.1 = '+' ∨ IsHexDigit p.1) ∧ IsHexDigit p.2 := by
  refine (isSome_bind_iff fun _ => isSome_bind_iff fun _ => isSome_bind_iff fun _ =>
    iff_of_true rfl trivial).trans ?_
  simp [isSome_channel?_iff]

theorem isSome_ofDigits?_eight_iff {r₁ r₂ g₁ g₂ b₁ b₂ a₁ a₂ : Char} :
    (ofDigits? [r₁, r₂, g₁, g₂, b₁, b₂, a₁, a₂]).isSome = true ↔
      ∀ p ∈ [(r₁, r₂), (g₁, g₂), (b₁, b₂), (a₁, a₂)],
        (p.1 = '+' ∨ IsHexDigit p.1) ∧ IsHexDigit p.2 := by
  refine (isSome_bind_iff fun _ => isSome_bind_iff fun _ => isSome_bind_iff fun _ =>
    isSome_bind_iff fun _ => iff_of_true rfl trivial).trans ?_
  simp [isSome_channel?_iff]

theorem length_mem_three_four {α : Type} {l : List α} (h : l.length ∈ [3, 4]) :
    (∃ a b c, l = [a, b, c]) ∨ ∃ a b c d, l = [a, b, c, d] := by
  match l, h with
  | [a, b, c], _ => exact .inl ⟨a, b, c, rfl⟩
  | [a, b, c, d], _ => exact .inr ⟨a, b, c, d, rfl⟩

theorem isSome_ofDigits?_iff {digits : List Char} :
    (ofDigits? digits).isSome = true ↔ SpellsColor digits := by
  constructor
  · intro h
    unfold ofDigits? at h
    split at h
    · exact .short (by simp) (isSome_ofDigits?_three_iff.mp h)
    · exact .short (by simp) (isSome_ofDigits?_four_iff.mp h)
    · rename_i r₁ r₂ g₁ g₂ b₁ b₂
      show SpellsColor (pairDigits [(r₁, r₂), (g₁, g₂), (b₁, b₂)])
      exact .full (by simp) (isSome_ofDigits?_six_iff.mp h)
    · rename_i r₁ r₂ g₁ g₂ b₁ b₂ a₁ a₂
      show SpellsColor (pairDigits [(r₁, r₂), (g₁, g₂), (b₁, b₂), (a₁, a₂)])
      exact .full (by simp) (isSome_ofDigits?_eight_iff.mp h)
    · cases h
  · intro h
    cases h with
    | short hlength hhex =>
      rcases length_mem_three_four hlength with ⟨r, g, b, rfl⟩ | ⟨r, g, b, a, rfl⟩
      · exact isSome_ofDigits?_three_iff.mpr hhex
      · exact isSome_ofDigits?_four_iff.mpr hhex
    | full hlength hhex =>
      rcases length_mem_three_four hlength with ⟨r, g, b, rfl⟩ | ⟨r, g, b, a, rfl⟩
      · exact isSome_ofDigits?_six_iff.mpr hhex
      · exact isSome_ofDigits?_eight_iff.mpr hhex

theorem SpellsColor.not_mem_sign {digits : List Char} (h : SpellsColor digits) : '#' ∉ digits := by
  intro hsign
  cases h with
  | short _ hhex => exact (hhex _ hsign).ne_sign rfl
  | full _ hhex =>
    obtain ⟨p, hp, heq⟩ := mem_pairDigits_iff.mp hsign
    obtain ⟨hhigh, hlow⟩ := hhex p hp
    rcases heq with heq | heq
    · rw [← heq] at hhigh
      exact hhigh.elim (by decide) fun hhigh => hhigh.ne_sign rfl
    · rw [← heq] at hlow
      exact hlow.ne_sign rfl

theorem IsColorDigits.not_mem_plus {digits : List Char} (h : IsColorDigits digits) : '+' ∉ digits :=
  fun hplus => (h.hex _ hplus).ne_plus rfl

theorem exists_pairDigits {digits : List Char} (h : digits.length ∈ [6, 8]) :
    ∃ channels, channels.length ∈ [3, 4] ∧ digits = pairDigits channels := by
  match digits, h with
  | [r₁, r₂, g₁, g₂, b₁, b₂], _ => exact ⟨[(r₁, r₂), (g₁, g₂), (b₁, b₂)], by simp, rfl⟩
  | [r₁, r₂, g₁, g₂, b₁, b₂, a₁, a₂], _ =>
    exact ⟨[(r₁, r₂), (g₁, g₂), (b₁, b₂), (a₁, a₂)], by simp, rfl⟩

theorem IsColorDigits.spellsColor {digits : List Char} (h : IsColorDigits digits) :
    SpellsColor digits := by
  have hlength : digits.length ∈ [3, 4] ∨ digits.length ∈ [6, 8] := by
    simpa [or_assoc] using h.length
  rcases hlength with hlength | hlength
  · exact .short hlength h.hex
  · obtain ⟨channels, hchannels, rfl⟩ := exists_pairDigits hlength
    refine .full hchannels fun p hp => ⟨.inr ?_, ?_⟩
    · exact h.hex _ (mem_pairDigits_iff.mpr ⟨p, hp, .inl rfl⟩)
    · exact h.hex _ (mem_pairDigits_iff.mpr ⟨p, hp, .inr rfl⟩)

/-- Without a plus sign, only the digits of a colour are read. -/
theorem SpellsColor.isColorDigits {digits : List Char} (h : SpellsColor digits) (hplus : '+' ∉ digits) :
    IsColorDigits digits := by
  cases h with
  | short hlength hhex =>
    refine ⟨?_, hhex⟩
    simp only [List.mem_cons, List.not_mem_nil, or_false] at hlength ⊢
    omega
  | full hlength hhex =>
    refine ⟨?_, fun d hd => ?_⟩
    · simp only [length_pairDigits, List.mem_cons, List.not_mem_nil, or_false] at hlength ⊢
      omega
    · obtain ⟨p, hp, heq⟩ := mem_pairDigits_iff.mp hd
      obtain ⟨hhigh, hlow⟩ := hhex p hp
      rcases heq with rfl | rfl
      · exact hhigh.resolve_left fun heq => hplus (heq ▸ hd)
      · exact hlow

/-! ### Texts -/

/-- A text without one `#` at its start. -/
def dropSign : List Char → List Char
  | '#' :: rest => rest
  | text => text

/-- A text that is documented to be a colour. -/
def IsColorText (text : List Char) : Prop :=
  IsColorDigits (dropSign (trim text))

/-- A text that is read without being documented to be a colour: there are two or more `#` before the
digits, or a plus sign is among them. -/
def IsLaxText (text : List Char) : Prop :=
  ∃ signs digits, trim text = signs ++ digits ∧ (∀ c ∈ signs, c = '#') ∧ SpellsColor digits ∧
    (2 ≤ signs.length ∨ '+' ∈ digits)

theorem dropWhile_signs_append {signs digits : List Char} (hsigns : ∀ c ∈ signs, c = '#')
    (hdigits : '#' ∉ digits) : (signs ++ digits).dropWhile (· == '#') = digits := by
  rw [List.dropWhile_append_of_pos fun c hc => by simpa using hsigns c hc]
  cases digits with
  | nil => rfl
  | cons d digits =>
    obtain ⟨hd, -⟩ := List.ne_and_not_mem_of_not_mem_cons hdigits
    exact List.dropWhile_cons_of_neg (by simpa using hd.symm)

/-- What is read is a spelled colour behind any number of `#`. -/
theorem isSome_ofHex?_iff {text : List Char} :
    (ofHex? text).isSome = true ↔
      ∃ signs digits, trim text = signs ++ digits ∧ (∀ c ∈ signs, c = '#') ∧ SpellsColor digits := by
  rw [ofHex?, isSome_ofDigits?_iff]
  constructor
  · intro h
    exact ⟨_, _, List.takeWhile_append_dropWhile.symm,
      fun c hc => by simpa using List.mem_takeWhile_imp hc, h⟩
  · rintro ⟨signs, digits, htrim, hsigns, hdigits⟩
    rwa [htrim, dropWhile_signs_append hsigns hdigits.not_mem_sign]

theorem exists_eq_append_dropSign (text : List Char) :
    ∃ signs, text = signs ++ dropSign text ∧ (∀ c ∈ signs, c = '#') ∧ signs.length ≤ 1 := by
  unfold dropSign
  split
  · exact ⟨['#'], rfl, by simp, by simp⟩
  · exact ⟨[], rfl, by simp, by simp⟩

theorem dropSign_append {signs digits : List Char} (hsigns : ∀ c ∈ signs, c = '#')
    (hlength : signs.length ≤ 1) (hdigits : '#' ∉ digits) : dropSign (signs ++ digits) = digits := by
  rcases signs with _ | ⟨c, signs⟩
  · rw [List.nil_append]
    unfold dropSign
    split
    · exact absurd List.mem_cons_self hdigits
    · rfl
  · obtain rfl : c = '#' := hsigns c List.mem_cons_self
    obtain rfl : signs = [] := List.length_eq_zero_iff.mp (by simpa using hlength)
    rfl

/-- A documented text has at most one `#` before its digits, and no plus sign among them. -/
theorem isColorText_iff {text : List Char} :
    IsColorText text ↔ ∃ signs digits, trim text = signs ++ digits ∧ (∀ c ∈ signs, c = '#') ∧
      SpellsColor digits ∧ signs.length ≤ 1 ∧ '+' ∉ digits := by
  constructor
  · intro h
    obtain ⟨signs, htext, hsigns, hlength⟩ := exists_eq_append_dropSign (trim text)
    exact ⟨signs, _, htext, hsigns, h.spellsColor, hlength, h.not_mem_plus⟩
  · rintro ⟨signs, digits, htrim, hsigns, hdigits, hlength, hplus⟩
    rw [IsColorText, htrim, dropSign_append hsigns hlength hdigits.not_mem_sign]
    exact hdigits.isColorDigits hplus

/-- **A text is read as a colour** just if it is documented to be one, or if it is one of those that
have more `#` before their digits or a plus sign among them; any other text is an error that shows
it. -/
theorem ofHex_accepts_iff (text : String) :
    ((∃ c, ofHex text = .ok c) ↔ IsColorText text.toList ∨ IsLaxText text.toList) ∧
      ¬ (IsColorText text.toList ∧ IsLaxText text.toList) ∧
      ((¬ ∃ c, ofHex text = .ok c) → ofHex text = .error (.invalidColor text)) := by
  refine ⟨?_, ?_, ?_⟩
  · have hread : (∃ c, ofHex text = .ok c) ↔ (ofHex? text.toList).isSome = true := by
      cases h : ofHex? text.toList <;> simp [ofHex, h]
    rw [hread, isSome_ofHex?_iff, isColorText_iff, IsLaxText]
    constructor
    · rintro ⟨signs, digits, htrim, hsigns, hdigits⟩
      by_cases hlax : 2 ≤ signs.length ∨ '+' ∈ digits
      · exact .inr ⟨signs, digits, htrim, hsigns, hdigits, hlax⟩
      · obtain ⟨hlength, hplus⟩ := not_or.mp hlax
        exact .inl ⟨signs, digits, htrim, hsigns, hdigits, by omega, hplus⟩
    · rintro (⟨signs, digits, htrim, hsigns, hdigits, -⟩ | ⟨signs, digits, htrim, hsigns, hdigits, -⟩)
      · exact ⟨signs, digits, htrim, hsigns, hdigits⟩
      · exact ⟨signs, digits, htrim, hsigns, hdigits⟩
  · rintro ⟨hcolor, signs', digits', htrim', hsigns', hdigits', hlax⟩
    obtain ⟨signs, digits, htrim, hsigns, hdigits, hlength, hplus⟩ := isColorText_iff.mp hcolor
    -- there is one way to cut a text behind its signs
    have hdigitsEq : digits = digits' := by
      rw [← dropWhile_signs_append hsigns hdigits.not_mem_sign, ← htrim, htrim',
        dropWhile_signs_append hsigns' hdigits'.not_mem_sign]
    subst hdigitsEq
    have hsignsEq : signs = signs' := List.append_cancel_right (htrim.symm.trans htrim')
    subst hsignsEq
    rcases hlax with hlax | hlax
    · omega
    · exact hplus hlax
  · intro hnone
    cases h : ofHex? text.toList with
    | none => rw [ofHex, h]
    | some c => exact absurd ⟨c, by rw [ofHex, h]⟩ hnone

/-- Three pairs of a plus sign and a digit are read as a colour. -/
theorem not_always_documented : ¬ ∀ text, (∃ c, ofHex text = .ok c) ↔ IsColorText text.toList := by
  intro h
  have hcolor : IsColorText "+1+2+3".toList := (h "+1+2+3").mp ⟨⟨1, 2, 3, 255⟩, by decide⟩
  exact hcolor.not_mem_plus (by decide)

end Tincture.Color
