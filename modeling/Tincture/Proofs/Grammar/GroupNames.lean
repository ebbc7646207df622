import Mathlib.Data.List.Induction
import Tincture.Grammar.Compile
import Tincture.Proofs.Grammar.WrittenGrammars

/-!
# The names of captured groups

Captures are written under keys, and a key is the number of a group if it spells a word
(`Text.SpellsWord`, `word?_eq_some_iff`): `1`, `01` and `+1` all do. Of the keys of one number the
greatest one gives the name, as keys are gone through in their order and later ones replace earlier
ones. A number that no key spells has no name, and the table of names is no longer than it has to be.

A table has at most `CaptureNames.capacity` names, and there is none if a key spells a number from
there on, up to the largest word: the first such key breaks off (`captureNames_greatest_key`). What the
names are after some keys (`TakenFrom`) is handed on from key to key as long as their numbers have room
(`TakenFrom.concat`).
-/

namespace Tincture

open Text

/-! ### Words in decimal digits -/

/-- A text spells a word: decimal digits, at least one of them, which may follow a plus sign. -/
structure Text.SpellsWord (s : List Char) (n : Nat) : Prop where
  spelled : ∃ sign digits, s = sign ++ digits ∧ sign ∈ [[], ['+']] ∧ digits ≠ [] ∧
    (∀ d ∈ digits, d.isDigit = true) ∧ digitsValue digits = n
  le_maxWord : n ≤ maxWord

/-- A text without a plus sign at its start. -/
def Text.dropPlus : List Char → List Char
  | '+' :: rest => rest
  | text => text

theorem Text.word?_eq_some_iff_dropPlus {s : List Char} {n : Nat} :
    word? s = some n ↔ dropPlus s ≠ [] ∧ (∀ d ∈ dropPlus s, d.isDigit = true) ∧
      digitsValue (dropPlus s) = n ∧ n ≤ maxWord := by
  have hword : word? s = if (dropPlus s).isEmpty || !(dropPlus s).all Char.isDigit ||
      maxWord < digitsValue (dropPlus s) then none else some (digitsValue (dropPlus s)) := rfl
  rw [hword]
  constructor
  · intro h
    split at h
    · cases h
    · rename_i hgood
      obtain rfl := Option.some.inj h
      simpa [and_assoc] using hgood
  · rintro ⟨hne, hdigits, rfl, hmax⟩
    exact if_neg (by simpa [hne, hmax] using hdigits)

theorem Text.exists_eq_append_dropPlus (s : List Char) :
    ∃ sign ∈ [[], ['+']], s = sign ++ dropPlus s := by
  unfold dropPlus
  split
  · exact ⟨['+'], by simp, rfl⟩
  · exact ⟨[], by simp, rfl⟩

theorem Text.dropPlus_append {sign digits : List Char} (hsign : sign ∈ [[], ['+']])
    (hdigits : ∀ d ∈ digits, d.isDigit = true) : dropPlus (sign ++ digits) = digits := by
  rcases List.mem_pair.mp hsign with rfl | rfl
  · rw [List.nil_append]
    unfold dropPlus
    split
    · exact absurd (hdigits '+' List.mem_cons_self) (by decide)
    · rfl
  · rfl

/-- The texts that stand for words, and the words that they stand for. -/
theorem Text.word?_eq_some_iff {s : List Char} {n : Nat} : word? s = some n ↔ SpellsWord s n := by
  rw [word?_eq_some_iff_dropPlus]
  constructor
  · rintro ⟨hne, hdigits, hvalue, hmax⟩
    obtain ⟨sign, hsign, hs⟩ := exists_eq_append_dropPlus s
    exact ⟨⟨sign, _, hs, hsign, hne, hdigits, hvalue⟩, hmax⟩
  · rintro ⟨⟨sign, digits, rfl, hsign, hne, hdigits, hvalue⟩, hmax⟩
    rw [dropPlus_append hsign hdigits]
    exact ⟨hne, hdigits, hvalue, hmax⟩

instance (s : List Char) (n : Nat) : Decidable (SpellsWord s n) :=
  decidable_of_iff _ word?_eq_some_iff

theorem Text.SpellsWord.unique {s : List Char} {m n : Nat} (hm : SpellsWord s m)
    (hn : SpellsWord s n) : m = n :=
  Option.some.inj ((word?_eq_some_iff.mpr hm).symm.trans (word?_eq_some_iff.mpr hn))

/-! ### Tables of names -/

namespace CaptureNames

/-- The name that was given last counts. -/
theorem name?_set (c : CaptureNames) (n m : Nat) (name : Option String) :
    (c.set n name).name? m = if m = n then name else c.name? m := by
  have hgiven : (c.set n name).given.reverse = (n, name) :: c.given.reverse := by simp [set]
  rw [name?, hgiven, List.lookup_cons]
  by_cases hm : m = n
  · simp [hm]
  · simp [hm, beq_false_of_ne hm, name?]

theorem size_set (c : CaptureNames) (n : Nat) (name : Option String) :
    (c.set n name).size = max c.size (n + 1) := rfl

theorem getElem?_toList (c : CaptureNames) (n : Nat) :
    c.toList[n]? = if n < c.size then some (c.name? n) else none := by
  rw [toList, List.getElem?_map]
  split
  · rename_i hn
    rw [List.getElem?_range hn, Option.map_some]
  · rename_i hn
    rw [List.getElem?_eq_none (by simpa using hn), Option.map_none]

end CaptureNames

/-! ### Keys -/

/-- A key gives a group its name: of the keys that spell the number of the group it is the greatest. -/
structure CaptureSpecs.Naming (cs : CaptureSpecs) (n : Nat) (key : String) (name : Option String) :
    Prop where
  mem : (key, ⟨name⟩) ∈ cs
  spells : SpellsWord key.toList n
  greatest : ∀ e ∈ cs, SpellsWord e.1.toList n → e.1 ≤ key

/-- The numbers that a key may spell have room in a table of names. -/
def CaptureSpecs.HasRoom (key : String) : Prop :=
  ∀ n, SpellsWord key.toList n → n < CaptureNames.capacity

/-- The numbers of all keys have room in a table of names. -/
def CaptureSpecs.Fit (cs : CaptureSpecs) : Prop :=
  ∀ e ∈ cs, HasRoom e.1

/-- The first key without room in a table of names spells a number. -/
def CaptureSpecs.BreaksOff (cs : CaptureSpecs) (n : Nat) : Prop :=
  ∃ before e after, cs = before ++ e :: after ∧ Fit before ∧ SpellsWord e.1.toList n ∧
    CaptureNames.capacity ≤ n

namespace CaptureSpecs

variable {cs : CaptureSpecs} {e : String × CaptureSpec} {n : Nat} {key : String}
  {name : Option String}

theorem Ordered.of_concat (h : Ordered (cs ++ [e])) : Ordered cs :=
  (List.pairwise_append.mp h).1

/-- The last key is greater than all others. -/
theorem Ordered.lt_last (h : Ordered (cs ++ [e])) : ∀ other ∈ cs, other.1 < e.1 :=
  fun other hother => (List.pairwise_append.mp h).2.2 other hother e List.mem_cons_self

/-- A key that spells another number gives no name to the group. -/
theorem Naming.of_concat (h : Naming (cs ++ [e]) n key name) (hne : ¬ SpellsWord e.1.toList n) :
    Naming cs n key name where
  mem := by
    rcases List.mem_append.mp h.mem with hmem | hmem
    · exact hmem
    · obtain rfl := List.mem_singleton.mp hmem
      exact absurd h.spells hne
  spells := h.spells
  greatest := fun other hother => h.greatest other (List.mem_append_left _ hother)

/-- The last key gives the name if it spells the number. -/
theorem Naming.eq_last (h : Naming (cs ++ [e]) n key name) (hordered : Ordered (cs ++ [e]))
    (hlast : SpellsWord e.1.toList n) : e.2.name = name := by
  rcases List.mem_append.mp h.mem with hmem | hmem
  · have hle : e.1 ≤ key := h.greatest e (by simp) hlast
    exact absurd (hordered.lt_last _ hmem) (String.not_lt.mpr hle)
  · obtain rfl := List.mem_singleton.mp hmem
    rfl

theorem hasRoom_iff : HasRoom key ↔ ∀ n ∈ word? key.toList, n < CaptureNames.capacity := by
  simp only [HasRoom, Option.mem_def, word?_eq_some_iff]

instance (key : String) : Decidable (HasRoom key) :=
  decidable_of_iff _ hasRoom_iff.symm

theorem fit_concat : Fit (cs ++ [e]) ↔ Fit cs ∧ HasRoom e.1 := by
  simp [Fit, or_imp, forall_and]

/-- Some key is the first one without room, unless all have room. -/
theorem exists_breaksOff (h : ¬ Fit cs) : ∃ n, cs.BreaksOff n := by
  induction cs using List.reverseRecOn with
  | nil => exact absurd (fun e he => absurd he List.not_mem_nil) h
  | append_singleton cs e ih =>
    by_cases hfit : Fit cs
    · have hroom : ¬ HasRoom e.1 := fun hroom => h (fit_concat.mpr ⟨hfit, hroom⟩)
      simp only [HasRoom, not_forall, Nat.not_lt] at hroom
      obtain ⟨n, hn, hcapacity⟩ := hroom
      exact ⟨n, cs, e, [], rfl, hfit, hn, hcapacity⟩
    · obtain ⟨n, before, other, after, rfl, hbreaks⟩ := ih hfit
      exact ⟨n, before, other, after ++ [e], by simp, hbreaks⟩

end CaptureSpecs

namespace Compile

/-! ### One key after the other -/

/-- The names with what one more key says. -/
def nameGroup (names : CaptureNames) (e : String × CaptureSpec) :
    Except CompileError CaptureNames :=
  match word? e.1.toList with
  | none => .ok names
  | some n =>
    if names.size ≤ n ∧ CaptureNames.capacity ≤ n then .error (.captureOverflow n)
    else .ok (names.set n e.2.name)

theorem captureNames_some (cs : CaptureSpecs) :
    captureNames (some cs) = cs.foldlM nameGroup {} := rfl

theorem captureNames_concat {cs : CaptureSpecs} {names : CaptureNames}
    (h : captureNames (some cs) = .ok names) (e : String × CaptureSpec) :
    captureNames (some (cs ++ [e])) = nameGroup names e := by
  rw [captureNames_some, List.foldlM_append, ← captureNames_some, h]
  exact bind_pure (nameGroup names e)

/-- What the names are after some keys. -/
structure TakenFrom (cs : CaptureSpecs) (names : CaptureNames) : Prop where
  named : ∀ n key name, cs.Naming n key name → names.name? n = name
  unnamed : ∀ n, (∀ e ∈ cs, ¬ SpellsWord e.1.toList n) → names.name? n = none
  lt_size_iff : ∀ n, n < names.size ↔ ∃ e ∈ cs, ∃ m, n ≤ m ∧ SpellsWord e.1.toList m

namespace TakenFrom

variable {cs : CaptureSpecs} {names : CaptureNames} {e : String × CaptureSpec}

theorem nil : TakenFrom [] {} where
  named := fun _ _ _ h => absurd h.mem List.not_mem_nil
  unnamed := fun _ _ => rfl
  lt_size_iff := fun n => by simp

/-- A key that is no number is passed by. -/
theorem concat_of_not_spells (h : TakenFrom cs names) (hnone : ∀ n, ¬ SpellsWord e.1.toList n) :
    TakenFrom (cs ++ [e]) names where
  named := fun n key name hnaming => h.named n key name (hnaming.of_concat (hnone n))
  unnamed := fun n hn => h.unnamed n fun other hother => hn other (List.mem_append_left _ hother)
  lt_size_iff := by
    intro n
    rw [h.lt_size_iff]
    constructor
    · rintro ⟨other, hother, hm⟩
      exact ⟨other, List.mem_append_left _ hother, hm⟩
    · rintro ⟨other, hother, m, hnm, hm⟩
      rcases List.mem_append.mp hother with hother | hother
      · exact ⟨other, hother, m, hnm, hm⟩
      · obtain rfl := List.mem_singleton.mp hother
        exact absurd hm (hnone m)

/-- A key that is greater than the ones before replaces what they say of its number. -/
theorem concat_of_spells (h : TakenFrom cs names) (hordered : CaptureSpecs.Ordered (cs ++ [e]))
    {k : Nat} (hk : SpellsWord e.1.toList k) : TakenFrom (cs ++ [e]) (names.set k e.2.name) where
  named := by
    intro n key name hnaming
    rw [CaptureNames.name?_set]
    by_cases hn : n = k
    · rw [if_pos hn]
      exact hnaming.eq_last hordered (hn ▸ hk)
    · rw [if_neg hn]
      exact h.named n key name (hnaming.of_concat fun hother => hn (hother.unique hk))
  unnamed := by
    intro n hn
    have hne : n ≠ k := by
      rintro rfl
      exact hn e (by simp) hk
    rw [CaptureNames.name?_set, if_neg hne]
    exact h.unnamed n fun other hother => hn other (List.mem_append_left _ hother)
  lt_size_iff := by
    intro n
    have hmax : n < max names.size (k + 1) ↔ n < names.size ∨ n < k + 1 := by omega
    rw [CaptureNames.size_set, hmax, h.lt_size_iff]
    constructor
    · rintro (⟨other, hother, hm⟩ | hn)
      · exact ⟨other, List.mem_append_left _ hother, hm⟩
      · exact ⟨e, by simp, k, Nat.le_of_lt_succ hn, hk⟩
    · rintro ⟨other, hother, m, hnm, hm⟩
      rcases List.mem_append.mp hother with hother | hother
      · exact .inl ⟨other, hother, m, hnm, hm⟩
      · obtain rfl := List.mem_singleton.mp hother
        exact .inr (Nat.lt_succ_of_le (hm.unique hk ▸ hnm))

/-- The names go on to the next key, if its number has room. -/
theorem concat (h : TakenFrom cs names) (hordered : CaptureSpecs.Ordered (cs ++ [e]))
    (hroom : CaptureSpecs.HasRoom e.1) :
    ∃ names', nameGroup names e = .ok names' ∧ TakenFrom (cs ++ [e]) names' := by
  cases hword : word? e.1.toList with
  | none =>
    refine ⟨names, by rw [nameGroup, hword], h.concat_of_not_spells fun n hn => ?_⟩
    rw [← word?_eq_some_iff, hword] at hn
    cases hn
  | some k =>
    have hk : SpellsWord e.1.toList k := word?_eq_some_iff.mp hword
    refine ⟨_, ?_, h.concat_of_spells hordered hk⟩
    rw [nameGroup, hword]
    exact if_neg fun hover => Nat.not_le.mpr (hroom k hk) hover.2

/-- A table that was made is within its limit. -/
theorem size_le_capacity (h : TakenFrom cs names) (hfit : cs.Fit) :
    names.size ≤ CaptureNames.capacity := by
  refine Nat.le_of_not_lt fun hlt => ?_
  obtain ⟨e, he, m, hm, hspells⟩ := (h.lt_size_iff _).mp hlt
  exact Nat.not_le.mpr (hfit e he m hspells) hm

end TakenFrom

/-- Names are taken from all keys, if their numbers have room. -/
theorem exists_takenFrom {cs : CaptureSpecs} (hordered : cs.Ordered) (hfit : cs.Fit) :
    ∃ names, captureNames (some cs) = .ok names ∧ TakenFrom cs names := by
  induction cs using List.reverseRecOn with
  | nil => exact ⟨{}, rfl, .nil⟩
  | append_singleton cs e ih =>
    obtain ⟨hbefore, hroom⟩ := CaptureSpecs.fit_concat.mp hfit
    obtain ⟨names, hnames, htaken⟩ := ih hordered.of_concat hbefore
    obtain ⟨names', hnames', htaken'⟩ := htaken.concat hordered hroom
    exact ⟨names', (captureNames_concat hnames e).trans hnames', htaken'⟩

/-- The first key without room breaks off, whatever comes after it. -/
theorem captureNames_of_breaksOff {cs : CaptureSpecs} {n : Nat} (hordered : cs.Ordered)
    (h : cs.BreaksOff n) : captureNames (some cs) = .error (.captureOverflow n) := by
  obtain ⟨before, e, after, rfl, hfit, hspells, hcapacity⟩ := h
  obtain ⟨names, hnames, htaken⟩ := exists_takenFrom (List.pairwise_append.mp hordered).1 hfit
  have hgroup : nameGroup names e = .error (.captureOverflow n) := by
    rw [nameGroup, word?_eq_some_iff.mpr hspells]
    exact if_pos ⟨Nat.le_trans (htaken.size_le_capacity hfit) hcapacity, hcapacity⟩
  rw [captureNames_some, List.foldlM_append, ← captureNames_some, hnames]
  show (e :: after).foldlM nameGroup names = _
  rw [List.foldlM_cons, hgroup]
  rfl

/-- **The greatest key of a number** gives its name, if the numbers of all keys have room; a number
without a key has none, and the table ends behind the last number that has one. Else there is no
table, and the first number without room is told. -/
theorem captureNames_greatest_key {cs : CaptureSpecs} (hordered : cs.Ordered) :
    (cs.Fit →
      ∃ names, captureNames (some cs) = .ok names ∧
        (∀ n key name, cs.Naming n key name → names.toList[n]? = some name) ∧
        (∀ n, (∀ e ∈ cs, ¬ SpellsWord e.1.toList n) → (names.toList[n]?).join = none) ∧
        ∀ n, n < names.toList.length ↔ ∃ e ∈ cs, ∃ m, n ≤ m ∧ SpellsWord e.1.toList m) ∧
    (¬ cs.Fit →
      ∃ n, cs.BreaksOff n ∧ captureNames (some cs) = .error (.captureOverflow n)) := by
  constructor
  · intro hfit
    obtain ⟨names, hnames, htaken⟩ := exists_takenFrom hordered hfit
    refine ⟨names, hnames, ?_, ?_, ?_⟩
    · intro n key name hnaming
      have hsize : n < names.size :=
        (htaken.lt_size_iff n).mpr ⟨_, hnaming.mem, n, Nat.le_refl n, hnaming.spells⟩
      rw [CaptureNames.getElem?_toList, if_pos hsize, htaken.named n key name hnaming]
    · intro n hn
      rw [CaptureNames.getElem?_toList, htaken.unnamed n hn]
      split <;> rfl
    · intro n
      rw [CaptureNames.toList, List.length_map, List.length_range, htaken.lt_size_iff]
  · intro hfit
    obtain ⟨n, hbreaks⟩ := CaptureSpecs.exists_breaksOff hfit
    exact ⟨n, hbreaks, captureNames_of_breaksOff hordered hbreaks⟩

/-- Captures with three keys for one group, and two keys that are no numbers. -/
def spelledThrice : CaptureSpecs :=
  [("+1", ⟨some "signed"⟩), ("-1", ⟨some "negative"⟩), ("01", ⟨some "padded"⟩),
    ("1", ⟨some "plain"⟩), ("one", ⟨some "word"⟩)]

/-- Of the three keys the plain one is the greatest. -/
theorem captureNames_greatest_key_thrice :
    spelledThrice.Ordered ∧ spelledThrice.Fit ∧ spelledThrice.Naming 1 "1" (some "plain") ∧
      ∃ names, captureNames (some spelledThrice) = .ok names ∧
        names.toList[1]? = some (some "plain") ∧ (names.toList[0]?).join = none := by
  have hordered : spelledThrice.Ordered := by
    unfold CaptureSpecs.Ordered
    decide
  have hfit : spelledThrice.Fit := by
    unfold CaptureSpecs.Fit
    decide
  have hnaming : spelledThrice.Naming 1 "1" (some "plain") :=
    ⟨by decide, by decide, by decide⟩
  have hnone : ∀ e ∈ spelledThrice, ¬ SpellsWord e.1.toList 0 := by decide
  obtain ⟨names, hnames, hnamed, hunnamed, -⟩ := (captureNames_greatest_key hordered).1 hfit
  exact ⟨hordered, hfit, hnaming, names, hnames, hnamed 1 "1" _ hnaming, hunnamed 0 hnone⟩

/-- **The largest word is a key like any other**, and no table of names is made for it. -/
theorem not_always_named :
    ¬ ∀ cs : CaptureSpecs, cs.Ordered → ∃ names, captureNames (some cs) = .ok names := by
  intro h
  have hordered : CaptureSpecs.Ordered [("18446744073709551615", ⟨some "x"⟩)] :=
    List.pairwise_singleton _ _
  have hbreaks : CaptureSpecs.BreaksOff [("18446744073709551615", ⟨some "x"⟩)] maxWord :=
    ⟨[], _, [], rfl, fun e he => absurd he List.not_mem_nil, by decide, by decide⟩
  obtain ⟨names, hnames⟩ := h _ hordered
  rw [captureNames_of_breaksOff hordered hbreaks] at hnames
  cases hnames

end Compile

end Tincture
