import Mathlib.Data.List.Chain
import Tincture.Proofs.Format.Wrapping

/-!
# Greedy wrapping

A line is wrapped word by word, and a word goes on the current line whenever it can: if the line keeps
within the width, or if the word must not start one (`IsMarker`). A partition of words into lines that
was made so is `IsGreedy`, which says only what the lines hold and not how they came about. A word that
follows can always be added to such a partition (`IsGreedy.goOn`, `IsGreedy.startNew`), and what
wrapping makes of the words of a greedy partition is that partition (`IsGreedy.wrapWords_eq`). So each
text has one, the one that wrapping makes, and a line of it is not wrapped any further
(`wrapWords_greedy`).
-/

namespace Tincture.Format

open Text

/-! ### Written words -/

/-- Lines are told apart by what is written of them. -/
theorem eq_of_map_spaced_eq {groups groups' : List (List (List Char))}
    (hwords : ∀ g ∈ groups, ∀ w ∈ g, IsWord w) (hwords' : ∀ g ∈ groups', ∀ w ∈ g, IsWord w)
    (h : groups.map spaced = groups'.map spaced) : groups = groups' := by
  have hread : ∀ gs : List (List (List Char)), (∀ g ∈ gs, ∀ w ∈ g, IsWord w) →
      (gs.map spaced).map blankWords = gs := by
    intro gs hgs
    calc (gs.map spaced).map blankWords = gs.map fun g => blankWords (spaced g) := List.map_map
      _ = gs.map id := List.map_congr_left fun g hg => blankWords_spaced (hgs g hg)
      _ = gs := List.map_id gs
  rw [← hread groups hwords, h, hread groups' hwords']

/-! ### Words that must not start a line -/

/-- A word that would start a list item, a heading or code: it begins with one of five signs, or is a
number and a full stop. -/
def IsMarker (word : List Char) : Prop :=
  (∃ sign rest, word = sign :: rest ∧ sign ∈ ['-', '+', '/', '=', '#']) ∨
    ∃ digits, word = digits ++ ['.'] ∧ digits ≠ [] ∧ ∀ d ∈ digits, d.isDigit = true

theorem isEnumMarker_iff {word : List Char} :
    isEnumMarker word = true ↔
      ∃ digits, word = digits ++ ['.'] ∧ digits ≠ [] ∧ ∀ d ∈ digits, d.isDigit = true := by
  have hunfold : isEnumMarker word = true ↔ word.getLast? = some '.' ∧ word.dropLast ≠ [] ∧
      ∀ d ∈ word.dropLast, d.isDigit = true := by
    simp [isEnumMarker, and_assoc]
  rw [hunfold]
  constructor
  · rintro ⟨hlast, hne, hdigits⟩
    obtain ⟨digits, rfl⟩ := List.getLast?_eq_some_iff.mp hlast
    rw [List.dropLast_concat] at hne hdigits
    exact ⟨digits, rfl, hne, hdigits⟩
  · rintro ⟨digits, rfl, hne, hdigits⟩
    rw [List.dropLast_concat]
    exact ⟨List.getLast?_concat, hne, hdigits⟩

theorem startsBlock_iff {word : List Char} : startsBlock word = true ↔ IsMarker word := by
  have hunfold : startsBlock word = true ↔
      (∃ sign rest, word = sign :: rest ∧ sign ∈ ['-', '+', '/', '=', '#']) ∨
        isEnumMarker word = true := by
    cases word with
    | nil => simp [startsBlock]
    | cons sign rest => simp [startsBlock, or_assoc]
  rw [hunfold, isEnumMarker_iff, IsMarker]

/-! ### Greedy partitions -/

/-- Each word of a line but the first keeps what stands before it within the width, or must not start
a line. -/
def Fits (width : Nat) (group : List (List Char)) : Prop :=
  ∀ before word after, group = before ++ word :: after → before ≠ [] →
    (spaced (before ++ [word])).length ≤ width ∨ IsMarker word

/-- A line is done before the next one: the first word there may start a line, and would have made
this one longer than the width. -/
def Breaks (width : Nat) (group next : List (List Char)) : Prop :=
  ∀ word, next.head? = some word →
    ¬ IsMarker word ∧ width < (spaced (group ++ [word])).length

/-- Words parted into lines, none of which leaves to the next one what could go on it. -/
structure IsGreedy (width : Nat) (groups : List (List (List Char))) : Prop where
  nonempty : ∀ g ∈ groups, g ≠ []
  fits : ∀ g ∈ groups, Fits width g
  breaks : groups.IsChain (Breaks width)

theorem fits_singleton (width : Nat) (word : List Char) : Fits width [word] := by
  intro before other after h hne
  have hlength := congrArg List.length h
  simp only [List.length_append, List.length_cons, List.length_nil] at hlength
  exact absurd (List.length_eq_zero_iff.mp (by omega)) hne

theorem Fits.concat {width : Nat} {group : List (List Char)} {word : List Char}
    (h : Fits width group)
    (hword : (spaced (group ++ [word])).length ≤ width ∨ IsMarker word) :
    Fits width (group ++ [word]) := by
  intro before other after heq hne
  rcases List.eq_nil_or_concat' after with rfl | ⟨after, last, rfl⟩
  · -- the word is the new one
    obtain ⟨rfl, hsame⟩ := List.append_inj' heq rfl
    obtain rfl := List.singleton_inj.mp hsame
    exact hword
  · have hsplit : group ++ [word] = (before ++ other :: after) ++ [last] := by
      rw [heq, List.append_assoc, List.cons_append]
    obtain ⟨rfl, -⟩ := List.append_inj' hsplit rfl
    exact h before other after rfl hne

theorem isGreedy_singleton {width : Nat} {group : List (List Char)} (hne : group ≠ [])
    (h : Fits width group) : IsGreedy width [group] where
  nonempty := List.forall_mem_singleton.mpr hne
  fits := List.forall_mem_singleton.mpr h
  breaks := List.isChain_singleton group

namespace IsGreedy

variable {width : Nat} {done : List (List (List Char))} {group : List (List Char)}
  {word : List Char}

theorem last_ne_nil (h : IsGreedy width (done ++ [group])) : group ≠ [] :=
  h.nonempty group (List.mem_append_right _ (List.mem_singleton.mpr rfl))

/-- A word goes on the last line. -/
theorem goOn (h : IsGreedy width (done ++ [group]))
    (hword : (spaced (group ++ [word])).length ≤ width ∨ IsMarker word) :
    IsGreedy width (done ++ [group ++ [word]]) := by
  obtain ⟨hnonempty, -⟩ := List.forall_mem_append.mp h.nonempty
  obtain ⟨hfits, hlastFits⟩ := List.forall_mem_append.mp h.fits
  obtain ⟨hbreaks, -, hlast⟩ := List.isChain_append.mp h.breaks
  have hgroup : Fits width (group ++ [word]) := (List.forall_mem_singleton.mp hlastFits).concat hword
  refine ⟨List.forall_mem_append.mpr ⟨hnonempty, List.forall_mem_singleton.mpr (by simp)⟩,
    List.forall_mem_append.mpr ⟨hfits, List.forall_mem_singleton.mpr hgroup⟩,
    List.isChain_append.mpr ⟨hbreaks, List.isChain_singleton _, ?_⟩⟩
  -- the line still starts with the word with which it started
  intro g hg next hnext first hfirst
  obtain rfl : group ++ [word] = next := by simpa using hnext
  rw [List.head?_append_of_ne_nil _ h.last_ne_nil] at hfirst
  exact hlast g hg group (by simp) first hfirst

/-- A word starts a new line. -/
theorem startNew (h : IsGreedy width (done ++ [group]))
    (hlong : width < (spaced (group ++ [word])).length) (hword : ¬ IsMarker word) :
    IsGreedy width (done ++ [group] ++ [[word]]) := by
  refine ⟨List.forall_mem_append.mpr ⟨h.nonempty, List.forall_mem_singleton.mpr (by simp)⟩,
    List.forall_mem_append.mpr ⟨h.fits, List.forall_mem_singleton.mpr (fits_singleton width word)⟩,
    List.isChain_append.mpr ⟨h.breaks, List.isChain_singleton _, ?_⟩⟩
  intro g hg next hnext first hfirst
  obtain rfl : group = g := by simpa using hg
  obtain rfl : [word] = next := by simpa using hnext
  obtain rfl : word = first := by simpa using hfirst
  exact ⟨hword, hlong⟩

/-- Words that follow go on the last line or start new ones, so that the partition stays greedy. -/
theorem exists_append (h : IsGreedy width (done ++ [group])) (words : List (List Char)) :
    ∃ groups, IsGreedy width groups ∧ groups.flatten = done.flatten ++ group ++ words := by
  induction words generalizing done group with
  | nil => exact ⟨done ++ [group], h, by simp⟩
  | cons word words ih =>
    by_cases hgoes : (spaced (group ++ [word])).length ≤ width ∨ IsMarker word
    · obtain ⟨groups, hgreedy, hflatten⟩ := ih (h.goOn hgoes)
      exact ⟨groups, hgreedy, by simpa using hflatten⟩
    · obtain ⟨hlong, hmarker⟩ := not_or.mp hgoes
      obtain ⟨groups, hgreedy, hflatten⟩ := ih (h.startNew (Nat.lt_of_not_le hlong) hmarker)
      exact ⟨groups, hgreedy, by simpa using hflatten⟩

end IsGreedy

/-- All words can be parted in the greedy way. -/
theorem exists_isGreedy (width : Nat) (words : List (List Char)) :
    ∃ groups, IsGreedy width groups ∧ groups.flatten = words := by
  cases words with
  | nil => exact ⟨[], ⟨by simp, by simp, List.isChain_nil⟩, rfl⟩
  | cons word words =>
    have hone : IsGreedy width ([] ++ [[word]]) :=
      isGreedy_singleton (List.cons_ne_nil word []) (fits_singleton width word)
    obtain ⟨groups, hgreedy, hflatten⟩ := hone.exists_append words
    exact ⟨groups, hgreedy, hflatten⟩

/-! ### What wrapping makes -/

theorem length_spaced_concat {group : List (List Char)} (hne : group ≠ []) (word : List Char) :
    (spaced (group ++ [word])).length = (spaced group).length + 1 + word.length := by
  rw [spaced_concat hne, List.length_append, List.length_cons]
  omega

/-- The test that wrapping makes for each word. -/
theorem goesOn_iff {width : Nat} {group : List (List Char)} (hne : group ≠ []) (word : List Char) :
    ((spaced group).length + 1 + word.length ≤ width ∨ startsBlock word = true) ↔
      (spaced (group ++ [word])).length ≤ width ∨ IsMarker word := by
  rw [length_spaced_concat hne, startsBlock_iff]

theorem wrapFrom_cons {width : Nat} {group : List (List Char)} (hne : group ≠ [])
    (hgroup : ∀ w ∈ group, IsWord w) (word : List Char) (words : List (List Char)) :
    ((spaced (group ++ [word])).length ≤ width ∨ IsMarker word →
        wrapFrom width (spaced group) (word :: words) =
          wrapFrom width (spaced (group ++ [word])) words) ∧
      (¬ ((spaced (group ++ [word])).length ≤ width ∨ IsMarker word) →
        wrapFrom width (spaced group) (word :: words) =
          spaced group :: wrapFrom width (spaced [word]) words) := by
  have hcurrent : ¬ (spaced group).isEmpty = true := by
    simpa using spaced_ne_nil hne hgroup
  rw [← goesOn_iff hne]
  constructor
  · intro hword
    rw [wrapFrom, if_neg hcurrent, if_pos hword, spaced_concat hne]
  · intro hword
    rw [wrapFrom, if_neg hcurrent, if_neg hword, spaced_singleton]

theorem wrapFrom_nil {width : Nat} {group : List (List Char)} (hne : group ≠ [])
    (hgroup : ∀ w ∈ group, IsWord w) : wrapFrom width (spaced group) [] = [spaced group] := by
  rw [wrapFrom, if_neg (by simpa using spaced_ne_nil hne hgroup)]

/-- Words that fit go on the line where they stand. -/
theorem wrapFrom_append_of_fits {width : Nat} {before after : List (List Char)}
    (h : Fits width (before ++ after)) (hne : before ≠ []) (hwords : ∀ w ∈ before ++ after, IsWord w)
    (rest : List (List Char)) :
    wrapFrom width (spaced before) (after ++ rest) =
      wrapFrom width (spaced (before ++ after)) rest := by
  induction after generalizing before with
  | nil => rw [List.nil_append, List.append_nil]
  | cons word after ih =>
    have hbefore : ∀ w ∈ before, IsWord w := fun w hw => hwords w (List.mem_append_left _ hw)
    have hgoes := h before word after rfl hne
    rw [List.append_cons before word after] at h hwords ⊢
    rw [List.cons_append, (wrapFrom_cons hne hbefore word _).1 hgoes]
    exact ih h (by simp) hwords

/-- **A greedy partition** is what wrapping makes of its words, from its first line on. -/
theorem wrapFrom_flatten {width : Nat} {group : List (List Char)} {later : List (List (List Char))}
    (h : IsGreedy width (group :: later)) (hwords : ∀ g ∈ group :: later, ∀ w ∈ g, IsWord w) :
    wrapFrom width (spaced group) later.flatten = (group :: later).map spaced := by
  induction later generalizing group with
  | nil =>
    rw [List.flatten_nil, List.map_singleton]
    exact wrapFrom_nil (h.nonempty group List.mem_cons_self) (hwords group List.mem_cons_self)
  | cons next later ih =>
    have hnext : next ∈ group :: next :: later := List.mem_cons_of_mem _ List.mem_cons_self
    obtain ⟨hbreaks, hchain⟩ := List.isChain_cons_cons.mp h.breaks
    obtain ⟨word, after, rfl⟩ := List.exists_cons_of_ne_nil (h.nonempty next hnext)
    obtain ⟨hmarker, hlong⟩ := hbreaks word rfl
    have hgreedy : IsGreedy width ((word :: after) :: later) :=
      ⟨fun g hg => h.nonempty g (List.mem_cons_of_mem _ hg),
        fun g hg => h.fits g (List.mem_cons_of_mem _ hg), hchain⟩
    calc wrapFrom width (spaced group) ((word :: after) :: later).flatten
        = wrapFrom width (spaced group) (word :: (after ++ later.flatten)) := by
          rw [List.flatten_cons, List.cons_append]
      _ = spaced group :: wrapFrom width (spaced [word]) (after ++ later.flatten) := by
          refine (wrapFrom_cons (h.nonempty group List.mem_cons_self)
            (hwords group List.mem_cons_self) word _).2 ?_
          exact not_or.mpr ⟨Nat.not_le_of_lt hlong, hmarker⟩
      _ = spaced group :: wrapFrom width (spaced (word :: after)) later.flatten := by
          rw [wrapFrom_append_of_fits (h.fits _ hnext) (List.cons_ne_nil word []) (hwords _ hnext)]
          rfl
      _ = (group :: (word :: after) :: later).map spaced := by
          rw [ih hgreedy fun g hg => hwords g (List.mem_cons_of_mem _ hg)]
          rfl

/-- There is no other greedy partition of the words of a line than the one that wrapping makes. -/
theorem IsGreedy.wrapWords_eq {width : Nat} {groups : List (List (List Char))} {content : List Char}
    (h : IsGreedy width groups) (hwords : groups.flatten = blankWords content) :
    wrapWords width content = groups.map spaced := by
  rw [wrapWords, ← hwords]
  cases groups with
  | nil => rfl
  | cons group later =>
    have hisWord : ∀ g ∈ group :: later, ∀ w ∈ g, IsWord w := fun g hg w hw =>
      isWord_of_mem_blankWords (hwords ▸ List.mem_flatten_of_mem hg hw)
    obtain ⟨word, after, rfl⟩ := List.exists_cons_of_ne_nil (h.nonempty group List.mem_cons_self)
    rw [← wrapFrom_flatten h hisWord, List.flatten_cons, List.cons_append, wrapFrom,
      if_pos (show List.isEmpty ([] : List Char) = true from rfl)]
    exact wrapFrom_append_of_fits (h.fits _ List.mem_cons_self) (List.cons_ne_nil word [])
      (hisWord _ List.mem_cons_self) _

/-- **Wrapping a line** parts its words into lines in the greedy way, which is the only one; written
with blanks between them they are the words of the line again, and each of them is wrapped to itself. -/
theorem wrapWords_greedy (width : Nat) (content : List Char) :
    ∃ groups, groups.flatten = blankWords content ∧ wrapWords width content = groups.map spaced ∧
      IsGreedy width groups ∧
      (∀ other, other.flatten = blankWords content → IsGreedy width other → other = groups) ∧
      blankWords (spaced (wrapWords width content)) = blankWords content ∧
      ∀ piece ∈ wrapWords width content, wrapWords width piece = [piece] := by
  have hisWord : ∀ gs : List (List (List Char)), gs.flatten = blankWords content →
      ∀ g ∈ gs, ∀ w ∈ g, IsWord w := fun gs hgs g hg w hw =>
    isWord_of_mem_blankWords (hgs ▸ List.mem_flatten_of_mem hg hw)
  obtain ⟨groups, hgreedy, hflatten⟩ := exists_isGreedy width (blankWords content)
  have hwrap : wrapWords width content = groups.map spaced := hgreedy.wrapWords_eq hflatten
  refine ⟨groups, hflatten, hwrap, hgreedy, ?_, ?_, ?_⟩
  · intro other hother hgreedy'
    refine eq_of_map_spaced_eq (hisWord other hother) (hisWord groups hflatten) ?_
    rw [← hgreedy'.wrapWords_eq hother, hwrap]
  · rw [hwrap, spaced_map_spaced hgreedy.nonempty, hflatten]
    exact blankWords_spaced fun w => isWord_of_mem_blankWords
  · intro piece hpiece
    rw [hwrap] at hpiece
    obtain ⟨g, hg, rfl⟩ := List.mem_map.mp hpiece
    -- one line of a greedy partition is a greedy partition of its own words
    have hone : IsGreedy width [g] := isGreedy_singleton (hgreedy.nonempty g hg) (hgreedy.fits g hg)
    refine hone.wrapWords_eq ?_
    rw [blankWords_spaced (hisWord groups hflatten g hg), List.flatten_singleton]

/-- A sign that would start a list item goes on a line that is full. -/
example : wrapWords 10 "alpha beta - gamma".toList = ["alpha beta -".toList, "gamma".toList] := by
  decide

end Tincture.Format
