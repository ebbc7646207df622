import Mathlib.Data.List.Basic
import Tincture.Format.Layout
import Tincture.Proofs.Text.WrittenLines

/-!
# Wrapped lines

Wrapping a line parts its words into groups, in their order, and writes each group with one blank
between its words (`exists_groups_wrapWords`). Only the first group may start with a word that would
make a line something other than a paragraph, and each of the new lines, wrapped at the same width,
stays as it is.
-/

namespace Tincture.Format

open Text

/-! ### Words and blanks -/

/-- Words with one blank between them. -/
def spaced (words : List (List Char)) : List Char :=
  joinWith [' '] words

@[simp] theorem spaced_nil : spaced [] = [] := rfl

@[simp] theorem spaced_singleton (word : List Char) : spaced [word] = word := rfl

theorem spaced_cons {words : List (List Char)} (h : words ≠ []) (word : List Char) :
    spaced (word :: words) = word ++ ' ' :: spaced words := by
  obtain ⟨next, rest, rfl⟩ := List.exists_cons_of_ne_nil h
  simp [spaced, joinWith]

theorem spaced_concat {words : List (List Char)} (h : words ≠ []) (word : List Char) :
    spaced (words ++ [word]) = spaced words ++ ' ' :: word := by
  induction words with
  | nil => exact absurd rfl h
  | cons first words ih =>
    by_cases hwords : words = []
    · subst hwords
      exact spaced_cons (List.cons_ne_nil word []) first
    · rw [List.cons_append, spaced_cons (by simp), ih hwords, spaced_cons hwords,
        List.append_assoc, List.cons_append]

theorem spaced_append {before after : List (List Char)} (hbefore : before ≠ []) (hafter : after ≠ []) :
    spaced (before ++ after) = spaced before ++ ' ' :: spaced after := by
  induction before with
  | nil => exact absurd rfl hbefore
  | cons word before ih =>
    by_cases hnil : before = []
    · subst hnil
      exact spaced_cons hafter word
    · rw [List.cons_append, spaced_cons (by simp [hnil]), ih hnil, spaced_cons hnil,
        List.append_assoc, List.cons_append]

/-- Groups of words with one blank between them hold the words with one blank between them. -/
theorem spaced_map_spaced {groups : List (List (List Char))} (hne : ∀ g ∈ groups, g ≠ []) :
    spaced (groups.map spaced) = spaced groups.flatten := by
  induction groups with
  | nil => rfl
  | cons group groups ih =>
    obtain ⟨hgroup, hrest⟩ := List.forall_mem_cons.mp hne
    cases groups with
    | nil => simp
    | cons next groups =>
      have hflatten : (next :: groups).flatten ≠ [] := by
        simp [hrest next List.mem_cons_self]
      calc spaced ((group :: next :: groups).map spaced)
          = spaced group ++ ' ' :: spaced ((next :: groups).map spaced) := by
            rw [List.map_cons, spaced_cons (by simp)]
        _ = spaced group ++ ' ' :: spaced (next :: groups).flatten := by rw [ih hrest]
        _ = spaced (group :: next :: groups).flatten := (spaced_append hgroup hflatten).symm

theorem filter_spaced {p : Char → Bool} (hp : p ' ' = false) (words : List (List Char)) :
    (spaced words).filter p = words.flatten.filter p := by
  induction words with
  | nil => rfl
  | cons word words ih =>
    by_cases hwords : words = []
    · subst hwords
      simp
    · rw [spaced_cons hwords]
      simp [hp, ih]

/-- What blanks separate. -/
structure IsWord (word : List Char) : Prop where
  ne_nil : word ≠ []
  no_blank : ' ' ∉ word

theorem isWord_of_mem_blankWords {content word : List Char} (h : word ∈ blankWords content) :
    IsWord word := by
  obtain ⟨hpiece, hne⟩ := List.mem_filter.mp h
  refine ⟨by simpa using hne, fun hblank => ?_⟩
  simpa using not_of_mem_splitWhen hpiece hblank

theorem spaced_ne_nil {words : List (List Char)} (h : words ≠ []) (hwords : ∀ w ∈ words, IsWord w) :
    spaced words ≠ [] := by
  obtain ⟨word, rest, rfl⟩ := List.exists_cons_of_ne_nil h
  have hword := (hwords word List.mem_cons_self).ne_nil
  by_cases hrest : rest = []
  · simpa [hrest] using hword
  · simp [spaced_cons hrest]

/-- The words of a line are the ones it was put together from. -/
theorem blankWords_spaced {words : List (List Char)} (hwords : ∀ w ∈ words, IsWord w) :
    blankWords (spaced words) = words := by
  induction words with
  | nil => rfl
  | cons word words ih =>
    obtain ⟨hword, hrest⟩ := List.forall_mem_cons.mp hwords
    have hfilter : ∀ rest : List (List Char),
        (word :: rest).filter (!·.isEmpty) = word :: rest.filter (!·.isEmpty) := fun rest =>
      List.filter_cons_of_pos (by simpa using hword.ne_nil)
    by_cases hnil : words = []
    · subst hnil
      rw [spaced_singleton, blankWords, splitOn_of_not_mem hword.no_blank,
        hfilter, List.filter_nil]
    · rw [spaced_cons hnil, blankWords, splitOn_append_cons hword.no_blank,
        hfilter, ← blankWords, ih hrest]

theorem filter_flatten_blankWords {p : Char → Bool} (hp : p ' ' = false) (content : List Char) :
    (blankWords content).flatten.filter p = content.filter p := by
  have hflatten : (blankWords content).flatten = content.filter (· ≠ ' ') := by
    rw [blankWords, List.flatten_filter_not_isEmpty, flatten_splitOn]
  rw [hflatten, List.filter_filter]
  refine List.filter_congr fun c _ => ?_
  by_cases hc : c = ' '
  · simp [hc, hp]
  · simp [hc]

/-! ### Groups of words -/

/-- Words that wrapping puts on one line, whatever comes behind them. -/
def StaysOne (width : Nat) (group : List (List Char)) : Prop :=
  ∀ rest, wrapFrom width [] (group ++ rest) = wrapFrom width (spaced group) rest

theorem staysOne_singleton (width : Nat) (word : List Char) : StaysOne width [word] := by
  intro rest
  rw [List.singleton_append, wrapFrom, spaced_singleton]
  rfl

theorem StaysOne.concat {width : Nat} {group : List (List Char)} {word : List Char}
    (h : StaysOne width group) (hne : spaced group ≠ [])
    (hword : (spaced group).length + 1 + word.length ≤ width ∨ startsBlock word = true) :
    StaysOne width (group ++ [word]) := by
  have hgroup : group ≠ [] := by
    rintro rfl
    exact hne rfl
  intro rest
  rw [List.append_assoc, List.singleton_append, h, wrapFrom,
    if_neg (by simpa using hne), if_pos hword, spaced_concat hgroup]

theorem StaysOne.wrapWords_spaced {width : Nat} {group : List (List Char)}
    (h : StaysOne width group) (hwords : ∀ w ∈ group, IsWord w) (hne : spaced group ≠ []) :
    wrapWords width (spaced group) = [spaced group] := by
  have hone := h []
  rw [List.append_nil] at hone
  rw [wrapWords, blankWords_spaced hwords, hone, wrapFrom, if_neg (by simpa using hne)]

/-- Wrapping goes on from a group of words: the words that are added and those that start a new line
form groups, of which the later ones start with words that may start a line. -/
theorem exists_groups_wrapFrom {width : Nat} {group words : List (List Char)}
    (h : StaysOne width group) (hne : group ≠ []) (hgroup : ∀ w ∈ group, IsWord w)
    (hwords : ∀ w ∈ words, IsWord w) :
    ∃ first later, wrapFrom width (spaced group) words = (first :: later).map spaced ∧
      group ++ words = (first :: later).flatten ∧
      (∀ g ∈ first :: later, g ≠ [] ∧ StaysOne width g) ∧
      ∀ g ∈ later, ∀ w, g.head? = some w → startsBlock w = false := by
  induction words generalizing group with
  | nil =>
    refine ⟨group, [], ?_, by simp, by simpa using ⟨hne, h⟩, by simp⟩
    rw [wrapFrom, if_neg (by simpa using spaced_ne_nil hne hgroup)]
    rfl
  | cons word words ih =>
    obtain ⟨hword, hrest⟩ := List.forall_mem_cons.mp hwords
    have hspaced := spaced_ne_nil hne hgroup
    rw [wrapFrom, if_neg (by simpa using hspaced)]
    by_cases hadd : (spaced group).length + 1 + word.length ≤ width ∨ startsBlock word = true
    · -- the word joins the group
      rw [if_pos hadd, ← spaced_concat hne]
      obtain ⟨first, later, hwrap, hflatten, hstay, hstart⟩ := ih (h.concat hspaced hadd) (by simp)
        (fun w hw => (List.mem_append.mp hw).elim (hgroup w) fun hw => by
          rwa [List.mem_singleton.mp hw]) hrest
      exact ⟨first, later, hwrap, by rw [← hflatten]; simp, hstay, hstart⟩
    · -- the group is done, and the word begins the next one
      rw [if_neg hadd]
      obtain ⟨first, later, hwrap, hflatten, hstay, hstart⟩ :=
        ih (staysOne_singleton width word) (List.cons_ne_nil _ _)
          (fun w hw => by rwa [List.mem_singleton.mp hw]) hrest
      refine ⟨group, first :: later, ?_, ?_, ?_, ?_⟩
      · rw [← spaced_singleton word, hwrap]
        rfl
      · rw [List.flatten_cons, ← hflatten, List.singleton_append]
      · exact List.forall_mem_cons.mpr ⟨⟨hne, h⟩, hstay⟩
      · refine List.forall_mem_cons.mpr ⟨fun w hw => ?_, hstart⟩
        -- the first of the new groups starts with the word that did not fit
        have hfirst : first ≠ [] := (hstay first List.mem_cons_self).1
        rw [List.singleton_append, List.flatten_cons] at hflatten
        have hhead := congrArg List.head? hflatten
        rw [List.head?_cons, List.head?_append_of_ne_nil _ hfirst, hw] at hhead
        rw [← Option.some.inj hhead]
        simpa using (not_or.mp hadd).2

/-- **Wrapping a line** parts its words into groups that stay as they are when they are wrapped again,
and all but the first start with a word that may start a line. -/
theorem exists_groups_wrapWords (width : Nat) (content : List Char) :
    ∃ groups : List (List (List Char)),
      wrapWords width content = groups.map spaced ∧ groups.flatten = blankWords content ∧
      (∀ g ∈ groups, g ≠ [] ∧ wrapWords width (spaced g) = [spaced g]) ∧
      ∀ g ∈ groups.tail, ∀ w, g.head? = some w → startsBlock w = false := by
  have hwords : ∀ w ∈ blankWords content, IsWord w := fun w hw => isWord_of_mem_blankWords hw
  rw [wrapWords]
  generalize blankWords content = words at hwords
  rcases words with _ | ⟨word, words⟩
  · exact ⟨[], rfl, rfl, by simp, by simp⟩
  obtain ⟨hword, hrest⟩ := List.forall_mem_cons.mp hwords
  obtain ⟨first, later, hwrap, hflatten, hstay, hstart⟩ :=
    exists_groups_wrapFrom (staysOne_singleton width word) (List.cons_ne_nil _ _)
      (fun w hw => by rwa [List.mem_singleton.mp hw]) hrest
  refine ⟨first :: later, hwrap, hflatten.symm, fun g hg => ?_, hstart⟩
  obtain ⟨hne, hone⟩ := hstay g hg
  have hmem : ∀ w ∈ g, IsWord w := fun w hw =>
    hwords w (by rw [← List.singleton_append, hflatten]; exact List.mem_flatten_of_mem hg hw)
  exact ⟨hne, hone.wrapWords_spaced hmem (spaced_ne_nil hne hmem)⟩

theorem filter_flatten_wrapWords {p : Char → Bool} (hp : p ' ' = false) (width : Nat)
    (content : List Char) : (wrapWords width content).flatten.filter p = content.filter p := by
  obtain ⟨groups, hwrap, hflatten, -, -⟩ := exists_groups_wrapWords width content
  rw [hwrap, ← filter_flatten_blankWords hp content, ← hflatten]
  clear hwrap hflatten
  induction groups with
  | nil => rfl
  | cons g groups ih => simp [filter_spaced hp, ih]

theorem mem_of_mem_wrapWords {width : Nat} {content piece : List Char}
    (h : piece ∈ wrapWords width content) {c : Char} (hc : c ∈ piece) (hblank : c ≠ ' ') :
    c ∈ content :=
  mem_of_filter_eq (filter_flatten_wrapWords (by simp) width content)
    (List.mem_flatten_of_mem h hc) hblank

theorem ne_nil_of_mem_wrapWords {width : Nat} {content piece : List Char}
    (h : piece ∈ wrapWords width content) : piece ≠ [] := by
  obtain ⟨groups, hwrap, hflatten, hgroups, -⟩ := exists_groups_wrapWords width content
  obtain ⟨g, hg, rfl⟩ := List.mem_map.mp (hwrap ▸ h)
  exact spaced_ne_nil (hgroups g hg).1 fun w hw =>
    isWord_of_mem_blankWords (hflatten ▸ List.mem_flatten_of_mem hg hw)

/-- A piece of a line has words of its own, and is not cut further. -/
theorem exists_words_of_mem_wrapWords {width : Nat} {content piece : List Char}
    (h : piece ∈ wrapWords width content) : ∃ words, piece = spaced words ∧ (∀ w ∈ words, IsWord w) ∧
      wrapWords width piece = [piece] := by
  obtain ⟨groups, hwrap, hflatten, hgroups, -⟩ := exists_groups_wrapWords width content
  obtain ⟨g, hg, rfl⟩ := List.mem_map.mp (hwrap ▸ h)
  exact ⟨g, rfl, fun w hw => isWord_of_mem_blankWords (hflatten ▸ List.mem_flatten_of_mem hg hw),
    (hgroups g hg).2⟩

/-- A piece holds more than blanks. -/
theorem filter_ne_nil_of_mem_wrapWords {width : Nat} {content piece : List Char}
    (h : piece ∈ wrapWords width content) : piece.filter (· ≠ ' ') ≠ [] := by
  obtain ⟨words, hspaced, hwords, -⟩ := exists_words_of_mem_wrapWords h
  obtain ⟨word, words, rfl⟩ : ∃ word rest, words = word :: rest :=
    List.exists_cons_of_ne_nil fun hnil => ne_nil_of_mem_wrapWords h (by rw [hspaced, hnil]; rfl)
  obtain ⟨hne, hblank⟩ := hwords word List.mem_cons_self
  obtain ⟨c, word, rfl⟩ := List.exists_cons_of_ne_nil hne
  have hc : c ≠ ' ' := fun hc => hblank (by simp [hc])
  rw [hspaced, filter_spaced (by simp)]
  simp [hc]

theorem head?_flatten_wrapFrom (width : Nat) (c : Char) (current : List Char)
    (words : List (List Char)) : (wrapFrom width (c :: current) words).flatten.head? = some c := by
  induction words generalizing current with
  | nil => rfl
  | cons word words ih =>
    rw [wrapFrom, if_neg (by simp)]
    split
    · exact ih (current ++ ' ' :: word)
    · rfl

/-- The pieces of a line start as the line does. -/
theorem head?_flatten_wrapWords (width : Nat) {c : Char} (hc : c ≠ ' ') (rest : List Char) :
    (wrapWords width (c :: rest)).flatten.head? = some c := by
  obtain ⟨word, more, -, hsplit⟩ := exists_splitOn_cons_of_ne hc rest
  rw [wrapWords, blankWords, hsplit, List.filter_cons_of_pos (by simp), wrapFrom]
  exact head?_flatten_wrapFrom width c word _

/-- No piece starts with a sign that would make it code, as long as the line does not. -/
theorem head?_ne_of_mem_wrapWords {width : Nat} {c : Char} (hc : c ≠ ' ') (hcode : c ≠ '#')
    {rest piece : List Char} (h : piece ∈ wrapWords width (c :: rest)) : piece.head? ≠ some '#' := by
  have hhead := head?_flatten_wrapWords width hc rest
  obtain ⟨groups, hwrap, hflatten, hgroups, hlater⟩ := exists_groups_wrapWords width (c :: rest)
  have hwords : ∀ g ∈ groups, g ≠ [] ∧ ∀ w ∈ g, IsWord w := fun g hg => ⟨(hgroups g hg).1, fun w hw =>
    isWord_of_mem_blankWords (hflatten ▸ List.mem_flatten_of_mem hg hw)⟩
  rcases groups with _ | ⟨first, later⟩
  · simp [hwrap] at h
  rw [hwrap, List.map_cons, List.mem_cons, List.mem_map] at h
  rcases h with rfl | ⟨g, hg, rfl⟩
  · -- the first piece starts as the line does
    obtain ⟨hne, hisWord⟩ := hwords first List.mem_cons_self
    rw [hwrap, List.map_cons, List.flatten_cons,
      List.head?_append_of_ne_nil _ (spaced_ne_nil hne hisWord)] at hhead
    simpa [hhead] using hcode
  · -- a later one starts with a word that may start a line
    obtain ⟨hne, hisWord⟩ := hwords g (List.mem_cons_of_mem _ hg)
    obtain ⟨word, rest, rfl⟩ := List.exists_cons_of_ne_nil hne
    have hstart := hlater (word :: rest) hg word rfl
    obtain ⟨d, word, rfl⟩ := List.exists_cons_of_ne_nil (hisWord word List.mem_cons_self).ne_nil
    have hd : d ≠ '#' := by
      rintro rfl
      simp [startsBlock] at hstart
    by_cases hrest : rest = []
    · simpa [hrest] using hd
    · simpa [spaced_cons hrest] using hd

end Tincture.Format
