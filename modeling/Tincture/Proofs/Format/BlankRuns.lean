import Mathlib.Data.List.DropRight
import Mathlib.Data.List.Infix
import Tincture.Format.Layout

/-!
# Runs of empty lines

Capping runs of empty lines leaves out empty lines only (`filter_capBlanks`). A line that is not empty
cuts the work in two: what comes behind it depends only on whether a raw block is taken for open there
(`capBlanks_append_cons`, and backwards `exists_of_capBlanks_eq_append_cons`). Where one is taken for
open, all lines are kept (`capBlanks_raw`); elsewhere lines stay as they are just if no run of empty ones
is too long (`capBlanks_eq_self_iff`). A second time nothing is left out (`capBlanks_capBlanks`).
-/

namespace Tincture.Format

/-! ### Toggles -/

/-- Whether a raw block is taken for open behind a line when empty lines are counted. -/
def toggleAfter (inRaw : Bool) (text : List Char) : Bool :=
  xor inRaw (isToggle text)

theorem isToggle_nil : isToggle [] = false := rfl

@[simp] theorem toggleAfter_nil (inRaw : Bool) : toggleAfter inRaw [] = inRaw := by
  simp [toggleAfter, isToggle_nil]

theorem foldl_toggleAfter_of_forall {texts : List (List Char)}
    (h : ∀ t ∈ texts, isToggle t = false) (inRaw : Bool) :
    texts.foldl toggleAfter inRaw = inRaw := by
  induction texts with
  | nil => rfl
  | cons t texts ih =>
    obtain ⟨ht, htexts⟩ := List.forall_mem_cons.mp h
    rw [List.foldl_cons, toggleAfter, ht, Bool.xor_false, ih htexts]

/-! ### Line by line -/

section capBlanks

variable {bound run : Nat} {inRaw started : Bool} {text : List Char} {texts : List (List Char)}

theorem capBlanks_cons_of_ne_nil (h : text ≠ []) :
    capBlanks bound inRaw run started (text :: texts) =
      text :: capBlanks bound (toggleAfter inRaw text) 0 true texts := by
  have hempty : text.isEmpty = false := by simpa using h
  cases htoggle : isToggle text <;> simp [capBlanks, htoggle, hempty, toggleAfter]

theorem capBlanks_true_nil_cons :
    capBlanks bound true run started ([] :: texts) = [] :: capBlanks bound true 0 true texts := by
  simp [capBlanks, isToggle_nil]

theorem capBlanks_false_nil_cons :
    capBlanks bound false run started ([] :: texts) = if started = false ∨ bound < run + 1 then
      capBlanks bound false (run + 1) started texts
    else [] :: capBlanks bound false (run + 1) true texts := by
  have hdrop : (!started || decide (bound < run + 1)) = true ↔
      started = false ∨ bound < run + 1 := by
    simp only [Bool.or_eq_true, Bool.not_eq_true', decide_eq_true_eq]
  have hempty : (!false && ([] : List Char).isEmpty) = true := rfl
  rw [capBlanks, isToggle_nil, if_neg Bool.false_ne_true, if_pos hempty]
  exact if_congr hdrop rfl rfl

theorem capBlanks_false_nil_cons_of_drop (h : started = false ∨ bound < run + 1) :
    capBlanks bound false run started ([] :: texts) =
      capBlanks bound false (run + 1) started texts := by
  rw [capBlanks_false_nil_cons, if_pos h]

theorem capBlanks_false_nil_cons_of_keep (h : run + 1 ≤ bound) :
    capBlanks bound false run true ([] :: texts) =
      [] :: capBlanks bound false (run + 1) true texts := by
  rw [capBlanks_false_nil_cons, if_neg]
  rintro (hstarted | hrun)
  · cases hstarted
  · omega

/-- What one empty line gives: it is left out or kept, and changes no more than the count. -/
theorem capBlanks_nil_cons (bound run : Nat) (inRaw started : Bool) :
    ∃ run' started', (∀ texts, capBlanks bound inRaw run started ([] :: texts) =
        capBlanks bound inRaw run' started' texts) ∨
      (∀ texts, capBlanks bound inRaw run started ([] :: texts) =
        [] :: capBlanks bound inRaw run' started' texts) := by
  cases inRaw with
  | true => exact ⟨0, true, .inr fun texts => capBlanks_true_nil_cons⟩
  | false =>
    by_cases hdrop : started = false ∨ bound < run + 1
    · exact ⟨run + 1, started, .inl fun texts => capBlanks_false_nil_cons_of_drop hdrop⟩
    · obtain ⟨hstarted, hrun⟩ := not_or.mp hdrop
      obtain rfl : started = true := by simpa using hstarted
      exact ⟨run + 1, true, .inr fun texts => capBlanks_false_nil_cons_of_keep (by omega)⟩

/-- Where a raw block is taken for open, it does not matter what was counted before. -/
theorem capBlanks_true (run : Nat) (started : Bool) (texts : List (List Char)) :
    capBlanks bound true run started texts = capBlanks bound true 0 true texts := by
  rcases texts with _ | ⟨text, texts⟩
  · rfl
  by_cases h : text = []
  · subst h
    rw [capBlanks_true_nil_cons, capBlanks_true_nil_cons]
  · rw [capBlanks_cons_of_ne_nil h, capBlanks_cons_of_ne_nil h]

/-! ### What is left out -/

/-- Only empty lines are left out. -/
theorem filter_capBlanks (bound run : Nat) (inRaw started : Bool) (texts : List (List Char)) :
    (capBlanks bound inRaw run started texts).filter (· ≠ []) = texts.filter (· ≠ []) := by
  induction texts generalizing inRaw run started with
  | nil => rfl
  | cons text texts ih =>
    by_cases h : text = []
    · subst h
      obtain ⟨run', started', hcap | hcap⟩ := capBlanks_nil_cons bound run inRaw started <;>
        simpa [hcap] using ih run' inRaw started'
    · rw [capBlanks_cons_of_ne_nil h, List.filter_cons, ih, List.filter_cons]

theorem length_capBlanks_le (bound run : Nat) (inRaw started : Bool) (texts : List (List Char)) :
    (capBlanks bound inRaw run started texts).length ≤ texts.length := by
  induction texts generalizing inRaw run started with
  | nil => exact Nat.le_refl _
  | cons text texts ih =>
    by_cases h : text = []
    · subst h
      obtain ⟨run', started', hcap | hcap⟩ := capBlanks_nil_cons bound run inRaw started
      · rw [hcap]
        exact (ih run' inRaw started').trans (Nat.le_succ _)
      · rw [hcap]
        exact Nat.succ_le_succ (ih run' inRaw started')
    · rw [capBlanks_cons_of_ne_nil h]
      exact Nat.succ_le_succ (ih ..)

/-! ### A second time -/

/-- Where empty lines are left out, none comes first. -/
theorem head?_capBlanks_ne_nil (h : started = false ∨ bound < run + 1) :
    (capBlanks bound false run started texts).head? ≠ some [] := by
  induction texts generalizing run with
  | nil => simp [capBlanks]
  | cons text texts ih =>
    by_cases hnil : text = []
    · subst hnil
      rw [capBlanks_false_nil_cons_of_drop h]
      exact ih (h.imp_right fun hrun => by omega)
    · rw [capBlanks_cons_of_ne_nil hnil]
      simpa using hnil

/-- How many empty lines stand before does not count if none comes first. -/
theorem capBlanks_eq_of_head?_ne_nil (h : texts.head? ≠ some []) (run' : Nat) (started' : Bool) :
    capBlanks bound inRaw run started texts = capBlanks bound inRaw run' started' texts := by
  rcases texts with _ | ⟨text, texts⟩
  · rfl
  · have hnil : text ≠ [] := by simpa using h
    rw [capBlanks_cons_of_ne_nil hnil, capBlanks_cons_of_ne_nil hnil]

/-- **A second time** nothing is left out. -/
theorem capBlanks_capBlanks (bound run : Nat) (inRaw started : Bool) (texts : List (List Char)) :
    capBlanks bound inRaw run started (capBlanks bound inRaw run started texts) =
      capBlanks bound inRaw run started texts := by
  induction texts generalizing inRaw run started with
  | nil => rfl
  | cons text texts ih =>
    by_cases hnil : text = []
    · subst hnil
      cases inRaw with
      | true => rw [capBlanks_true_nil_cons, capBlanks_true_nil_cons, ih]
      | false =>
        by_cases hdrop : started = false ∨ bound < run + 1
        · -- the second time it is not there to be counted, and no empty line comes next
          have hhead : (capBlanks bound false (run + 1) started texts).head? ≠ some [] :=
            head?_capBlanks_ne_nil (hdrop.imp_right fun hrun => by omega)
          rw [capBlanks_false_nil_cons_of_drop hdrop,
            capBlanks_eq_of_head?_ne_nil hhead (run + 1) started, ih]
        · obtain ⟨hstarted, hrun⟩ := not_or.mp hdrop
          obtain rfl : started = true := by simpa using hstarted
          have hkeep : run + 1 ≤ bound := by omega
          rw [capBlanks_false_nil_cons_of_keep hkeep, capBlanks_false_nil_cons_of_keep hkeep, ih]
    · rw [capBlanks_cons_of_ne_nil hnil, capBlanks_cons_of_ne_nil hnil, ih]

/-! ### Cuts -/

/-- **A line that is not empty** cuts the work in two. -/
theorem capBlanks_append_cons (h : text ≠ []) (before : List (List Char)) :
    capBlanks bound inRaw run started (before ++ text :: texts) =
      capBlanks bound inRaw run started before ++
        text :: capBlanks bound (toggleAfter (before.foldl toggleAfter inRaw) text) 0 true texts := by
  induction before generalizing inRaw run started with
  | nil => exact capBlanks_cons_of_ne_nil h
  | cons first before ih =>
    by_cases hfirst : first = []
    · subst hfirst
      obtain ⟨run', started', hcap | hcap⟩ := capBlanks_nil_cons bound run inRaw started <;>
        simp [hcap, ih]
    · simp [capBlanks_cons_of_ne_nil hfirst, ih]

/-- So does every place where a raw block is taken for open. -/
theorem capBlanks_append_of_toggled {before : List (List Char)}
    (h : before.foldl toggleAfter inRaw = true) :
    capBlanks bound inRaw run started (before ++ texts) =
      capBlanks bound inRaw run started before ++ capBlanks bound true 0 true texts := by
  induction before generalizing inRaw run started with
  | nil =>
    obtain rfl : inRaw = true := h
    exact capBlanks_true run started texts
  | cons first before ih =>
    rw [List.foldl_cons] at h
    by_cases hfirst : first = []
    · subst hfirst
      rw [toggleAfter_nil] at h
      obtain ⟨run', started', hcap | hcap⟩ := capBlanks_nil_cons bound run inRaw started <;>
        simp [hcap, ih h]
    · simp [capBlanks_cons_of_ne_nil hfirst, ih h]

/-- A line that is not empty comes from the same line, and the lines on each side of it from those on
that side. -/
theorem exists_of_capBlanks_eq_append_cons {before after : List (List Char)} (h : text ≠ [])
    (hcap : capBlanks bound inRaw run started texts = before ++ text :: after) :
    ∃ before' after', texts = before' ++ text :: after' ∧
      capBlanks bound inRaw run started before' = before ∧
      capBlanks bound (toggleAfter (before'.foldl toggleAfter inRaw) text) 0 true after' = after := by
  induction texts generalizing inRaw run started before with
  | nil => simp [capBlanks] at hcap
  | cons first texts ih =>
    by_cases hfirst : first = []
    · subst hfirst
      obtain ⟨run', started', hnil | hnil⟩ := capBlanks_nil_cons bound run inRaw started
      · obtain ⟨before', after', rfl, hbefore, hafter⟩ := ih ((hnil texts).symm.trans hcap)
        exact ⟨[] :: before', after', rfl, (hnil before').trans hbefore, by simpa using hafter⟩
      · rw [hnil] at hcap
        rcases before with _ | ⟨b, before⟩
        · exact absurd (List.cons.inj hcap).1.symm h
        · obtain ⟨rfl, hrest⟩ := List.cons.inj hcap
          obtain ⟨before', after', rfl, hbefore, hafter⟩ := ih hrest
          exact ⟨[] :: before', after', rfl, by rw [hnil, hbefore], by simpa using hafter⟩
    · rw [capBlanks_cons_of_ne_nil hfirst] at hcap
      rcases before with _ | ⟨b, before⟩
      · obtain ⟨rfl, hrest⟩ := List.cons.inj hcap
        exact ⟨[], texts, rfl, rfl, hrest⟩
      · obtain ⟨rfl, hrest⟩ := List.cons.inj hcap
        obtain ⟨before', after', rfl, hbefore, hafter⟩ := ih hrest
        exact ⟨first :: before', after', rfl,
          by rw [capBlanks_cons_of_ne_nil hfirst, hbefore], by simpa using hafter⟩

end capBlanks

/-! ### Where a raw block is taken for open -/

/-- There all lines are kept. -/
theorem capBlanks_raw {bound : Nat} {texts : List (List Char)}
    (h : ∀ t ∈ texts, isToggle t = false) (rest : List (List Char)) :
    capBlanks bound true 0 true (texts ++ rest) = texts ++ capBlanks bound true 0 true rest := by
  induction texts with
  | nil => rfl
  | cons t texts ih =>
    obtain ⟨ht, htexts⟩ := List.forall_mem_cons.mp h
    by_cases hnil : t = []
    · subst hnil
      rw [List.cons_append, capBlanks_true_nil_cons, ih htexts, List.cons_append]
    · rw [List.cons_append, capBlanks_cons_of_ne_nil hnil, toggleAfter, ht, Bool.xor_false,
        ih htexts, List.cons_append]

theorem capBlanks_raw_eq_self {bound : Nat} {texts : List (List Char)}
    (h : ∀ t ∈ texts, isToggle t = false) : capBlanks bound true 0 true texts = texts := by
  have hraw : capBlanks bound true 0 true (texts ++ []) = texts ++ [] := capBlanks_raw h []
  rwa [List.append_nil] at hraw

/-! ### Elsewhere -/

/-- No more than so many empty lines stand one after the other. -/
def RunsWithin (bound : Nat) (texts : List (List Char)) : Prop :=
  ∀ n, List.replicate n [] <:+: texts → n ≤ bound

theorem replicate_infix_cases {α : Type} {x a : α} (h : a ≠ x) {n : Nat} {s t : List α}
    (hcopies : List.replicate n x <:+: s ++ a :: t) :
    List.replicate n x <:+: s ∨ List.replicate n x <:+: t := by
  obtain ⟨u, v, huv⟩ := hcopies
  rcases List.append_eq_append_iff.mp huv with ⟨w, hs, -⟩ | ⟨w, hu, hw⟩
  · exact .inl ⟨u, w, hs.symm⟩
  -- the copies end behind `s`: unless they end with it, they start behind `a`
  rcases w with _ | ⟨b, w⟩
  · exact .inl ⟨u, [], by simpa using hu⟩
  obtain ⟨rfl, rfl⟩ := List.cons.inj hw
  rcases List.append_eq_append_iff.mp hu with ⟨y, hs, hy⟩ | ⟨y, hu, hy⟩
  · have hmem : a ∈ List.replicate n x := hy ▸ List.mem_append_right y List.mem_cons_self
    exact absurd (List.eq_of_mem_replicate hmem) h
  · rcases y with _ | ⟨b, y⟩
    · have hmem : a ∈ List.replicate n x := by
        rw [← List.nil_append (List.replicate n x), ← hy]
        exact List.mem_cons_self
      exact absurd (List.eq_of_mem_replicate hmem) h
    · obtain ⟨rfl, rfl⟩ := List.cons.inj hy
      exact .inr ⟨y, v, rfl⟩

theorem runsWithin_replicate_iff {bound n : Nat} :
    RunsWithin bound (List.replicate n []) ↔ n ≤ bound := by
  constructor
  · exact fun h => h n (List.infix_refl _)
  · intro h m hm
    have hlength := hm.length_le
    simp only [List.length_replicate] at hlength
    omega

theorem runsWithin_append_cons_iff {bound : Nat} {t : List Char} (ht : t ≠ [])
    {before after : List (List Char)} :
    RunsWithin bound (before ++ t :: after) ↔ RunsWithin bound before ∧ RunsWithin bound after := by
  constructor
  · exact fun h => ⟨fun n hn => h n (hn.trans (List.prefix_append _ _).isInfix),
      fun n hn => h n (hn.trans ((List.suffix_cons t after).trans (List.suffix_append _ _)).isInfix)⟩
  · rintro ⟨hbefore, hafter⟩ n hn
    exact (replicate_infix_cases ht hn).elim (hbefore n) (hafter n)

/-- Behind `run` empty lines, lines stay as they are just if no run of empty ones is too long. -/
theorem capBlanks_run_eq_self_iff {bound run : Nat} (hrun : run ≤ bound) {texts : List (List Char)}
    (h : ∀ t ∈ texts, isToggle t = false) :
    capBlanks bound false run true texts = texts ↔
      RunsWithin bound (List.replicate run [] ++ texts) := by
  induction texts generalizing run with
  | nil =>
    rw [List.append_nil, runsWithin_replicate_iff]
    exact iff_of_true rfl hrun
  | cons t texts ih =>
    obtain ⟨ht, htexts⟩ := List.forall_mem_cons.mp h
    by_cases hnil : t = []
    · subst hnil
      have hmove : List.replicate run [] ++ [] :: texts = List.replicate (run + 1) [] ++ texts := by
        rw [List.replicate_succ', List.append_assoc, List.singleton_append]
      rw [hmove]
      by_cases hkeep : run + 1 ≤ bound
      · rw [capBlanks_false_nil_cons_of_keep hkeep, List.cons_inj_right, ih hkeep htexts]
      · rw [capBlanks_false_nil_cons_of_drop (.inr (by omega))]
        refine iff_of_false (fun heq => ?_) fun hwithin => hkeep ?_
        · -- what is left of the lines behind it is too short
          have hlength := length_capBlanks_le bound (run + 1) false true texts
          rw [heq, List.length_cons] at hlength
          omega
        · exact hwithin (run + 1) (List.prefix_append _ _).isInfix
    · rw [capBlanks_cons_of_ne_nil hnil, toggleAfter, ht, Bool.xor_false, List.cons_inj_right,
        ih (Nat.zero_le _) htexts, runsWithin_append_cons_iff hnil, runsWithin_replicate_iff]
      simp [hrun]

/-- **Outside of raw blocks** lines stay as they are just if no run of empty ones is too long. -/
theorem capBlanks_eq_self_iff {bound : Nat} {texts : List (List Char)}
    (h : ∀ t ∈ texts, isToggle t = false) :
    capBlanks bound false 0 true texts = texts ↔ RunsWithin bound texts :=
  capBlanks_run_eq_self_iff (Nat.zero_le bound) h

/-! ### The end -/

theorem dropEmptyEnd_eq_rdropWhile (ls : List (List Char)) :
    dropEmptyEnd ls = ls.rdropWhile List.isEmpty := rfl

/-- What stands before a line that is not empty stays. -/
theorem dropEmptyEnd_append_cons {t : List Char} (ht : t ≠ []) (before after : List (List Char)) :
    dropEmptyEnd (before ++ t :: after) = before ++ t :: dropEmptyEnd after := by
  simp only [dropEmptyEnd_eq_rdropWhile]
  induction after using List.reverseRecOn with
  | nil => exact List.rdropWhile_concat_neg _ before t (by simpa using ht)
  | append_singleton after last ih =>
    rw [← List.cons_append, ← List.append_assoc]
    by_cases hlast : last.isEmpty = true
    · rw [List.rdropWhile_concat_pos _ _ _ hlast, List.rdropWhile_concat_pos _ _ _ hlast, ih]
    · rw [List.rdropWhile_concat_neg _ _ _ hlast, List.rdropWhile_concat_neg _ _ _ hlast,
        List.append_assoc, List.cons_append]

theorem exists_eq_dropEmptyEnd_append (ls : List (List Char)) :
    ∃ n, ls = dropEmptyEnd ls ++ List.replicate n [] := by
  refine ⟨(ls.rtakeWhile List.isEmpty).length, ?_⟩
  have hempty : ls.rtakeWhile List.isEmpty =
      List.replicate (ls.rtakeWhile List.isEmpty).length [] :=
    List.eq_replicate_iff.mpr ⟨rfl, fun t ht =>
      List.isEmpty_iff.mp (List.mem_rtakeWhile_imp ht)⟩
  rw [← hempty]
  exact List.rdropWhile_append_rtakeWhile.symm

theorem filter_dropEmptyEnd (ls : List (List Char)) :
    (dropEmptyEnd ls).filter (· ≠ []) = ls.filter (· ≠ []) := by
  obtain ⟨n, hls⟩ := exists_eq_dropEmptyEnd_append ls
  conv_rhs => rw [hls, List.filter_append, List.filter_replicate]
  simp

/-- The last line that is left is not empty. -/
theorem ne_nil_of_getLast?_dropEmptyEnd {ls : List (List Char)} {t : List Char}
    (h : (dropEmptyEnd ls).getLast? = some t) : t ≠ [] := by
  obtain ⟨before, hls⟩ := List.getLast?_eq_some_iff.mp h
  have hlast := List.rdropWhile_last_not List.isEmpty ls
    (by rw [← dropEmptyEnd_eq_rdropWhile, hls]; simp)
  simpa [← dropEmptyEnd_eq_rdropWhile, hls] using hlast

/-! ### Runs between other lines -/

/-- Behind some lines stands a run of empty ones. -/
theorem exists_eq_append_cons_replicate (texts : List (List Char)) :
    (∃ n, texts = List.replicate n []) ∨
      ∃ before t n, t ≠ [] ∧ texts = before ++ t :: List.replicate n [] := by
  obtain ⟨n, htexts⟩ := exists_eq_dropEmptyEnd_append texts
  rcases List.eq_nil_or_concat' (dropEmptyEnd texts) with hnil | ⟨before, t, hconcat⟩
  · exact .inl ⟨n, by simpa [hnil] using htexts⟩
  · have ht : t ≠ [] := ne_nil_of_getLast?_dropEmptyEnd (by rw [hconcat]; simp)
    exact .inr ⟨before, t, n, ht, by simpa [hconcat] using htexts⟩

/-- Before some lines stands a run of empty ones. -/
theorem exists_eq_replicate_append_cons (texts : List (List Char)) :
    (∃ n, texts = List.replicate n []) ∨
      ∃ n u after, u ≠ [] ∧ texts = List.replicate n [] ++ u :: after := by
  induction texts with
  | nil => exact .inl ⟨0, rfl⟩
  | cons t texts ih =>
    by_cases ht : t = []
    · subst ht
      rcases ih with ⟨n, rfl⟩ | ⟨n, u, after, hu, rfl⟩
      · exact .inl ⟨n + 1, rfl⟩
      · exact .inr ⟨n + 1, u, after, hu, rfl⟩
    · exact .inr ⟨0, t, texts, ht, rfl⟩

/-- A run that is neither at the start nor at the end is part of one between two other lines. -/
theorem exists_run_between {texts before after : List (List Char)} {n : Nat} (hn : n ≠ 0)
    (htexts : texts = before ++ List.replicate n [] ++ after) (hfirst : texts.head? ≠ some [])
    (hlast : texts.getLast? ≠ some []) :
    ∃ before' t a m u after', t ≠ [] ∧ u ≠ [] ∧ n ≤ m ∧ before = before' ++ t :: List.replicate a [] ∧
      texts = before' ++ t :: (List.replicate m [] ++ u :: after') := by
  obtain ⟨k, rfl⟩ := Nat.exists_eq_succ_of_ne_zero hn
  rcases exists_eq_append_cons_replicate before with ⟨a, rfl⟩ | ⟨before', t, a, ht, rfl⟩
  · -- the texts would start with the run
    refine absurd ?_ hfirst
    rw [htexts, List.replicate_append_replicate, Nat.add_succ, List.replicate_succ]
    rfl
  rcases exists_eq_replicate_append_cons after with ⟨b, rfl⟩ | ⟨b, u, after', hu, rfl⟩
  · -- they would end with it
    refine absurd ?_ hlast
    rw [htexts, List.append_assoc, List.replicate_append_replicate, Nat.succ_add,
      List.replicate_succ', ← List.append_assoc, List.getLast?_concat]
  · refine ⟨before', t, a, a + (k + 1) + b, u, after', ht, hu, by omega, rfl, ?_⟩
    rw [htexts, ← List.replicate_append_replicate, ← List.replicate_append_replicate]
    simp only [List.append_assoc, List.cons_append]

/-- **A second time** nothing is left out, nor without the empty lines at the end. -/
theorem capBlanks_dropEmptyEnd_capBlanks (bound run : Nat) (inRaw started : Bool)
    (texts : List (List Char)) :
    dropEmptyEnd (capBlanks bound inRaw run started
        (dropEmptyEnd (capBlanks bound inRaw run started texts))) =
      dropEmptyEnd (capBlanks bound inRaw run started texts) := by
  rcases List.eq_nil_or_concat' (dropEmptyEnd (capBlanks bound inRaw run started texts)) with
    hnil | ⟨before, t, hconcat⟩
  · rw [hnil]
    rfl
  have ht : t ≠ [] := ne_nil_of_getLast?_dropEmptyEnd (by rw [hconcat]; simp)
  -- up to its last line, what is printed is what is left of the lines up to that one
  obtain ⟨n, hcap⟩ := exists_eq_dropEmptyEnd_append (capBlanks bound inRaw run started texts)
  rw [hconcat, List.append_assoc, List.singleton_append] at hcap
  obtain ⟨before', after', -, hbefore, -⟩ := exists_of_capBlanks_eq_append_cons ht hcap
  have hself : capBlanks bound inRaw run started (before' ++ [t]) = before ++ [t] := by
    rw [capBlanks_append_cons ht, hbefore]
    rfl
  rw [hconcat, ← hself, capBlanks_capBlanks, hself, dropEmptyEnd_append_cons ht]
  rfl

end Tincture.Format
