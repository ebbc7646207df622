import Mathlib.Data.List.Sort
import Tincture.Format.Imports
import Tincture.Proofs.Text.Trimming
import Tincture.Proofs.Text.WrittenLines

/-!
# Items of imports

Sorting the items of an import leaves the line alone or rewrites what follows its last `":`
(`sortImportItems_cases`), and a second time it changes nothing (`sortImportItems_sortImportItems`).
The line ends in white space just if there was nothing but commas to sort
(`trimEnd_sortImportItems_iff`).
-/

namespace Tincture.Format

open Text

/-! ### The last colon -/

/-- A text is cut where the rest of it is cut, or else behind its first character, a quotation mark
before a colon. -/
theorem splitAfterLastColon_cons (c : Char) (s : List Char) :
    splitAfterLastColon (c :: s) = match splitAfterLastColon s with
      | some (head, after) => some (c :: head, after)
      | none => if c = '"' ∧ s.head? = some ':' then some (['"', ':'], s.tail) else none := by
  rcases s with _ | ⟨d, s⟩
  · simp [splitAfterLastColon]
  by_cases hd : d = ':'
  · subst hd
    rw [splitAfterLastColon]
    cases splitAfterLastColon (':' :: s) <;> simp
  · rw [splitAfterLastColon]
    · cases splitAfterLastColon (d :: s) <;> simp [hd]
    · rintro after heq
      exact hd (List.cons.inj heq).1

theorem splitAfterLastColon_of_not_mem {s : List Char} (h : '"' ∉ s) :
    splitAfterLastColon s = none := by
  induction s with
  | nil => rfl
  | cons c s ih =>
    obtain ⟨hc, hs⟩ := List.ne_and_not_mem_of_not_mem_cons h
    rw [splitAfterLastColon_cons, ih hs]
    exact if_neg fun hquote => hc hquote.1.symm

/-- A text is cut behind a `":` if no quotation mark follows. -/
theorem splitAfterLastColon_append {rest : List Char} (h : '"' ∉ rest) (pre : List Char) :
    splitAfterLastColon (pre ++ '"' :: ':' :: rest) = some (pre ++ ['"', ':'], rest) := by
  induction pre with
  | nil =>
    have hcolon : splitAfterLastColon (':' :: rest) = none :=
      splitAfterLastColon_of_not_mem (by simpa using h)
    rw [List.nil_append, splitAfterLastColon_cons, hcolon]
    exact if_pos ⟨rfl, rfl⟩
  | cons c pre ih =>
    rw [List.cons_append, splitAfterLastColon_cons, ih]
    rfl

theorem exists_of_splitAfterLastColon {s head rest : List Char}
    (h : splitAfterLastColon s = some (head, rest)) :
    ∃ pre, head = pre ++ ['"', ':'] ∧ s = pre ++ '"' :: ':' :: rest := by
  induction s generalizing head with
  | nil => simp [splitAfterLastColon] at h
  | cons c s ih =>
    rw [splitAfterLastColon_cons] at h
    cases hs : splitAfterLastColon s with
    | some found =>
      obtain ⟨head', rest'⟩ := found
      rw [hs] at h
      obtain ⟨rfl, rfl⟩ := Prod.mk.inj (Option.some.inj h)
      obtain ⟨pre, rfl, rfl⟩ := ih hs
      exact ⟨c :: pre, rfl, rfl⟩
    | none =>
      rw [hs] at h
      dsimp only at h
      split at h
      · rename_i hquote
        obtain ⟨rfl, hcolon⟩ := hquote
        obtain ⟨s, rfl⟩ := List.head?_eq_some_iff.mp hcolon
        obtain ⟨rfl, rfl⟩ := Prod.mk.inj (Option.some.inj h)
        exact ⟨[], rfl, rfl⟩
      · cases h

/-! ### Items -/

/-- An item of an import: a text without commas and without white space around it. -/
structure IsItem (item : List Char) : Prop where
  ne_nil : item ≠ []
  trimmed : trim item = item
  no_comma : ',' ∉ item

theorem trim_subset (s : List Char) : trim s ⊆ s := by
  obtain ⟨lead, trail, -, -, hs⟩ := exists_eq_append_trim s
  intro c hc
  rw [hs]
  simp [hc]

theorem exists_piece_of_mem_importItems {s item : List Char} (h : item ∈ importItems s) :
    ∃ piece ∈ splitOn ',' s, item = trim piece ∧ item ≠ [] := by
  obtain ⟨hmap, hne⟩ := List.mem_filter.mp h
  obtain ⟨piece, hpiece, rfl⟩ := List.mem_map.mp hmap
  exact ⟨piece, hpiece, rfl, by simpa using hne⟩

theorem isItem_of_mem_importItems {s item : List Char} (h : item ∈ importItems s) :
    IsItem item := by
  obtain ⟨piece, hpiece, rfl, hne⟩ := exists_piece_of_mem_importItems h
  refine ⟨hne, trim_trim piece, fun hcomma => ?_⟩
  simpa using not_of_mem_splitWhen hpiece (trim_subset piece hcomma)

theorem mem_of_mem_importItems {s item : List Char} (h : item ∈ importItems s) {c : Char}
    (hc : c ∈ item) : c ∈ s := by
  obtain ⟨piece, hpiece, rfl, -⟩ := exists_piece_of_mem_importItems h
  exact mem_of_mem_splitOn hpiece (trim_subset piece hc)

/-- A list has no items if there are only commas and white space in it. -/
theorem importItems_eq_nil_iff {s : List Char} :
    importItems s = [] ↔ ∀ c ∈ s, c = ',' ∨ isBlank c = true := by
  have hpieces : importItems s = [] ↔ ∀ piece ∈ splitOn ',' s, ∀ c ∈ piece, isBlank c = true := by
    simp [importItems, List.filter_eq_nil_iff, trim_eq_nil_iff]
  have hflatten : (∀ piece ∈ splitOn ',' s, ∀ c ∈ piece, isBlank c = true) ↔
      ∀ c ∈ (splitOn ',' s).flatten, isBlank c = true := by
    simp only [List.mem_flatten]
    exact ⟨fun h c ⟨piece, hpiece, hc⟩ => h piece hpiece c hc,
      fun h piece hpiece c hc => h c ⟨piece, hpiece, hc⟩⟩
  rw [hpieces, hflatten, flatten_splitOn]
  simp only [List.mem_filter, decide_eq_true_eq, and_imp]
  exact forall₂_congr fun c _ => or_iff_not_imp_left.symm

theorem importItems_of_isItem {item : List Char} (h : IsItem item) :
    importItems item = [item] := by
  rw [importItems, splitOn_of_not_mem h.no_comma]
  simp [h.trimmed, h.ne_nil]

theorem importItems_append_cons {item : List Char} (h : IsItem item) (rest : List Char) :
    importItems (item ++ ',' :: rest) = item :: importItems rest := by
  rw [importItems, splitOn_append_cons h.no_comma, List.map_cons, h.trimmed,
    List.filter_cons_of_pos, ← importItems]
  simpa using h.ne_nil

theorem importItems_blank_cons (s : List Char) : importItems (' ' :: s) = importItems s := by
  obtain ⟨piece, more, hs, hcons⟩ := exists_splitOn_cons_of_ne (show ' ' ≠ ',' by decide) s
  rw [importItems, importItems, hs, hcons, List.map_cons, List.map_cons, trim_blank_cons]

theorem joinWith_cons_cons (sep item next : List Char) (items : List (List Char)) :
    joinWith sep (item :: next :: items) = item ++ sep ++ joinWith sep (next :: items) := by
  simp [joinWith]

/-- The items of a list are the ones it was put together from. -/
theorem importItems_joinWith {items : List (List Char)} (h : ∀ item ∈ items, IsItem item) :
    importItems (joinWith [',', ' '] items) = items := by
  induction items with
  | nil => rfl
  | cons item items ih =>
    obtain ⟨hitem, hitems⟩ := List.forall_mem_cons.mp h
    rcases items with _ | ⟨next, items⟩
    · exact importItems_of_isItem hitem
    · have hjoin : joinWith [',', ' '] (item :: next :: items) =
          item ++ ',' :: ' ' :: joinWith [',', ' '] (next :: items) := by
        rw [joinWith_cons_cons, List.append_assoc, List.cons_append, List.singleton_append]
      rw [hjoin, importItems_append_cons hitem, importItems_blank_cons, ih hitems]

/-- A list of items has no white space around it. -/
theorem trim_joinWith {items : List (List Char)} (h : ∀ item ∈ items, IsItem item) :
    trim (joinWith [',', ' '] items) = joinWith [',', ' '] items := by
  induction items with
  | nil => rfl
  | cons item items ih =>
    obtain ⟨hitem, hitems⟩ := List.forall_mem_cons.mp h
    rcases items with _ | ⟨next, items⟩
    · exact hitem.trimmed
    have hrest := ih hitems
    have hne : joinWith [',', ' '] (next :: items) ≠ [] := by
      have hnext := (hitems next List.mem_cons_self).ne_nil
      cases items <;> simp [joinWith, hnext]
    obtain ⟨hstart, -⟩ := trim_eq_self_iff.mp hitem.trimmed
    obtain ⟨-, hend⟩ := trim_eq_self_iff.mp hrest
    obtain ⟨c, item', rfl⟩ := List.exists_cons_of_ne_nil hitem.ne_nil
    have hc := isBlank_eq_false_of_trimStart_eq_cons hstart
    refine trim_eq_self_iff.mpr ⟨?_, ?_⟩
    · exact trimStart_cons_of_not_isBlank hc _
    · rw [joinWith_cons_cons, trimEnd_append (by rwa [hend]), hend]

/-! ### Order -/

theorem sorted_trans (a b c : List Char) (hab : (!decide (b < a)) = true)
    (hbc : (!decide (c < b)) = true) : (!decide (c < a)) = true := by
  simp only [Bool.not_eq_true', decide_eq_false_iff_not, List.not_lt] at hab hbc ⊢
  exact List.le_trans hab hbc

theorem sorted_total (a b : List Char) : (!decide (b < a) || !decide (a < b)) = true := by
  simpa only [Bool.or_eq_true, Bool.not_eq_true', decide_eq_false_iff_not, List.not_lt] using
    List.le_total a b

theorem sortItems_sortItems (items : List (List Char)) :
    sortItems (sortItems items) = sortItems items :=
  List.mergeSort_of_pairwise (List.pairwise_mergeSort sorted_trans sorted_total items)

theorem mem_sortItems_iff {items : List (List Char)} {item : List Char} :
    item ∈ sortItems items ↔ item ∈ items :=
  (List.mergeSort_perm items _).mem_iff

theorem sortItems_eq_nil_iff {items : List (List Char)} : sortItems items = [] ↔ items = [] := by
  rw [← List.length_eq_zero_iff, sortItems, List.length_mergeSort, List.length_eq_zero_iff]

/-! ### Sorting -/

/-- What follows the colon of an import can be sorted: it names items, and no more than that. -/
structure IsSortable (rest : List Char) : Prop where
  ne_nil : trim rest ≠ []
  ne_all : trim rest ≠ ['*']
  plain : ∀ c ∈ trim rest, c ≠ '(' ∧ c ≠ ')' ∧ c ≠ '`' ∧ c ≠ '"'

theorem sortImportItems_of_none {content : List Char} (h : splitAfterLastColon content = none) :
    sortImportItems content = content := by
  rw [sortImportItems, h]

theorem sortImportItems_of_not_isSortable {content head rest : List Char}
    (h : splitAfterLastColon content = some (head, rest)) (hrest : ¬ IsSortable rest) :
    sortImportItems content = content := by
  rw [sortImportItems, h]
  dsimp only
  refine if_pos ?_
  by_contra hguard
  refine hrest ⟨?_, ?_, ?_⟩ <;> simp_all

theorem sortImportItems_of_isSortable {content head rest : List Char}
    (h : splitAfterLastColon content = some (head, rest)) (hrest : IsSortable rest) :
    sortImportItems content =
      head ++ ' ' :: joinWith [',', ' '] (sortItems (importItems (trim rest))) := by
  rw [sortImportItems, h]
  dsimp only
  refine if_neg ?_
  have hplain : ∀ c ∈ trim rest, (c == '(' || c == ')' || c == '`' || c == '"') = false := by
    intro c hc
    obtain ⟨h1, h2, h3, h4⟩ := hrest.plain c hc
    simp [h1, h2, h3, h4]
  simpa [hrest.ne_nil, hrest.ne_all] using fun c hc => by simpa [and_assoc] using hplain c hc

/-- A character of a list of items is one of them or stands between them. -/
theorem mem_joinWith {items : List (List Char)} {c : Char}
    (h : c ∈ joinWith [',', ' '] items) : c = ',' ∨ c = ' ' ∨ ∃ item ∈ items, c ∈ item := by
  induction items with
  | nil => simp [joinWith] at h
  | cons item items ih =>
    rcases items with _ | ⟨next, items⟩
    · exact .inr (.inr ⟨item, List.mem_singleton_self item, h⟩)
    · rw [joinWith_cons_cons, List.append_assoc, List.mem_append, List.mem_append] at h
      rcases h with hmem | hmem | hmem
      · exact .inr (.inr ⟨item, List.mem_cons_self, hmem⟩)
      · simp only [List.mem_cons, List.not_mem_nil, or_false] at hmem
        exact hmem.elim .inl fun hblank => .inr (.inl hblank)
      · rcases ih hmem with hcomma | hblank | ⟨item', hitem, hc⟩
        · exact .inl hcomma
        · exact .inr (.inl hblank)
        · exact .inr (.inr ⟨item', List.mem_cons_of_mem _ hitem, hc⟩)

/-- **Sorting an import** leaves it alone, or writes the items behind its last colon in order. -/
theorem sortImportItems_cases (content : List Char) :
    sortImportItems content = content ∨ ∃ pre rest, content = pre ++ '"' :: ':' :: rest ∧
      splitAfterLastColon content = some (pre ++ ['"', ':'], rest) ∧ IsSortable rest ∧
      sortImportItems content = pre ++ '"' :: ':' :: ' ' ::
        joinWith [',', ' '] (sortItems (importItems (trim rest))) := by
  cases hsplit : splitAfterLastColon content with
  | none => exact .inl (sortImportItems_of_none hsplit)
  | some found =>
    obtain ⟨head, rest⟩ := found
    by_cases hrest : IsSortable rest
    · obtain ⟨pre, rfl, hcontent⟩ := exists_of_splitAfterLastColon hsplit
      refine .inr ⟨pre, rest, hcontent, rfl, hrest, ?_⟩
      rw [sortImportItems_of_isSortable hsplit hrest, List.append_assoc, List.cons_append,
        List.cons_append, List.nil_append]
    · exact .inl (sortImportItems_of_not_isSortable hsplit hrest)

theorem isItem_of_mem_sortItems {s item : List Char} (h : item ∈ sortItems (importItems s)) :
    IsItem item :=
  isItem_of_mem_importItems (mem_sortItems_iff.mp h)

/-- **Sorting again** changes nothing. -/
theorem sortImportItems_sortImportItems (content : List Char) :
    sortImportItems (sortImportItems content) = sortImportItems content := by
  rcases sortImportItems_cases content with hsame | ⟨pre, rest, -, -, hrest, hsort⟩
  · rw [hsame, hsame]
  rw [hsort]
  set items := sortItems (importItems (trim rest)) with hitems
  have hitem : ∀ item ∈ items, IsItem item := fun item hmem => isItem_of_mem_sortItems hmem
  -- no quotation mark comes behind the colon, so the line is split there again
  have hquote : '"' ∉ ' ' :: joinWith [',', ' '] items := by
    intro hmem
    rcases mem_joinWith ((List.mem_cons.mp hmem).resolve_left (by decide)) with
      hcomma | hblank | ⟨item, hmem, hc⟩
    · exact absurd hcomma (by decide)
    · exact absurd hblank (by decide)
    · exact (hrest.plain _ (mem_of_mem_importItems (mem_sortItems_iff.mp hmem) hc)).2.2.2 rfl
  have hsplit := splitAfterLastColon_append hquote pre
  by_cases hagain : IsSortable (' ' :: joinWith [',', ' '] items)
  · have htrim : trim (' ' :: joinWith [',', ' '] items) = joinWith [',', ' '] items :=
      (trim_blank_cons _).trans (trim_joinWith hitem)
    rw [sortImportItems_of_isSortable hsplit hagain, htrim, importItems_joinWith hitem, hitems,
      sortItems_sortItems]
    simp
  · exact sortImportItems_of_not_isSortable hsplit hagain

/-! ### What a sorted import looks like -/

/-- Something stands between the commas behind the last colon, if there are any. -/
def NamesItems (content : List Char) : Prop :=
  ∀ head rest, splitAfterLastColon content = some (head, rest) → trim rest ≠ [] →
    importItems (trim rest) ≠ []

instance (content : List Char) : Decidable (NamesItems content) :=
  decidable_of_iff (∀ found ∈ splitAfterLastColon content,
      trim found.2 ≠ [] → importItems (trim found.2) ≠ [])
    ⟨fun h head rest hsplit => h (head, rest) hsplit, fun h found hsplit => h found.1 found.2 hsplit⟩

/-- A sorted import ends in white space just if there was nothing but commas to sort. -/
theorem trimEnd_sortImportItems_iff {content : List Char} (h : trimEnd content = content) :
    trimEnd (sortImportItems content) = sortImportItems content ↔ NamesItems content := by
  cases hsplit : splitAfterLastColon content with
  | none =>
    rw [sortImportItems_of_none hsplit]
    exact iff_of_true h fun head rest hsome => by simp [hsplit] at hsome
  | some found =>
    obtain ⟨head, rest⟩ := found
    have hnames : NamesItems content ↔ (trim rest ≠ [] → importItems (trim rest) ≠ []) := by
      simp [NamesItems, hsplit]
    rw [hnames]
    by_cases hrest : IsSortable rest
    · rw [sortImportItems_of_isSortable hsplit hrest]
      have hitem : ∀ item ∈ sortItems (importItems (trim rest)), IsItem item :=
        fun item hmem => isItem_of_mem_sortItems hmem
      by_cases hitems : importItems (trim rest) = []
      · -- there is nothing to write behind the blank
        have hblank : trimEnd (head ++ [' ']) ≠ head ++ [' '] := by
          intro heq
          exact absurd (trimEnd_eq_self_iff.mp heq ' ' (by simp)) (by decide)
        rw [hitems, sortItems_eq_nil_iff.mpr rfl, joinWith]
        exact iff_of_false hblank fun hne => hne hrest.ne_nil rfl
      · have hne : joinWith [',', ' '] (sortItems (importItems (trim rest))) ≠ [] := by
          intro hnil
          have hjoin := importItems_joinWith hitem
          rw [hnil] at hjoin
          exact hitems (sortItems_eq_nil_iff.mp hjoin.symm)
        have hend := (trim_eq_self_iff.mp (trim_joinWith hitem)).2
        refine iff_of_true ?_ fun _ => hitems
        rw [← List.singleton_append, ← List.append_assoc, trimEnd_append (by rwa [hend]), hend]
    · -- commas and white space alone could be sorted
      rw [sortImportItems_of_not_isSortable hsplit hrest]
      refine iff_of_true h fun hne hitems => hrest ⟨hne, ?_, fun c hc => ?_⟩
      · intro hall
        rw [hall] at hitems
        exact absurd hitems (by decide)
      · rcases importItems_eq_nil_iff.mp hitems c hc with rfl | hblank
        · decide
        · refine ⟨?_, ?_, ?_, ?_⟩ <;> rintro rfl <;> exact absurd hblank (by decide)

/-- What stands before the colon stays. -/
theorem prefix_sortImportItems {start content : List Char} (hquote : '"' ∉ start)
    (h : start <+: content) : start <+: sortImportItems content := by
  rcases sortImportItems_cases content with hsame | ⟨pre, rest, hcontent, -, -, hsort⟩
  · rwa [hsame]
  rw [hcontent] at h
  rw [hsort]
  refine List.IsPrefix.trans ?_ (List.prefix_append pre _)
  rcases List.prefix_or_prefix_of_prefix h (List.prefix_append pre _) with hpre | hlonger
  · exact hpre
  · -- a start that goes on behind `pre` would hold the quotation mark
    obtain ⟨more, rfl⟩ := hlonger
    rcases more with _ | ⟨c, more⟩
    · simp
    · rw [List.prefix_append_right_inj, List.cons_prefix_cons] at h
      exact absurd (h.1 ▸ List.mem_append_right pre List.mem_cons_self) hquote

theorem mem_of_mem_sortImportItems {content : List Char} {c : Char}
    (h : c ∈ sortImportItems content) : c ∈ content ∨ c = ',' ∨ c = ' ' := by
  rcases sortImportItems_cases content with hsame | ⟨pre, rest, hcontent, -, -, hsort⟩
  · exact .inl (hsame ▸ h)
  rw [hsort, List.mem_append] at h
  rcases h with hmem | hmem
  · exact .inl (by rw [hcontent]; exact List.mem_append_left _ hmem)
  simp only [List.mem_cons] at hmem
  rcases hmem with rfl | rfl | rfl | hmem
  · exact .inl (by simp [hcontent])
  · exact .inl (by simp [hcontent])
  · exact .inr (.inr rfl)
  rcases mem_joinWith hmem with hcomma | hblank | ⟨item, hitem, hc⟩
  · exact .inr (.inl hcomma)
  · exact .inr (.inr hblank)
  · have hmem := trim_subset rest (mem_of_mem_importItems (mem_sortItems_iff.mp hitem) hc)
    exact .inl (by simp [hcontent, hmem])

end Tincture.Format
