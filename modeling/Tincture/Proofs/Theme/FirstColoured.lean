import Mathlib.Data.List.Basic
import Tincture.Proofs.Text.WrittenLines
import Tincture.Proofs.Theme.DottedPrefixes

/-!
# The first coloured candidate

A candidate for a stack of scopes is what stands before a dot of one of them, with the language of
the stack or without it (`Candidate.Of`). Candidates are tried from the innermost scope outwards, in
a scope from the longest piece on, and of each piece first the one with the language
(`Candidate.Before`). The list that is searched holds all candidates in this order
(`mem_listed_iff`, `pairwise_listed`), so that the scope that is shown is the first that the theme
colours (`resolve_eq_some_iff`).
-/

namespace Tincture

open Text

/-- What is found in a list is its first element with the property, in the order of the list. -/
theorem find?_eq_some_iff_of_pairwise {α : Type*} {r : α → α → Prop}
    (hasymm : ∀ a b, r a b → ¬ r b a) {l : List α} (hl : l.Pairwise r) {p : α → Bool} {a : α} :
    l.find? p = some a ↔ a ∈ l ∧ p a = true ∧ ∀ b ∈ l, r b a → p b = false := by
  rw [List.find?_eq_some_iff_append]
  constructor
  · rintro ⟨ha, before, after, rfl, hbefore⟩
    refine ⟨by simp, ha, fun b hb hba => ?_⟩
    have hafter := (List.pairwise_cons.mp (List.pairwise_append.mp hl).2.1).1
    rcases List.mem_append.mp hb with hb | hb
    · simpa using hbefore b hb
    · rcases List.mem_cons.mp hb with rfl | hb
      · exact absurd hba (hasymm b b hba)
      · exact absurd hba (hasymm a b (hafter b hb))
  · rintro ⟨hmem, ha, hfirst⟩
    obtain ⟨before, after, rfl⟩ := List.append_of_mem hmem
    refine ⟨ha, before, after, rfl, fun b hb => ?_⟩
    have hba := (List.pairwise_append.mp hl).2.2 b hb a List.mem_cons_self
    simpa using hfirst b (List.mem_append_left _ hb) hba

namespace DisplayToken

/-! ### Candidates -/

/-- A piece of the scope with a number in its stack, the outermost being the first, tried with the
language of the stack or without it. -/
structure Candidate where
  index : Nat
  piece : List Char
  qualified : Bool

namespace Candidate

/-- The piece stands before a dot of the scope. -/
def Of (scopes : List String) (c : Candidate) : Prop :=
  ∃ scope, scopes[c.index]? = some scope ∧ c.piece ++ ['.'] <+: scope.toList

/-- The scope that a candidate proposes. -/
def scope (base : String) (c : Candidate) : String :=
  String.ofList (if c.qualified then c.piece ++ '.' :: base.toList else c.piece)

/-- The order in which candidates are tried. -/
inductive Before : Candidate → Candidate → Prop where
  | inner {c d : Candidate} (h : d.index < c.index) : Before c d
  | longer {c d : Candidate} (hindex : c.index = d.index) (h : d.piece.length < c.piece.length) :
    Before c d
  | qualified (index : Nat) (piece : List Char) : Before ⟨index, piece, true⟩ ⟨index, piece, false⟩

theorem Before.asymm {c d : Candidate} (h : Before c d) : ¬ Before d c := by
  intro h'
  cases h with
  | inner h =>
    cases h' with
    | inner h' => omega
    | longer hindex => omega
    | qualified => exact Nat.lt_irrefl _ h
  | longer hindex h =>
    cases h' with
    | inner h' => omega
    | longer _ h' => omega
    | qualified => exact Nat.lt_irrefl _ h
  | qualified index piece =>
    cases h' with
    | inner h' => exact Nat.lt_irrefl _ h'
    | longer _ h' => exact Nat.lt_irrefl _ h'

/-- The candidates of a piece. -/
def ofPiece (index : Nat) (piece : List Char) : List Candidate :=
  [⟨index, piece, true⟩, ⟨index, piece, false⟩]

/-- The candidates of a scope, in the order in which they are tried. -/
def ofScope (index : Nat) (scope : String) : List Candidate :=
  (beforeDots scope.toList).reverse.flatMap (ofPiece index)

/-- The candidates of a stack, in the order in which they are tried. -/
def listed (scopes : List String) : List Candidate :=
  scopes.zipIdx.reverse.flatMap fun (scope, index) => ofScope index scope

theorem mem_ofPiece_iff {index : Nat} {piece : List Char} {c : Candidate} :
    c ∈ ofPiece index piece ↔ c.index = index ∧ c.piece = piece := by
  obtain ⟨i, p, q⟩ := c
  cases q <;> simp [ofPiece]

theorem mem_ofScope_iff {index : Nat} {scope : String} {c : Candidate} :
    c ∈ ofScope index scope ↔ c.index = index ∧ c.piece ++ ['.'] <+: scope.toList := by
  rw [← mem_beforeDots_iff, ofScope, List.mem_flatMap]
  simp only [List.mem_reverse, mem_ofPiece_iff]
  constructor
  · rintro ⟨piece, hpiece, rfl, rfl⟩
    exact ⟨rfl, hpiece⟩
  · rintro ⟨rfl, hpiece⟩
    exact ⟨c.piece, hpiece, rfl, rfl⟩

/-- All candidates are listed. -/
theorem mem_listed_iff {scopes : List String} {c : Candidate} :
    c ∈ listed scopes ↔ c.Of scopes := by
  rw [listed, List.mem_flatMap, Of]
  constructor
  · rintro ⟨⟨scope, index⟩, hscope, hc⟩
    obtain ⟨rfl, hpiece⟩ := mem_ofScope_iff.mp hc
    exact ⟨scope, List.mem_zipIdx_iff_getElem?.mp (List.mem_reverse.mp hscope), hpiece⟩
  · rintro ⟨scope, hscope, hpiece⟩
    exact ⟨(scope, c.index), List.mem_reverse.mpr (List.mem_zipIdx_iff_getElem?.mpr hscope),
      mem_ofScope_iff.mpr ⟨rfl, hpiece⟩⟩

theorem pairwise_ofScope (index : Nat) (scope : String) :
    (ofScope index scope).Pairwise Before := by
  rw [ofScope, List.pairwise_flatMap]
  constructor
  · intro piece _
    simp [ofPiece, Before.qualified]
  · rw [List.pairwise_reverse]
    refine (pairwise_beforeDots _).imp fun {a b} hab c hc d hd => ?_
    obtain ⟨rfl, rfl⟩ := mem_ofPiece_iff.mp hc
    obtain ⟨hindex, rfl⟩ := mem_ofPiece_iff.mp hd
    refine .longer hindex.symm (Nat.lt_of_le_of_ne hab.1.length_le fun hlen => ?_)
    exact hab.2 (hab.1.eq_of_length hlen)

/-- They are listed in the order in which they are tried. -/
theorem pairwise_listed (scopes : List String) : (listed scopes).Pairwise Before := by
  rw [listed, List.pairwise_flatMap]
  constructor
  · exact fun s _ => pairwise_ofScope s.2 s.1
  · rw [List.pairwise_reverse]
    have hindex : scopes.zipIdx.Pairwise fun s t => s.2 < t.2 := by
      have hrange := List.pairwise_lt_range' (s := 0) (n := scopes.length)
      rw [← List.zipIdx_map_snd 0 scopes] at hrange
      exact List.pairwise_map.mp hrange
    refine hindex.imp fun {s t} hst c hc d hd => .inner ?_
    rw [(mem_ofScope_iff.mp hc).1, (mem_ofScope_iff.mp hd).1]
    exact hst

end Candidate

theorem candidatesOf_eq_map_ofScope (base : String) (index : Nat) (scope : String) :
    candidatesOf base scope = (Candidate.ofScope index scope).map (Candidate.scope base) := by
  rw [Candidate.ofScope, List.map_flatMap]
  rfl

/-- The texts that are searched are those of the candidates. -/
theorem candidates_eq_map_listed (scopes : List String) :
    candidates scopes = (Candidate.listed scopes).map (Candidate.scope (baseLanguage scopes)) := by
  generalize hbase : baseLanguage scopes = base
  calc candidates scopes
      = (scopes.zipIdx.map Prod.fst).reverse.flatMap (candidatesOf base) := by
        rw [candidates, hbase, List.zipIdx_map_fst]
    _ = scopes.zipIdx.reverse.flatMap fun s =>
          (Candidate.ofScope s.2 s.1).map (Candidate.scope base) := by
        rw [← List.map_reverse, List.flatMap_map]
        exact List.flatMap_congr fun s _ => candidatesOf_eq_map_ofScope base s.2 s.1
    _ = (Candidate.listed scopes).map (Candidate.scope base) := by
        rw [Candidate.listed, List.map_flatMap]

/-! ### The language -/

/-- What stands behind the last dot of a scope, or all of a scope without dots. -/
def IsLanguage (base scope : String) : Prop :=
  '.' ∉ base.toList ∧ (scope = base ∨ ∃ start, scope.toList = start ++ '.' :: base.toList)

/-- The last piece of a text. -/
theorem getLastD_splitOn (sep : Char) (s : List Char) :
    sep ∉ (splitOn sep s).getLastD [] ∧ (s = (splitOn sep s).getLastD [] ∨
      ∃ start, s = start ++ sep :: (splitOn sep s).getLastD []) := by
  induction hn : s.length using Nat.strongRecOn generalizing s with
  | ind n ih =>
    by_cases hmem : sep ∈ s
    · -- the text goes on behind its first separator
      obtain ⟨piece, t, rfl, hpiece⟩ := List.eq_append_cons_of_mem hmem
      have hlen : t.length < n := by
        rw [← hn, List.length_append, List.length_cons]
        omega
      obtain ⟨hlast, ht⟩ := ih t.length hlen t rfl
      obtain ⟨l, ls, hls⟩ := List.exists_cons_of_ne_nil (splitOn_ne_nil sep t)
      have heq : (splitOn sep (piece ++ sep :: t)).getLastD [] = (splitOn sep t).getLastD [] := by
        rw [splitOn_append_cons hpiece, hls]
        rfl
      rw [heq]
      refine ⟨hlast, Or.inr ?_⟩
      rcases ht with ht | ⟨start, ht⟩
      · exact ⟨piece, by rw [← ht]⟩
      · exact ⟨piece ++ sep :: start, by rw [List.append_assoc, List.cons_append, ← ht]⟩
    · rw [splitOn_of_not_mem hmem]
      exact ⟨hmem, Or.inl rfl⟩

theorem isLanguage_baseLanguage (first : String) (rest : List String) :
    IsLanguage (baseLanguage (first :: rest)) first := by
  obtain ⟨hlast, hfirst⟩ := getLastD_splitOn '.' first.toList
  rw [IsLanguage, baseLanguage, String.toList_ofList]
  refine ⟨hlast, hfirst.imp (fun h => ?_) id⟩
  rw [← h, String.ofList_toList]

/-! ### The scope that is shown -/

/-- The theme gives the scope another foreground than text has without rules. -/
def Colours (theme : Theme) (scope : String) : Prop :=
  (theme.style scope).foreground ≠ theme.defaultStyle.foreground

instance (theme : Theme) (scope : String) : Decidable (Colours theme scope) :=
  inferInstanceAs (Decidable (_ ≠ _))

/-- The candidate is coloured, and none that is tried before it is. -/
structure Candidate.First (theme : Theme) (scopes : List String) (c : Candidate) : Prop where
  of : c.Of scopes
  colours : Colours theme (c.scope (baseLanguage scopes))
  first : ∀ d : Candidate, d.Of scopes → Before d c →
    ¬ Colours theme (d.scope (baseLanguage scopes))

section Shown

variable (theme : Theme) {first : String} (rest : List String)

/-- The search of a stack with an outermost scope. -/
theorem resolve_cons (hfirst : first ≠ "") : resolve (first :: rest) theme =
    ((candidates (first :: rest)).find? fun scope => decide (Colours theme scope)).map
      fun scope => ⟨scope, theme.style scope⟩ := by
  rw [resolve, if_neg hfirst]
  rfl

/-- **The scope that is shown** is the first candidate that the theme colours, with its style. -/
theorem resolve_eq_some_iff (hfirst : first ≠ "") (token : DisplayToken) :
    resolve (first :: rest) theme = some token ↔ ∃ c : Candidate, c.First theme (first :: rest) ∧
      token = ⟨c.scope (baseLanguage (first :: rest)),
        theme.style (c.scope (baseLanguage (first :: rest)))⟩ := by
  rw [resolve_cons theme rest hfirst, candidates_eq_map_listed, List.find?_map]
  simp only [Option.map_map, Option.map_eq_some_iff,
    find?_eq_some_iff_of_pairwise (fun _ _ => Candidate.Before.asymm)
      (Candidate.pairwise_listed (first :: rest)), Candidate.mem_listed_iff]
  constructor
  · rintro ⟨c, ⟨hof, hcolours, hbefore⟩, rfl⟩
    exact ⟨c, ⟨hof, by simpa using hcolours, fun d hd hdc => by simpa using hbefore d hd hdc⟩, rfl⟩
  · rintro ⟨c, ⟨hof, hcolours, hbefore⟩, rfl⟩
    exact ⟨c, ⟨hof, by simpa using hcolours, fun d hd hdc => by simpa using hbefore d hd hdc⟩, rfl⟩

theorem resolve_eq_none_iff (hfirst : first ≠ "") : resolve (first :: rest) theme = none ↔
    ∀ c : Candidate, c.Of (first :: rest) →
      ¬ Colours theme (c.scope (baseLanguage (first :: rest))) := by
  rw [resolve_cons theme rest hfirst, candidates_eq_map_listed, Option.map_eq_none_iff,
    List.find?_eq_none]
  simp [Candidate.mem_listed_iff]

/-- The scopes behind the outermost one are searched before it and before all that is put in between
them. -/
theorem candidates_cons_append (outer : List String) : candidates (first :: (outer ++ rest)) =
    rest.reverse.flatMap (candidatesOf (baseLanguage (first :: rest))) ++
      (first :: outer).reverse.flatMap (candidatesOf (baseLanguage (first :: rest))) := by
  rw [← List.flatMap_append, ← List.reverse_append, List.cons_append]
  rfl

theorem resolve_insert (hfirst : first ≠ "") (inserted : List String) {c : Candidate}
    (hc : c.Of (first :: rest)) (hindex : c.index ≠ 0)
    (hcolours : Colours theme (c.scope (baseLanguage (first :: rest)))) :
    resolve (first :: (inserted ++ rest)) theme = resolve (first :: rest) theme := by
  -- the search ends before it comes to the outermost scope
  have hfound : ((rest.reverse.flatMap (candidatesOf (baseLanguage (first :: rest)))).find?
      fun scope => decide (Colours theme scope)).isSome = true := by
    obtain ⟨scope, hscope, hpiece⟩ := hc
    obtain ⟨i, hi⟩ := Nat.exists_eq_succ_of_ne_zero hindex
    rw [hi, List.getElem?_cons_succ] at hscope
    rw [List.find?_isSome]
    refine ⟨c.scope (baseLanguage (first :: rest)), List.mem_flatMap.mpr ⟨scope, ?_, ?_⟩, ?_⟩
    · exact List.mem_reverse.mpr (List.mem_of_getElem? hscope)
    · rw [candidatesOf_eq_map_ofScope _ c.index]
      exact List.mem_map_of_mem (Candidate.mem_ofScope_iff.mpr ⟨rfl, hpiece⟩)
    · exact decide_eq_true hcolours
  have hsearch : ∀ outer, (candidates (first :: (outer ++ rest))).find?
      (fun scope => decide (Colours theme scope)) =
        (rest.reverse.flatMap (candidatesOf (baseLanguage (first :: rest)))).find?
          fun scope => decide (Colours theme scope) := by
    intro outer
    rw [candidates_cons_append, List.find?_append, Option.or_of_isSome hfound]
  rw [resolve_cons theme _ hfirst, resolve_cons theme _ hfirst, hsearch, ← hsearch []]
  rfl

end Shown

/-- **Scopes are shown by the first candidate that the theme colours.** The language of a stack is
what stands behind the last dot of its outermost scope. If the theme colours a candidate, the first
one is shown, with its style, and otherwise none is. When a scope other than the outermost one has
such a candidate, scopes that are put in right behind the outermost one change nothing. -/
theorem resolve_first_coloured (theme : Theme) {first : String} (hfirst : first ≠ "")
    (rest : List String) :
    let scopes := first :: rest
    let base := baseLanguage scopes
    IsLanguage base first ∧
      (∀ token, resolve scopes theme = some token ↔ ∃ c : Candidate, c.First theme scopes ∧
        token = ⟨c.scope base, theme.style (c.scope base)⟩) ∧
      (resolve scopes theme = none ↔
        ∀ c : Candidate, c.Of scopes → ¬ Colours theme (c.scope base)) ∧
      ((∃ c : Candidate, c.Of scopes ∧ c.index ≠ 0 ∧ Colours theme (c.scope base)) →
        ∀ inserted, resolve (first :: (inserted ++ rest)) theme = resolve scopes theme) := by
  refine ⟨isLanguage_baseLanguage first rest, resolve_eq_some_iff theme rest hfirst,
    resolve_eq_none_iff theme rest hfirst, ?_⟩
  rintro ⟨c, hc, hindex, hcolours⟩ inserted
  exact resolve_insert theme rest hfirst inserted hc hindex hcolours

/-- A theme with a colour for keywords that the ones for control do not have: there the language is
added to the next shorter piece, also with a coloured scope in between. -/
theorem resolve_first_coloured_reset :
    let theme := Theme.ofRules "reset" .vsDark
      [{ scope := "keyword", foreground := some ⟨0, 255, 0, 255⟩ },
        { scope := "keyword.control", foreground := some ⟨0, 0, 0, 255⟩ },
        { scope := "string", foreground := some ⟨255, 0, 0, 255⟩ }] []
    "source.typst" ≠ "" ∧
      resolve ["source.typst", "string.quoted.typst", "keyword.control.typst"] theme =
        some ⟨"keyword.typst", ⟨⟨0, 255, 0, 255⟩, ⟨255, 255, 255, 255⟩, {}⟩⟩ := by
  intro theme
  -- the rules are written in their order, so that sorting them changes nothing
  have hsort : StyleTrie.sortRules theme.rules = theme.rules :=
    List.mergeSort_of_pairwise (by decide)
  have htrie : theme.trie = theme.rules.foldl StyleTrie.insert .empty := by
    rw [theme.trie_eq, StyleTrie.ofRules, hsort]
  have hstyle : ∀ scope, theme.style scope =
      (theme.rules.foldl StyleTrie.insert .empty).lookup scope := fun scope => by
    rw [Theme.style, htrie]
  have hfirst : "source.typst" ≠ "" := by decide
  obtain ⟨_, _, _, hinsert⟩ := resolve_first_coloured theme hfirst ["keyword.control.typst"]
  have hcolours : Colours theme "keyword.typst" := by
    rw [Colours, hstyle, Theme.defaultStyle, htrie]
    decide
  have hinserted := hinsert ⟨⟨1, "keyword".toList, true⟩,
    ⟨"keyword.control.typst", rfl, by decide⟩, by decide, hcolours⟩ ["string.quoted.typst"]
  refine ⟨hfirst, hinserted.trans ?_⟩
  rw [resolve, if_neg hfirst]
  simp only [hstyle, Theme.defaultStyle, htrie]
  rfl

end DisplayToken

end Tincture
