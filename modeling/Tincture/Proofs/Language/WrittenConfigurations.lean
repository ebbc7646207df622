import Tincture.Language.Configuration
import Tincture.Proofs.Data.Decoding

/-!
# Written language configurations

A configuration is written without what it lacks: no field is null and no list is empty (`Data.Terse`).
What is left out is what a decoder puts in for a missing field, and so a configuration that is written
and decoded is the same again, whatever it holds and in whatever order the fields of its objects stand
(`LanguageConfiguration.terse_and_decoded`).

A pair has no field that says which form it has. The form is read off the value: a pair of texts is a
list, and the other form is an object, also when nothing but the two texts is left of it.
-/

namespace Tincture

namespace Data

/-- A value in which nothing is null and no list is empty. -/
inductive Terse : Data → Prop where
  | string (s : String) : Terse (string s)
  | array {items : List Data} (nonempty : items ≠ []) (inside : ∀ d ∈ items, Terse d) :
    Terse (array items)
  | fields {es : List (String × Data)} (inside : ∀ e ∈ es, Terse e.2) : Terse (fields es)

/-! ### Fields that may be left out -/

section fields

variable {α : Type} {moved : Prop} {encode : α → Data} {decode : Data → Option α}
  {es es' : List (String × Data)} {name : String}

@[simp]
theorem lookup_fieldOf (name other : String) (encode : α → Data) (o : Option α) :
    (fieldOf name encode o).lookup other = if other = name then o.map encode else none := by
  cases o with
  | none => simp [fieldOf]
  | some a => rw [fieldOf, Table.lookup_cons, List.lookup_nil, Option.map_some]

@[simp]
theorem lookup_listField (name other : String) (encode : α → Data) (l : List α) :
    (listField name encode l).lookup other =
      if other = name ∧ l ≠ [] then some (array (l.map encode)) else none := by
  cases l with
  | nil => simp [listField]
  | cons a l => simp [listField, Table.lookup_cons]

theorem names_fieldOf (name : String) (encode : α → Data) (o : Option α) :
    ((fieldOf name encode o).map Prod.fst).Sublist [name] := by
  cases o with
  | none => exact List.nil_sublist _
  | some a => exact List.Sublist.refl _

theorem names_listField (name : String) (encode : α → Data) (l : List α) :
    ((listField name encode l).map Prod.fst).Sublist [name] := by
  cases l with
  | nil => exact List.nil_sublist _
  | cons a l => exact List.Sublist.refl _

theorem terse_fieldOf (h : ∀ a, (encode a).Terse) (o : Option α) :
    ∀ e ∈ fieldOf name encode o, e.2.Terse := by
  cases o with
  | none => exact List.forall_mem_nil _
  | some a => exact List.forall_mem_singleton.mpr (h a)

theorem terse_listField (h : ∀ a, (encode a).Terse) (l : List α) :
    ∀ e ∈ listField name encode l, e.2.Terse := by
  cases l with
  | nil => exact List.forall_mem_nil _
  | cons a l =>
    refine List.forall_mem_singleton.mpr (.array (List.cons_ne_nil _ _) fun d hd => ?_)
    obtain ⟨b, -, rfl⟩ := List.mem_map.mp hd
    exact h b

theorem optional_eq_of_written (h : Copied moved es es') {o : Option α}
    (hlookup : es.lookup name = o.map encode)
    (hvalue : ∀ a, (encode a).HasValue)
    (hdecode : ∀ a d, Same moved (encode a) d → decode d = some a) :
    (Record.ofEntries es').optional name decode = some o := by
  obtain ⟨o', ho', hrel⟩ := exists_optional (s := Eq) (o := o) h
    (fun a ha => ⟨by rw [hlookup, ha, Option.map_some], hvalue a⟩)
    (fun ho => .inl (by rw [hlookup, ho, Option.map_none]))
    (fun a _ d _ hd => ⟨a, hdecode a d hd, rfl⟩)
  rw [ho', eq_of_rel (fun _ _ hab => hab) hrel]

/-- A list is decoded as it was written, and is empty if it was left out. -/
theorem orDefault_eq_of_written (h : Copied moved es es') {l : List α}
    (hlookup : es.lookup name = if l ≠ [] then some (array (l.map encode)) else none)
    (hdecode : ∀ a d, Same moved (encode a) d → decode d = some a) :
    (Record.ofEntries es').orDefault name (list? decode) [] = some l := by
  by_cases hl : l = []
  · rw [if_neg (not_not_intro hl)] at hlookup
    rw [Record.orDefault_of_missing (find_eq_none h hlookup), hl]
  · rw [if_pos hl] at hlookup
    obtain ⟨d, hd, -, hsame⟩ := exists_find h hlookup
    obtain ⟨items, rfl, hitems⟩ := hsame.exists_array
    obtain ⟨l', hl', hrel⟩ := exists_list (s := Eq) hitems fun a _ d _ hd => ⟨a, hdecode a d hd, rfl⟩
    rw [List.forall₂_eq_eq_eq] at hrel
    rw [Record.orDefault_of_find hd, hl', hrel]

end fields

/-! ### Pairs of texts -/

section pairs

variable {moved : Prop}

theorem pair?_of_same (p : String × String) (d : Data) (h : Same moved (pair p) d) :
    d.pair? = some p := by
  rw [h.eq_strings (l := [p.1, p.2])]
  rfl

theorem hasValue_pair (p : String × String) : (pair p).HasValue :=
  ⟨by simp [pair, strings], by simp [pair, strings]⟩

theorem terse_pair (p : String × String) : (pair p).Terse := by
  refine .array (List.cons_ne_nil _ _) fun d hd => ?_
  obtain ⟨s, -, rfl⟩ := List.mem_map.mp hd
  exact .string s

end pairs

/-! ### What a pair is told by -/

theorem wellFormed_fields {es : List (String × Data)} (h : ∀ e ∈ es, e.2.wellFormed) :
    (fields es).wellFormed := by
  rw [fields, wellFormed]
  induction es with
  | nil => rfl
  | cons e es ih =>
    obtain ⟨he, hes⟩ := List.forall_mem_cons.mp h
    rw [List.map_cons, wellFormedEntries, he, ih hes]
    rfl

theorem depth_fields_le {es : List (String × Data)} {n : Nat} (h : ∀ e ∈ es, e.2.depth ≤ n) :
    (fields es).depth ≤ n + 1 := by
  rw [fields, depth]
  refine Nat.succ_le_succ ?_
  induction es with
  | nil => exact Nat.zero_le n
  | cons e es ih =>
    obtain ⟨he, hes⟩ := List.forall_mem_cons.mp h
    exact Nat.max_le.mpr ⟨he, ih hes⟩

theorem wellFormed_strings (l : List String) : (strings l).wellFormed := by
  rw [strings, wellFormed]
  induction l with
  | nil => rfl
  | cons s l ih => simp [wellFormedAll, wellFormed, ih]

theorem depth_strings (l : List String) : (strings l).depth = 1 := by
  rw [strings, depth, Nat.add_eq_right]
  induction l with
  | nil => rfl
  | cons s l ih => simp [depthAll, depth, ih]

end Data

namespace CharacterPair

open Data

variable {moved : Prop} {d : Data}

/-- The fields of a pair that is written as an object. -/
def writtenFields (opening closing : String) (notIn : List String) : List (String × Data) :=
  [("open", .string opening), ("close", .string closing)] ++ listField "notIn" .string notIn

theorem toData_record (opening closing : String) (notIn : List String) :
    (record opening closing notIn).toData = fields (writtenFields opening closing notIn) :=
  rfl

theorem names_writtenFields (opening closing : String) (notIn : List String) :
    ((writtenFields opening closing notIn).map Prod.fst).Sublist ["open", "close", "notIn"] := by
  rw [writtenFields, List.map_append]
  exact (List.Sublist.refl ["open", "close"]).append (names_listField _ _ _)

theorem mem_writtenFields {opening closing : String} {notIn : List String} {e : String × Data}
    (h : e ∈ writtenFields opening closing notIn) :
    (∃ s, e.2 = .string s) ∨ e.2 = strings notIn := by
  simp only [writtenFields, List.mem_append, List.mem_cons, List.not_mem_nil, or_false] at h
  rcases h with (rfl | rfl) | h
  · exact .inl ⟨opening, rfl⟩
  · exact .inl ⟨closing, rfl⟩
  · unfold listField at h
    split at h
    · cases h
    · exact .inr (congrArg Prod.snd (List.mem_singleton.mp h))

/-- What the form of a pair is read off from is neither malformed nor nested too deep. -/
theorem readable_of_same {opening closing : String} {notIn : List String} {es : List (String × Data)}
    (h : SameEntries moved (Same moved) (writtenFields opening closing notIn) es) :
    (fields es).wellFormed ∧ (fields es).depth ≤ 2 := by
  have hvalues : ∀ e ∈ es, (∃ s, e.2 = .string s) ∨ e.2 = strings notIn := by
    intro e he
    obtain ⟨e₀, he₀, hsame⟩ := h.exists_of_mem he
    rcases mem_writtenFields he₀ with ⟨s, hs⟩ | hs
    · rw [hs] at hsame
      exact .inl ⟨s, hsame.eq_string⟩
    · rw [hs] at hsame
      exact .inr hsame.eq_strings
  constructor
  · refine wellFormed_fields fun e he => ?_
    rcases hvalues e he with ⟨s, hs⟩ | hs
    · rw [hs]
      rfl
    · rw [hs]
      exact wellFormed_strings notIn
  · refine depth_fields_le fun e he => ?_
    rcases hvalues e he with ⟨s, hs⟩ | hs
    · rw [hs]
      exact Nat.zero_le 1
    · rw [hs]
      exact Nat.le_of_eq (depth_strings notIn)

theorem ofData?_pair (opening closing : String) :
    ofData? (pair (opening, closing)) = some (tuple opening closing) := by
  have hwell : (pair (opening, closing)).wellFormed = true := wellFormed_strings _
  have hdepth : ¬ Data.Json.maxDepth - 2 < (pair (opening, closing)).depth := by
    rw [pair, depth_strings]
    decide
  unfold ofData?
  rw [hwell, decide_eq_false hdepth]
  rfl

theorem ofData?_of_same (p : CharacterPair) (d : Data) (h : Same moved p.toData d) :
    ofData? d = some p := by
  cases p with
  | tuple opening closing =>
    rw [h.eq_strings (l := [opening, closing])]
    exact ofData?_pair opening closing
  | record opening closing notIn =>
    rw [toData_record] at h
    obtain ⟨es, rfl, hread, hcopied⟩ :=
      h.exists_record (by decide) (names_writtenFields opening closing notIn)
    obtain ⟨hwell, hdepth⟩ := readable_of_same hcopied.same
    have hshallow : ¬ Data.Json.maxDepth - 2 < (fields es).depth :=
      Nat.not_lt_of_le (Nat.le_trans hdepth (by decide))
    have hopening : (Record.ofEntries es).required "open" string? = some opening :=
      required_eq_of_written hcopied rfl string?_of_same
    have hclosing : (Record.ofEntries es).required "close" string? = some closing :=
      required_eq_of_written hcopied rfl string?_of_same
    have hnotIn : (Record.ofEntries es).orDefault "notIn" (list? string?) [] = some notIn :=
      orDefault_eq_of_written hcopied (by simp [writtenFields, Table.lookup_cons])
        string?_of_same
    -- behind the check, the object is a record like others
    unfold ofData?
    rw [hwell, decide_eq_false hshallow]
    show (do
      let r ← record? ["open", "close", "notIn"] (fields es)
      return record (← r.required "open" string?) (← r.required "close" string?)
        (← r.orDefault "notIn" (list? string?) [])) = _
    rw [bind_of_eq_some hread, bind_of_eq_some hopening, bind_of_eq_some hclosing,
      bind_of_eq_some hnotIn]
    rfl

theorem terse_toData (p : CharacterPair) : p.toData.Terse := by
  cases p with
  | tuple opening closing => exact terse_pair (opening, closing)
  | record opening closing notIn =>
    refine .fields (List.forall_mem_append.mpr ⟨?_, terse_listField .string notIn⟩)
    exact List.forall_mem_cons.mpr ⟨.string opening, List.forall_mem_singleton.mpr (.string closing)⟩

end CharacterPair

namespace CommentRule

open Data

variable {moved : Prop}

/-- The fields of a rule for comments. -/
def writtenFields (c : CommentRule) : List (String × Data) :=
  fieldOf "lineComment" .string c.lineComment ++ fieldOf "blockComment" .pair c.blockComment

theorem names_writtenFields (c : CommentRule) :
    (c.writtenFields.map Prod.fst).Sublist ["lineComment", "blockComment"] := by
  rw [writtenFields, List.map_append]
  exact (names_fieldOf _ _ _).append (names_fieldOf _ _ _)

theorem ofData?_of_same (c : CommentRule) (d : Data) (h : Same moved c.toData d) :
    ofData? d = some c := by
  have hwritten : c.toData = fields c.writtenFields := rfl
  rw [hwritten] at h
  obtain ⟨es, rfl, hread, hcopied⟩ := h.exists_record (by decide) c.names_writtenFields
  have hline : (Record.ofEntries es).optional "lineComment" string? = some c.lineComment :=
    optional_eq_of_written hcopied (by simp [writtenFields, List.lookup_append])
      hasValue_string string?_of_same
  have hblock : (Record.ofEntries es).optional "blockComment" pair? = some c.blockComment :=
    optional_eq_of_written hcopied (by simp [writtenFields, List.lookup_append])
      hasValue_pair pair?_of_same
  unfold ofData?
  rw [bind_of_eq_some hread, bind_of_eq_some hline, bind_of_eq_some hblock]
  rfl

/-- Also a rule with no fields stands for something. -/
theorem hasValue_toData (c : CommentRule) : c.toData.HasValue :=
  hasValue_fields c.writtenFields

theorem terse_toData (c : CommentRule) : c.toData.Terse :=
  .fields (List.forall_mem_append.mpr
    ⟨terse_fieldOf .string c.lineComment, terse_fieldOf terse_pair c.blockComment⟩)

end CommentRule

namespace LanguageConfiguration

open Data

variable {moved : Prop}

/-- The fields of a configuration. -/
def writtenFields (c : LanguageConfiguration) : List (String × Data) :=
  fieldOf "comments" CommentRule.toData c.comments
    ++ listField "brackets" .pair c.brackets
    ++ listField "autoClosingPairs" CharacterPair.toData c.autoClosingPairs
    ++ listField "surroundingPairs" CharacterPair.toData c.surroundingPairs
    ++ fieldOf "wordPattern" .string c.wordPattern

theorem names_writtenFields (c : LanguageConfiguration) :
    (c.writtenFields.map Prod.fst).Sublist
      ["comments", "brackets", "autoClosingPairs", "surroundingPairs", "wordPattern"] := by
  simp only [writtenFields, List.map_append]
  exact ((((names_fieldOf _ _ _).append (names_listField _ _ _)).append
    (names_listField _ _ _)).append (names_listField _ _ _)).append (names_fieldOf _ _ _)

theorem ofData?_of_same (c : LanguageConfiguration) (d : Data) (h : Same moved c.toData d) :
    ofData? d = some c := by
  have hwritten : c.toData = fields c.writtenFields := rfl
  rw [hwritten] at h
  obtain ⟨es, rfl, hread, hcopied⟩ := h.exists_record (by decide) c.names_writtenFields
  have hcomments :
      (Record.ofEntries es).optional "comments" CommentRule.ofData? = some c.comments :=
    optional_eq_of_written hcopied (by simp [writtenFields, List.lookup_append])
      CommentRule.hasValue_toData CommentRule.ofData?_of_same
  have hbrackets : (Record.ofEntries es).orDefault "brackets" (list? pair?) [] = some c.brackets :=
    orDefault_eq_of_written hcopied (by simp [writtenFields, List.lookup_append])
      pair?_of_same
  have hauto : (Record.ofEntries es).orDefault "autoClosingPairs" (list? CharacterPair.ofData?) []
      = some c.autoClosingPairs :=
    orDefault_eq_of_written hcopied (by simp [writtenFields, List.lookup_append])
      CharacterPair.ofData?_of_same
  have hsurrounding :
      (Record.ofEntries es).orDefault "surroundingPairs" (list? CharacterPair.ofData?) []
        = some c.surroundingPairs :=
    orDefault_eq_of_written hcopied (by simp [writtenFields, List.lookup_append])
      CharacterPair.ofData?_of_same
  have hword : (Record.ofEntries es).optional "wordPattern" string? = some c.wordPattern :=
    optional_eq_of_written hcopied (by simp [writtenFields, List.lookup_append])
      hasValue_string string?_of_same
  unfold ofData?
  rw [bind_of_eq_some hread, bind_of_eq_some hcomments, bind_of_eq_some hbrackets,
    bind_of_eq_some hauto, bind_of_eq_some hsurrounding, bind_of_eq_some hword]
  rfl

theorem terse_toData (c : LanguageConfiguration) : c.toData.Terse := by
  refine .fields ?_
  simp only [List.forall_mem_append]
  exact ⟨⟨⟨⟨terse_fieldOf CommentRule.terse_toData _, terse_listField terse_pair _⟩,
    terse_listField CharacterPair.terse_toData _⟩, terse_listField CharacterPair.terse_toData _⟩,
    terse_fieldOf .string _⟩

/-- A configuration is written without absent values and empty lists, and is decoded as it was from
what was written, whatever the order of the fields. -/
theorem terse_and_decoded (c : LanguageConfiguration) :
    c.toData.Terse ∧ ∀ d, Same True c.toData d →
      ofData? d = some c ∧ ∀ text, Json.read? text.toList = some d → ofJson? text = some c := by
  refine ⟨c.terse_toData, fun d hd => ⟨c.ofData?_of_same d hd, fun text htext => ?_⟩⟩
  rw [ofJson?, htext, Option.bind_some, c.ofData?_of_same d hd]

/-- A rule for comments without any field is there again, and a pair that was an object is not taken for
a list of its two texts. -/
example :
    ofData? (.fields [("autoClosingPairs", .array [.fields [("close", .string ")"),
        ("open", .string "(")]]), ("comments", .fields [])]) =
      some { comments := some {}, autoClosingPairs := [.record "(" ")" []] } := by
  decide

end LanguageConfiguration

end Tincture
