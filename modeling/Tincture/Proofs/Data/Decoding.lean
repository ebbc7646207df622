import Tincture.Proofs.Data.EntryOrder

/-!
# Decoding what was written

What a decoder makes of a value that is the same as a written one, up to the order of entries: a record
has the fields that were written (`record?_fields`), a mapping its entries (`entries?_fields`), and a
field, a list or an entry is decoded if what was written for it is. A field that was left out, or
written as null, is absent again (`exists_optional`).
-/

namespace Tincture.Data

/-! ### Depth -/

theorem depth_le_depthAll {items : List Data} {d : Data} (h : d ∈ items) :
    d.depth ≤ depthAll items := by
  induction items with
  | nil => cases h
  | cons item items ih =>
    rw [depthAll]
    rcases List.mem_cons.mp h with rfl | h
    · exact Nat.le_max_left _ _
    · exact Nat.le_trans (ih h) (Nat.le_max_right _ _)

theorem depth_le_depthEntries {entries : List (Option String × Data)} {e : Option String × Data}
    (h : e ∈ entries) : e.2.depth ≤ depthEntries entries := by
  induction entries with
  | nil => cases h
  | cons entry entries ih =>
    obtain ⟨name, d⟩ := entry
    rw [depthEntries]
    rcases List.mem_cons.mp h with rfl | h
    · exact Nat.le_max_left _ _
    · exact Nat.le_trans (ih h) (Nat.le_max_right _ _)

theorem depth_lt_array {items : List Data} {d : Data} (h : d ∈ items) :
    d.depth < (array items).depth := by
  rw [depth]
  exact Nat.lt_succ_of_le (depth_le_depthAll h)

theorem depth_lt_fields {es : List (String × Data)} {e : String × Data} (h : e ∈ es) :
    e.2.depth < (fields es).depth := by
  have hmem : (some e.1, e.2) ∈ es.map fun e => (some e.1, e.2) := List.mem_map_of_mem h
  rw [fields, depth]
  exact Nat.lt_succ_of_le (depth_le_depthEntries hmem)

theorem depth_array_pos (items : List Data) : 0 < (array items).depth := by
  rw [depth]
  exact Nat.succ_pos _

theorem depth_fields_pos (es : List (String × Data)) : 0 < (fields es).depth := by
  rw [fields, depth]
  exact Nat.succ_pos _

/-- What is left for the items of an array. -/
theorem exists_depth_array {items : List Data} {depth : Nat} (h : (array items).depth ≤ depth) :
    ∃ n, depth = n + 1 ∧ ∀ d ∈ items, d.depth ≤ n := by
  have hpos := depth_array_pos items
  refine ⟨depth - 1, by omega, fun d hd => ?_⟩
  have hlt := depth_lt_array hd
  omega

/-- What is left for the entries of an object. -/
theorem exists_depth_fields {es : List (String × Data)} {depth : Nat}
    (h : (fields es).depth ≤ depth) : ∃ n, depth = n + 1 ∧ ∀ e ∈ es, e.2.depth ≤ n := by
  have hpos := depth_fields_pos es
  refine ⟨depth - 1, by omega, fun e he => ?_⟩
  have hlt := depth_lt_fields he
  omega

/-! ### Records and mappings -/

theorem filterMap_known {names : List String} {es : List (String × Data)}
    (hknown : ∀ name ∈ es.map Prod.fst, name ∈ names) :
    (es.map fun (k, v) => (some k, v)).filterMap (fun (k, v) =>
      (k.filter names.contains).map fun k => (k, v)) = es := by
  induction es with
  | nil => rfl
  | cons e es ih =>
    obtain ⟨name, d⟩ := e
    obtain ⟨hname, hrest⟩ := List.forall_mem_cons.mp hknown
    have hfilter : (some name).filter names.contains = some name := by
      simpa [Option.filter] using hname
    rw [List.map_cons, List.filterMap_cons_some, ih hrest]
    simp only [hfilter, Option.map_some]

/-- A record whose fields were written as these entries. -/
def Record.ofEntries (es : List (String × Data)) : Record :=
  ⟨fun name => es.lookup name, false⟩

/-- A record that holds different known fields is read with all of them. -/
theorem record?_fields {names : List String} {es : List (String × Data)}
    (hnodup : (es.map Prod.fst).Nodup) (hknown : ∀ name ∈ es.map Prod.fst, name ∈ names) :
    record? names (fields es) = some (Record.ofEntries es) := by
  have hnamed : (es.map fun (k, v) => (some k, v)).any (·.1.isNone) = false := by
    simp
  unfold record? fields
  dsimp only
  rw [filterMap_known hknown, hnamed, if_neg (by simpa using hnodup)]
  rfl

/-- What became of fields with different names: the same ones, in another order if they may be
moved. -/
structure Copied (moved : Prop) (es es' : List (String × Data)) : Prop where
  nodup : (es.map Prod.fst).Nodup
  same : SameEntries moved (Same moved) es es'

/-- A record whose fields were written in the order of their names, each at most once. -/
theorem Same.exists_record {moved : Prop} {names : List String} {es : List (String × Data)} {d : Data}
    (h : Same moved (fields es) d) (hnames : names.Nodup) (hwritten : (es.map Prod.fst).Sublist names) :
    ∃ es', d = fields es' ∧ record? names d = some (Record.ofEntries es') ∧ Copied moved es es' := by
  obtain ⟨es', rfl, hsame⟩ := h.exists_fields
  have hnodup : (es.map Prod.fst).Nodup := hnames.sublist hwritten
  have hknown : ∀ name ∈ es'.map Prod.fst, name ∈ names := by
    intro name hname
    exact hwritten.subset (hsame.names_perm.mem_iff.mpr hname)
  exact ⟨es', rfl, record?_fields (hsame.names_perm.nodup_iff.mp hnodup) hknown, hnodup, hsame⟩

theorem foldl_keep {α : Type} {kept es : List (String × α)}
    (hnodup : ((kept ++ es).map Prod.fst).Nodup) :
    es.foldl (fun kept (k, v) => kept.filter (·.1 != k) ++ [(k, v)]) kept = kept ++ es := by
  induction es generalizing kept with
  | nil => rw [List.foldl_nil, List.append_nil]
  | cons e es ih =>
    obtain ⟨name, a⟩ := e
    have hnew : kept.filter (·.1 != name) = kept := by
      refine List.filter_eq_self.mpr fun other hother => ?_
      rw [List.map_append, List.nodup_append] at hnodup
      have hne := hnodup.2.2 other.1 (List.mem_map_of_mem hother) name (by simp)
      simpa using hne
    rw [List.foldl_cons]
    dsimp only
    rw [hnew, ih (by rwa [List.append_assoc]), List.append_assoc, List.singleton_append]

theorem mapM_named (es : List (String × Data)) :
    (es.map fun (k, v) => (some k, v)).mapM (fun (k, v) => k.map fun k => (k, v)) = some es := by
  induction es with
  | nil => rfl
  | cons e es ih => exact mapM_cons_eq_some_iff.mpr ⟨e, es, rfl, ih, rfl⟩

/-- A mapping with different names has the entries that were written. -/
theorem entries?_fields {es : List (String × Data)} (hnodup : (es.map Prod.fst).Nodup) :
    entries? (fields es) = some es := by
  unfold entries? fields
  dsimp only
  rw [mapM_named, Option.bind_eq_bind, Option.bind_some, foldl_keep hnodup]
  rfl

/-- A mapping from the values that were written under different names. -/
theorem Same.exists_entries {α : Type} {moved : Prop} {encode : α → Data} {l : List (String × α)}
    {d : Data} (h : Same moved (fields (l.map fun e => (e.1, encode e.2))) d)
    (hnodup : (l.map Prod.fst).Nodup) :
    ∃ es, d = fields es ∧ entries? d = some es ∧
      SameEntries moved (fun a d => Same moved (encode a) d) l es := by
  obtain ⟨es, rfl, hsame⟩ := h.exists_fields
  have hnames : (l.map Prod.fst).Perm (es.map Prod.fst) := by
    have hperm := hsame.names_perm
    rwa [List.map_map] at hperm
  exact ⟨es, rfl, entries?_fields (hnames.nodup_iff.mp hnodup), hsame.of_map⟩

/-! ### Single values -/

/-- A value that stands for something. -/
def HasValue (d : Data) : Prop :=
  d ≠ null ∧ ∀ s, d ≠ plain s

theorem optional?_of_hasValue {α : Type} {d : Data} (h : d.HasValue) (decode : Data → Option α) :
    optional? decode d = (decode d).map some := by
  cases d with
  | null => exact absurd rfl h.1
  | plain s => exact absurd rfl (h.2 s)
  | _ => rfl

theorem hasValue_string (s : String) : (string s).HasValue :=
  ⟨by simp, by simp⟩

theorem hasValue_fields (es : List (String × Data)) : (fields es).HasValue :=
  ⟨by simp [fields], by simp [fields]⟩

theorem Same.hasValue {moved : Prop} {d d' : Data} (h : Same moved d d') (hd : d.HasValue) :
    d'.HasValue := by
  cases h with
  | refl => exact hd
  | ofItems => exact ⟨by simp, by simp⟩
  | ofEntries => exact ⟨by simp [fields], by simp [fields]⟩

theorem exists_list {α β : Type} {moved : Prop} {encode : α → Data} {decode : Data → Option β}
    {s : α → β → Prop} {as : List α} {items : List Data}
    (h : List.Forall₂ (Same moved) (as.map encode) items)
    (hdecode : ∀ a ∈ as, ∀ d ∈ items, Same moved (encode a) d → ∃ b, decode d = some b ∧ s a b) :
    ∃ bs, list? decode (array items) = some bs ∧ List.Forall₂ s as bs := by
  show ∃ bs, items.mapM decode = some bs ∧ _
  induction as generalizing items with
  | nil =>
    obtain rfl := List.forall₂_nil_left_iff.mp h
    exact ⟨[], rfl, .nil⟩
  | cons a as ih =>
    obtain ⟨d, items', hd, hitems, rfl⟩ := List.forall₂_cons_left_iff.mp h
    obtain ⟨ha, has⟩ := List.forall_mem_cons.mp hdecode
    obtain ⟨b, hb, hab⟩ := ha d List.mem_cons_self hd
    obtain ⟨bs, hbs, hasbs⟩ := ih hitems fun a ha d hd => has a ha d (List.mem_cons_of_mem _ hd)
    exact ⟨b :: bs, mapM_cons_eq_some_iff.mpr ⟨b, bs, hb, hbs, rfl⟩, .cons hab hasbs⟩

/-! ### Texts -/

section texts

variable {moved : Prop} {d : Data}

theorem Same.eq_string {s : String} (h : Same moved (string s) d) : d = string s :=
  h.eq_of_scalar (by simp) (by simp)

theorem Same.eq_strings {l : List String} (h : Same moved (strings l) d) : d = strings l := by
  obtain ⟨items, rfl, hitems⟩ := h.exists_array
  have htexts : List.Forall₂ (fun s d => string s = d) l items :=
    (List.forall₂_map_left_iff.mp hitems).imp fun s d hd => hd.eq_string.symm
  have heq : List.Forall₂ Eq (l.map string) items := List.forall₂_map_left_iff.mpr htexts
  rw [List.forall₂_eq_eq_eq] at heq
  rw [strings, heq]

theorem string?_of_same (s : String) (d : Data) (h : Same moved (string s) d) :
    d.string? = some s := by
  rw [h.eq_string]
  rfl

theorem list?_of_same (l : List String) (d : Data) (h : Same moved (strings l) d) :
    d.list? string? = some l := by
  rw [h.eq_strings]
  show (l.map string).mapM string? = some l
  clear h
  induction l with
  | nil => rfl
  | cons s l ih => exact mapM_cons_eq_some_iff.mpr ⟨s, l, rfl, ih, rfl⟩

end texts

/-! ### Fields -/

namespace Record

variable {α : Type} {r : Record} {name : String}

theorem required_of_find {d : Data} (h : r.find name = some d) (decode : Data → Option α) :
    r.required name decode = decode d := by
  rw [required, h, Option.bind_some]

theorem orDefault_of_find {d : Data} (h : r.find name = some d) (decode : Data → Option α)
    (default : α) : r.orDefault name decode default = decode d := by
  rw [orDefault, h]

theorem orDefault_of_missing (h : r.find name = none) (decode : Data → Option α) (default : α) :
    r.orDefault name decode default = some default := by
  rw [orDefault, h]

end Record

section fields

variable {α β : Type} {moved : Prop} {encode : α → Data} {decode : Data → Option β}
  {s : α → β → Prop} {es es' : List (String × Data)} {name : String}

theorem mem_of_lookup {d : Data} (h : es.lookup name = some d) : (name, d) ∈ es := by
  obtain ⟨before, after, rfl, -⟩ := List.lookup_eq_some_iff.mp h
  simp

theorem exists_find (h : Copied moved es es') {d : Data} (hlookup : es.lookup name = some d) :
    ∃ d', (Record.ofEntries es').find name = some d' ∧ (name, d') ∈ es' ∧ Same moved d d' := by
  have hrel := h.same.lookup_rel h.nodup name
  rw [hlookup] at hrel
  cases hfound : es'.lookup name with
  | none =>
    rw [hfound] at hrel
    cases hrel
  | some d' =>
    rw [hfound] at hrel
    cases hrel with
    | some hsame => exact ⟨d', hfound, mem_of_lookup hfound, hsame⟩

theorem find_eq_none (h : Copied moved es es') (hlookup : es.lookup name = none) :
    (Record.ofEntries es').find name = none := by
  have hrel := h.same.lookup_rel h.nodup name
  rw [hlookup] at hrel
  cases hfound : es'.lookup name with
  | none => exact hfound
  | some d =>
    rw [hfound] at hrel
    cases hrel

theorem required_eq_of_written {decode : Data → Option α} (h : Copied moved es es') {a : α}
    (hlookup : es.lookup name = some (encode a))
    (hdecode : ∀ a d, Same moved (encode a) d → decode d = some a) :
    (Record.ofEntries es').required name decode = some a := by
  obtain ⟨d, hd, -, hsame⟩ := exists_find h hlookup
  rw [Record.required_of_find hd, hdecode a d hsame]

/-- A field that may be missing is read as what was written for it, and is missing if it was left out
or written as null. -/
theorem exists_optional (h : Copied moved es es') {o : Option α}
    (hsome : ∀ a, o = some a → es.lookup name = some (encode a) ∧ (encode a).HasValue)
    (hnone : o = none → es.lookup name = none ∨ es.lookup name = some null)
    (hdecode : ∀ a, o = some a → ∀ d, (name, d) ∈ es' → Same moved (encode a) d →
      ∃ b, decode d = some b ∧ s a b) :
    ∃ o', (Record.ofEntries es').optional name decode = some o' ∧ Option.Rel s o o' := by
  unfold Record.optional
  cases o with
  | none =>
    refine ⟨none, ?_, .none⟩
    rcases hnone rfl with hlookup | hlookup
    · rw [Record.orDefault_of_missing (find_eq_none h hlookup)]
    · obtain ⟨d, hd, -, hsame⟩ := exists_find h hlookup
      obtain rfl : d = null := hsame.eq_of_scalar (by simp) (by simp)
      rw [Record.orDefault_of_find hd]
      rfl
  | some a =>
    obtain ⟨hlookup, hvalue⟩ := hsome a rfl
    obtain ⟨d, hd, hmem, hsame⟩ := exists_find h hlookup
    obtain ⟨b, hb, hab⟩ := hdecode a rfl d hmem hsame
    refine ⟨some b, ?_, .some hab⟩
    rw [Record.orDefault_of_find hd, optional?_of_hasValue (hsame.hasValue hvalue), hb,
      Option.map_some]

end fields

end Tincture.Data
