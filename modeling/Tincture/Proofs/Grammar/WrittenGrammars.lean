import Mathlib.Data.List.Nodup
import Tincture.Grammar.Spec
import Tincture.Proofs.Data.Decoding

/-!
# Written grammars

A grammar is written with all its fields, those that are absent as null, and is decoded as it was
written, however deep its rules are nested. The repositories of a grammar have no order: if their
entries come back in another one, as they may if the entries of the written objects are moved, the
decoded grammar is the `Same` one still. The captures of a rule are in the order of their keys
whatever order they were written in.

The proof is by induction on how deep a decoder may go. One step of it (`RuleSpec.decodes_of_lt`) takes
for granted that the rules inside a rule are decoded, in a list (`RuleSpec.exists_all`) and by name
(`RuleSpec.exists_named`). What it says of the decoded rule is that a relation holds of the two rules.
It is any relation that the rules inside hand on (`RuleSpec.HandedOn`): equality, if nothing was moved,
and being the same otherwise.
-/

namespace Tincture

open Data

/-! ### Values of the types of the fields -/

/-- A switch whose number fits into 64 bits. -/
def Flag.Fits : Flag → Prop
  | bool _ => True
  | int n => -Int.pow 2 63 ≤ n ∧ n ≤ Int.pow 2 63 - 1

instance : (f : Flag) → Decidable f.Fits
  | .bool _ => inferInstanceAs (Decidable True)
  | .int n => inferInstanceAs (Decidable (-Int.pow 2 63 ≤ n ∧ n ≤ Int.pow 2 63 - 1))

/-- Captures in the order of their keys, each key once. -/
def CaptureSpecs.Ordered (cs : CaptureSpecs) : Prop :=
  cs.Pairwise fun a b => a.1 < b.1

theorem CaptureSpecs.Ordered.nodup {cs : CaptureSpecs} (h : Ordered cs) :
    (cs.map Prod.fst).Nodup := by
  refine List.pairwise_map.mpr (h.imp ?_)
  intro a b hab heq
  rw [heq] at hab
  exact String.lt_irrefl b.1 hab

/-- A rule whose fields and the rules inside have values of their types: captures have an order, the
names in a repository are different, and numbers fit. -/
inductive RuleSpec.Proper : RuleSpec → Prop where
  | intro {r : RuleSpec} (captures : ∀ cs, r.captures = some cs → CaptureSpecs.Ordered cs)
    (beginCaptures : ∀ cs, r.beginCaptures = some cs → CaptureSpecs.Ordered cs)
    (endCaptures : ∀ cs, r.endCaptures = some cs → CaptureSpecs.Ordered cs)
    (whileCaptures : ∀ cs, r.whileCaptures = some cs → CaptureSpecs.Ordered cs)
    (patterns : ∀ rules, r.patterns = some rules → ∀ rule ∈ rules, Proper rule)
    (names : ∀ rules, r.repository = some rules → (rules.map Prod.fst).Nodup)
    (repository : ∀ rules, r.repository = some rules → ∀ e ∈ rules, Proper e.2)
    (applyEndPatternLast : ∀ flag, r.applyEndPatternLast = some flag → flag.Fits) : Proper r

/-- A grammar whose fields have values of their types. -/
structure GrammarSpec.Proper (g : GrammarSpec) : Prop where
  patterns : ∀ rule ∈ g.patterns, rule.Proper
  names : (g.repository.map Prod.fst).Nodup
  repository : ∀ e ∈ g.repository, e.2.Proper

/-! ### Up to the order of repositories -/

/-- A rule with the entries of its repositories in another order. -/
inductive RuleSpec.Same : RuleSpec → RuleSpec → Prop where
  | intro {r r' : RuleSpec}
    (patterns : Option.Rel (List.Forall₂ RuleSpec.Same) r.patterns r'.patterns)
    (repository : Option.Rel (SameEntries True RuleSpec.Same) r.repository r'.repository)
    (others : { r' with patterns := r.patterns, repository := r.repository } = r) :
    RuleSpec.Same r r'

/-- A grammar with the entries of its repositories in another order. -/
structure GrammarSpec.Same (g g' : GrammarSpec) : Prop where
  patterns : List.Forall₂ RuleSpec.Same g.patterns g'.patterns
  repository : SameEntries True RuleSpec.Same g.repository g'.repository
  others : { g' with patterns := g.patterns, repository := g.repository } = g

/-- A relation that holds of two rules if it holds of the rules inside and the rules agree in all
other fields. -/
def RuleSpec.HandedOn (moved : Prop) (same : RuleSpec → RuleSpec → Prop) : Prop :=
  ∀ ⦃r r' : RuleSpec⦄, Option.Rel (List.Forall₂ same) r.patterns r'.patterns →
    Option.Rel (SameEntries moved same) r.repository r'.repository →
    { r' with patterns := r.patterns, repository := r.repository } = r → same r r'

theorem RuleSpec.handedOn_same : HandedOn True Same :=
  fun _ _ => .intro

theorem RuleSpec.handedOn_eq : HandedOn False Eq := by
  intro r r' hpatterns hrepository hothers
  have heq : r.patterns = r'.patterns := by
    refine eq_of_rel (fun rules rules' h => ?_) hpatterns
    rwa [List.forall₂_eq_eq_eq] at h
  have heq' : r.repository = r'.repository := eq_of_rel (fun _ _ h => h.eq not_false) hrepository
  rw [heq, heq'] at hothers
  cases r'
  exact hothers.symm

/-! ### Fields that are written as null if they are absent -/

theorem Data.stringOrNull_eq (o : Option String) : stringOrNull o = orNull string o := by
  cases o with
  | none => rfl
  | some s => rfl

section fields

variable {α β : Type} {moved : Prop} {encode : α → Data} {decode : Data → Option β}
  {s : α → β → Prop} {es es' : List (String × Data)} {name : String}

theorem Data.exists_orNull (h : Copied moved es es') {o : Option α}
    (hlookup : es.lookup name = some (orNull encode o)) (hvalue : ∀ a, (encode a).HasValue)
    (hdecode : ∀ a, o = some a → ∀ d, (name, d) ∈ es' → Data.Same moved (encode a) d →
      ∃ b, decode d = some b ∧ s a b) :
    ∃ o', (Record.ofEntries es').optional name decode = some o' ∧ Option.Rel s o o' := by
  refine exists_optional (o := o) h (fun a ha => ⟨?_, hvalue a⟩) (fun ho => .inr ?_) hdecode
  · rw [hlookup, ha]
    rfl
  · rw [hlookup, ho]
    rfl

theorem Data.optional_orNull {decode : Data → Option α} (h : Copied moved es es') {o : Option α}
    (hlookup : es.lookup name = some (orNull encode o))
    (hvalue : ∀ a, (encode a).HasValue)
    (hdecode : ∀ a, o = some a → ∀ d, (name, d) ∈ es' → Data.Same moved (encode a) d →
      decode d = some a) :
    (Record.ofEntries es').optional name decode = some o := by
  obtain ⟨o', ho', hrel⟩ := exists_orNull (s := Eq) h hlookup hvalue
    fun a ha d hmem hd => ⟨a, hdecode a ha d hmem hd, rfl⟩
  rw [ho', eq_of_rel (fun _ _ hab => hab) hrel]

end fields

/-! ### Single fields -/

theorem nested_of_pos {α : Type} {depth : Nat} {d : Data} (h : 0 < depth)
    (decode : Nat → Data → Option α) : nested decode depth d = decode (depth - 1) d := by
  obtain ⟨n, rfl⟩ := Nat.exists_eq_add_one.mpr h
  rfl

section values

variable {moved : Prop} {d : Data} {depth : Nat}

theorem Flag.hasValue_toData (f : Flag) : f.toData.HasValue := by
  cases f with
  | bool b => exact ⟨nofun, nofun⟩
  | int n => exact ⟨nofun, nofun⟩

theorem Flag.ofData?_of_same {f : Flag} (hfits : f.Fits) (h : Data.Same moved f.toData d) :
    ofData? d = some f := by
  cases f with
  | bool b =>
    obtain rfl : d = .bool b := h.eq_of_scalar nofun nofun
    rfl
  | int n =>
    obtain rfl : d = .int n := h.eq_of_scalar nofun nofun
    have hin : (Data.int n).intIn? (-Int.pow 2 63) (Int.pow 2 63 - 1) = some n := by
      obtain ⟨hlo, hhi⟩ := hfits
      show (some n).filter _ = some n
      rw [Option.filter_some, decide_eq_true hlo, decide_eq_true hhi]
      rfl
    rw [ofData?, hin]
    rfl

namespace CaptureSpec

theorem depth_pos_of_same (c : CaptureSpec) (h : Data.Same moved c.toData d) : 0 < d.depth := by
  obtain ⟨es, rfl, -⟩ := h.exists_fields
  exact depth_fields_pos es

theorem ofData?_of_same (c : CaptureSpec) (h : Data.Same moved c.toData d) :
    ofData? d = some c := by
  obtain ⟨es, rfl, hread, hcopied⟩ := h.exists_record (by decide) (List.Sublist.refl ["name"])
  have hname : (Record.ofEntries es).optional "name" string? = some c.name :=
    optional_orNull hcopied (by rw [← stringOrNull_eq]; rfl) hasValue_string
      fun s _ d _ => string?_of_same s d
  unfold ofData?
  rw [bind_of_eq_some hread, bind_of_eq_some hname]
  rfl

/-- Captures that were written in any order are sorted again. -/
theorem mergeSort_of_perm {cs out : CaptureSpecs} (hordered : CaptureSpecs.Ordered cs)
    (hperm : cs.Perm out) : out.mergeSort (fun a b => !(b.1 < a.1)) = cs := by
  have htrans : ∀ a b c : String × CaptureSpec, (!(b.1 < a.1 : Bool)) = true →
      (!(c.1 < b.1 : Bool)) = true → (!(c.1 < a.1 : Bool)) = true := by
    intro a b c hab hbc
    simp only [Bool.not_eq_true', decide_eq_false_iff_not, String.not_lt] at hab hbc ⊢
    exact String.le_trans hab hbc
  have htotal : ∀ a b : String × CaptureSpec,
      ((!(b.1 < a.1 : Bool)) || !(a.1 < b.1 : Bool)) = true := by
    intro a b
    simp only [Bool.or_eq_true, Bool.not_eq_true', decide_eq_false_iff_not, String.not_lt]
    exact String.le_total a.1 b.1
  have hsorted : cs.Pairwise fun a b => (!(b.1 < a.1 : Bool)) = true := by
    refine hordered.imp fun hab => ?_
    simpa using String.lt_asymm hab
  have hsame : (out.mergeSort fun a b => !(b.1 < a.1)).Perm cs :=
    (List.mergeSort_perm out _).trans hperm.symm
  refine hsame.eq_of_pairwise ?_ (List.pairwise_mergeSort htrans htotal out) hsorted
  -- captures with the same key are the same capture
  intro a b ha hb hab hba
  simp only [Bool.not_eq_true', decide_eq_false_iff_not, String.not_lt] at hab hba
  exact List.inj_on_of_nodup_map hordered.nodup (hsame.mem_iff.mp ha) hb (String.le_antisymm hab hba)

theorem all?_of_same {cs : CaptureSpecs} (hordered : CaptureSpecs.Ordered cs)
    (h : Data.Same moved (allToData cs) d) (hdepth : d.depth ≤ depth) : all? depth d = some cs := by
  obtain ⟨es, rfl, hentries, hsame⟩ := h.exists_entries hordered.nodup
  obtain ⟨n, rfl, hinside⟩ := exists_depth_fields hdepth
  have hdecode : ∀ c ∈ cs, ∀ e ∈ es, Data.Same moved c.2.toData e.2 →
      ∃ c', nested (fun _ => ofData?) n e.2 = some c' ∧ c.2 = c' := by
    intro c _ e he hce
    have hpos := c.2.depth_pos_of_same hce
    have hle := hinside e he
    refine ⟨c.2, ?_, rfl⟩
    rw [nested_of_pos (by omega)]
    exact c.2.ofData?_of_same hce
  obtain ⟨out, hout, hrel⟩ := hsame.exists_mapM hdecode
  rw [all?, nested, bind_of_eq_some hentries, bind_of_eq_some hout,
    mergeSort_of_perm hordered hrel.perm]
  rfl

end CaptureSpec

end values

/-! ### Rules -/

namespace RuleSpec

/-- A list of rules, at most `depth` levels deep. -/
def all? : (depth : Nat) → Data → Option (List RuleSpec) :=
  nested fun depth d => d.list? (ofData? depth)

/-- Rules by name, at most `depth` levels deep. -/
def named? : (depth : Nat) → Data → Option (List (String × RuleSpec)) :=
  nested fun depth d =>
    d.entries?.bind (·.mapM fun (k, v) => (ofData? depth v).map fun rule => (k, rule))

theorem ofData?_succ (depth : Nat) (d : Data) : ofData? (depth + 1) d = (do
    let r ← d.record? fieldNames
    return {
      includeTarget := ← r.optional "include" Data.string?
      name := ← r.optional "name" Data.string?
      contentName := ← r.optional "contentName" Data.string?
      matchPattern := ← r.optional "match" Data.string?
      beginPattern := ← r.optional "begin" Data.string?
      endPattern := ← r.optional "end" Data.string?
      whilePattern := ← r.optional "while" Data.string?
      captures := ← r.optional "captures" (CaptureSpec.all? depth)
      beginCaptures := ← r.optional "beginCaptures" (CaptureSpec.all? depth)
      endCaptures := ← r.optional "endCaptures" (CaptureSpec.all? depth)
      whileCaptures := ← r.optional "whileCaptures" (CaptureSpec.all? depth)
      patterns := ← r.optional "patterns" (all? depth)
      repository := ← r.optional "repository" (named? depth)
      applyEndPatternLast := ← r.optional "applyEndPatternLast" Flag.ofData? }) := by
  cases depth with
  | zero => rfl
  | succ n => rfl

theorem listToData_eq (rules : List RuleSpec) : listToData rules = rules.map toData := by
  induction rules with
  | nil => rfl
  | cons rule rules ih => rw [listToData, ih, List.map_cons]

/-- Rules by name, as they are written. -/
def namedToData (rules : List (String × RuleSpec)) : Data :=
  .fields (rules.map fun e => (e.1, e.2.toData))

theorem object_entriesToData (rules : List (String × RuleSpec)) :
    Data.object (entriesToData rules) = namedToData rules := by
  rw [namedToData, fields]
  congr 1
  induction rules with
  | nil => rfl
  | cons e rules ih => rw [entriesToData, ih, List.map_cons, List.map_cons]

/-- The fields of a rule. -/
def writtenFields (r : RuleSpec) : List (String × Data) :=
  [("include", orNull string r.includeTarget), ("name", orNull string r.name),
    ("contentName", orNull string r.contentName), ("match", orNull string r.matchPattern),
    ("begin", orNull string r.beginPattern), ("end", orNull string r.endPattern),
    ("while", orNull string r.whilePattern),
    ("captures", orNull CaptureSpec.allToData r.captures),
    ("beginCaptures", orNull CaptureSpec.allToData r.beginCaptures),
    ("endCaptures", orNull CaptureSpec.allToData r.endCaptures),
    ("whileCaptures", orNull CaptureSpec.allToData r.whileCaptures),
    ("patterns", orNull (fun rules => array (rules.map toData)) r.patterns),
    ("repository", orNull namedToData r.repository),
    ("applyEndPatternLast", orNull Flag.toData r.applyEndPatternLast)]

theorem toData_eq (r : RuleSpec) : r.toData = fields r.writtenFields := by
  obtain ⟨includeTarget, name, contentName, matchPattern, beginPattern, endPattern, whilePattern,
    captures, beginCaptures, endCaptures, whileCaptures, patterns, repository, flag⟩ := r
  unfold writtenFields
  simp only [← stringOrNull_eq]
  cases patterns with
  | none =>
    cases repository with
    | none => rfl
    | some rules =>
      rw [toData, object_entriesToData]
      rfl
  | some inner =>
    cases repository with
    | none =>
      rw [toData, listToData_eq]
      rfl
    | some rules =>
      rw [toData, listToData_eq, object_entriesToData]
      rfl

variable {moved : Prop} {same : RuleSpec → RuleSpec → Prop} {d : Data} {depth : Nat}

/-- What a decoder that goes that deep makes of a written rule. -/
def Decodes (moved : Prop) (same : RuleSpec → RuleSpec → Prop) (depth : Nat) : Prop :=
  ∀ ⦃r : RuleSpec⦄ ⦃d : Data⦄, r.Proper → Data.Same moved r.toData d → d.depth ≤ depth →
    ∃ r', ofData? depth d = some r' ∧ same r r'

theorem exists_all (ih : ∀ n < depth, Decodes moved same n) {rules : List RuleSpec}
    (hproper : ∀ rule ∈ rules, rule.Proper) (h : Data.Same moved (array (rules.map toData)) d)
    (hdepth : d.depth ≤ depth) :
    ∃ rules', all? depth d = some rules' ∧ List.Forall₂ same rules rules' := by
  obtain ⟨items, rfl, hitems⟩ := h.exists_array
  obtain ⟨n, rfl, hinside⟩ := exists_depth_array hdepth
  exact exists_list hitems fun rule hrule d hd hsame =>
    ih n (Nat.lt_succ_self n) (hproper rule hrule) hsame (hinside d hd)

theorem exists_named (ih : ∀ n < depth, Decodes moved same n) {rules : List (String × RuleSpec)}
    (hnames : (rules.map Prod.fst).Nodup) (hproper : ∀ e ∈ rules, e.2.Proper)
    (h : Data.Same moved (namedToData rules) d) (hdepth : d.depth ≤ depth) :
    ∃ rules', named? depth d = some rules' ∧ SameEntries moved same rules rules' := by
  obtain ⟨es, rfl, hentries, hsame⟩ := h.exists_entries hnames
  obtain ⟨n, rfl, hinside⟩ := exists_depth_fields hdepth
  have hdecode : ∀ rule ∈ rules, ∀ e ∈ es, Data.Same moved rule.2.toData e.2 →
      ∃ rule', ofData? n e.2 = some rule' ∧ same rule.2 rule' := by
    intro rule hrule e he hre
    exact ih n (Nat.lt_succ_self n) (hproper rule hrule) hre (hinside e he)
  obtain ⟨rules', hrules', hrel⟩ := hsame.exists_mapM hdecode
  refine ⟨rules', ?_, hrel⟩
  rw [named?, nested, hentries, Option.bind_some, hrules']

/-- One step: a rule is decoded if the rules inside are. -/
theorem decodes_of_lt (hhanded : HandedOn moved same) (ih : ∀ n < depth, Decodes moved same n) :
    Decodes moved same depth := by
  intro r d hproper h hdepth
  obtain ⟨hcaptures, hbegin, hend, hwhile, hrules, hnames, hnamed, hflag⟩ := hproper
  rw [toData_eq] at h
  obtain ⟨es, rfl, hread, hcopied⟩ := h.exists_record (by decide) (List.Sublist.refl fieldNames)
  obtain ⟨n, rfl, hinside⟩ := exists_depth_fields hdepth
  have hih : ∀ m < n, Decodes moved same m := fun m hm => ih m (Nat.lt_succ_of_lt hm)
  -- the fields of one type are decoded for the same reason
  have htext : ∀ (name : String) (o : Option String),
      r.writtenFields.lookup name = some (orNull string o) →
        (Record.ofEntries es).optional name string? = some o := fun name o hlookup =>
    optional_orNull hcopied hlookup hasValue_string fun s _ d _ => string?_of_same s d
  have hcapture : ∀ (name : String) (o : Option CaptureSpecs),
      (∀ cs, o = some cs → CaptureSpecs.Ordered cs) →
        r.writtenFields.lookup name = some (orNull CaptureSpec.allToData o) →
        (Record.ofEntries es).optional name (CaptureSpec.all? n) = some o :=
    fun name o hordered hlookup =>
      optional_orNull hcopied hlookup (fun _ => hasValue_fields _) fun cs hcs d hd h =>
        CaptureSpec.all?_of_same (hordered cs hcs) h (hinside _ hd)
  obtain ⟨patterns, hpatterns, hpatternsRel⟩ :
      ∃ patterns, (Record.ofEntries es).optional "patterns" (all? n) = some patterns ∧
        Option.Rel (List.Forall₂ same) r.patterns patterns :=
    exists_orNull hcopied rfl (fun _ => ⟨nofun, nofun⟩) fun rules hsome d hd h =>
      exists_all hih (hrules rules hsome) h (hinside _ hd)
  obtain ⟨repository, hrepository, hrepositoryRel⟩ :
      ∃ repository, (Record.ofEntries es).optional "repository" (named? n) = some repository ∧
        Option.Rel (SameEntries moved same) r.repository repository :=
    exists_orNull hcopied rfl (fun _ => hasValue_fields _) fun rules hsome d hd h =>
      exists_named hih (hnames rules hsome) (hnamed rules hsome) h (hinside _ hd)
  have hlast : (Record.ofEntries es).optional "applyEndPatternLast" Flag.ofData?
      = some r.applyEndPatternLast :=
    optional_orNull hcopied rfl Flag.hasValue_toData fun flag hsome d _ h =>
      Flag.ofData?_of_same (hflag flag hsome) h
  refine ⟨{ r with patterns := patterns, repository := repository }, ?_,
    hhanded hpatternsRel hrepositoryRel ?_⟩
  · -- one field after the other
    rw [ofData?_succ, bind_of_eq_some hread, bind_of_eq_some (htext "include" r.includeTarget rfl),
      bind_of_eq_some (htext "name" r.name rfl),
      bind_of_eq_some (htext "contentName" r.contentName rfl),
      bind_of_eq_some (htext "match" r.matchPattern rfl),
      bind_of_eq_some (htext "begin" r.beginPattern rfl),
      bind_of_eq_some (htext "end" r.endPattern rfl),
      bind_of_eq_some (htext "while" r.whilePattern rfl),
      bind_of_eq_some (hcapture "captures" r.captures hcaptures rfl),
      bind_of_eq_some (hcapture "beginCaptures" r.beginCaptures hbegin rfl),
      bind_of_eq_some (hcapture "endCaptures" r.endCaptures hend rfl),
      bind_of_eq_some (hcapture "whileCaptures" r.whileCaptures hwhile rfl),
      bind_of_eq_some hpatterns, bind_of_eq_some hrepository, bind_of_eq_some hlast]
    rfl
  · cases r
    rfl

/-- A rule that is written is decoded by every decoder that goes as deep. -/
theorem decodes (hhanded : HandedOn moved same) (depth : Nat) : Decodes moved same depth := by
  induction depth using Nat.strongRecOn with
  | ind depth ih => exact decodes_of_lt hhanded ih

end RuleSpec

/-! ### Grammars -/

namespace GrammarSpec

/-- The names of the fields of a grammar, in their order. -/
def fieldNames : List String :=
  ["scopeName", "name", "fileTypes", "patterns", "repository"]

/-- The fields of a grammar. -/
def writtenFields (g : GrammarSpec) : List (String × Data) :=
  [("scopeName", .string g.scopeName), ("name", orNull string g.name),
    ("fileTypes", .strings g.fileTypes), ("patterns", .array (g.patterns.map RuleSpec.toData)),
    ("repository", RuleSpec.namedToData g.repository)]

theorem toData_eq (g : GrammarSpec) : g.toData = fields g.writtenFields := by
  rw [toData, writtenFields, stringOrNull_eq, RuleSpec.listToData_eq, RuleSpec.object_entriesToData]

theorem ofData?_succ (depth : Nat) (d : Data) : ofData? (depth + 1) d = (do
    let r ← d.record? fieldNames
    return {
      scopeName := ← r.required "scopeName" Data.string?
      name := ← r.optional "name" Data.string?
      fileTypes := ← r.orDefault "fileTypes" (nested (fun _ d => d.list? Data.string?) depth) []
      patterns := ← r.orDefault "patterns" (RuleSpec.all? depth) []
      repository := ← r.orDefault "repository" (RuleSpec.named? depth) [] }) :=
  rfl

variable {moved : Prop} {same : RuleSpec → RuleSpec → Prop} {d : Data} {depth : Nat}

theorem exists_ofData? (hhanded : RuleSpec.HandedOn moved same) {g : GrammarSpec}
    (hproper : g.Proper) (h : Data.Same moved g.toData d) (hdepth : d.depth ≤ depth) :
    ∃ g', ofData? depth d = some g' ∧ List.Forall₂ same g.patterns g'.patterns ∧
      SameEntries moved same g.repository g'.repository ∧
      { g' with patterns := g.patterns, repository := g.repository } = g := by
  rw [toData_eq] at h
  obtain ⟨es, rfl, hread, hcopied⟩ := h.exists_record (by decide) (List.Sublist.refl fieldNames)
  obtain ⟨n, rfl, hinside⟩ := exists_depth_fields hdepth
  have hscope : (Record.ofEntries es).required "scopeName" string? = some g.scopeName :=
    required_eq_of_written hcopied rfl string?_of_same
  have hname : (Record.ofEntries es).optional "name" string? = some g.name :=
    optional_orNull hcopied rfl hasValue_string fun s _ d _ => string?_of_same s d
  have htypes : (Record.ofEntries es).orDefault "fileTypes"
      (nested (fun _ d => d.list? string?) n) [] = some g.fileTypes := by
    have hwritten : g.writtenFields.lookup "fileTypes" = some (strings g.fileTypes) := rfl
    obtain ⟨d, hd, hmem, hdSame⟩ := exists_find hcopied hwritten
    have hpos : 0 < n := by
      refine Nat.lt_of_lt_of_le ?_ (hinside _ hmem)
      rw [hdSame.eq_strings]
      exact depth_array_pos _
    rw [Record.orDefault_of_find hd, nested_of_pos hpos, list?_of_same _ _ hdSame]
  obtain ⟨patterns, hpatterns, hpatternsRel⟩ :
      ∃ patterns, (Record.ofEntries es).orDefault "patterns" (RuleSpec.all? n) [] = some patterns ∧
        List.Forall₂ same g.patterns patterns := by
    have hwritten : g.writtenFields.lookup "patterns" =
      some (array (g.patterns.map RuleSpec.toData)) := rfl
    obtain ⟨d, hd, hmem, hdSame⟩ := exists_find hcopied hwritten
    rw [Record.orDefault_of_find hd]
    exact RuleSpec.exists_all (fun m _ => RuleSpec.decodes hhanded m) hproper.patterns hdSame
      (hinside _ hmem)
  obtain ⟨repository, hrepository, hrepositoryRel⟩ :
      ∃ rules, (Record.ofEntries es).orDefault "repository" (RuleSpec.named? n) [] = some rules ∧
        SameEntries moved same g.repository rules := by
    have hwritten : g.writtenFields.lookup "repository" =
      some (RuleSpec.namedToData g.repository) := rfl
    obtain ⟨d, hd, hmem, hdSame⟩ := exists_find hcopied hwritten
    rw [Record.orDefault_of_find hd]
    exact RuleSpec.exists_named (fun m _ => RuleSpec.decodes hhanded m) hproper.names
      hproper.repository hdSame (hinside _ hmem)
  refine ⟨{ g with patterns := patterns, repository := repository }, ?_, hpatternsRel,
    hrepositoryRel, rfl⟩
  rw [ofData?_succ, bind_of_eq_some hread, bind_of_eq_some hscope, bind_of_eq_some hname,
    bind_of_eq_some htypes, bind_of_eq_some hpatterns, bind_of_eq_some hrepository]
  rfl

/-- A grammar that is written is decoded as it was. -/
theorem ofData?_toData {g : GrammarSpec} (hproper : g.Proper) (hdepth : g.toData.depth ≤ depth) :
    ofData? depth g.toData = some g := by
  obtain ⟨g', hg', hpatterns, hrepository, hothers⟩ :=
    exists_ofData? RuleSpec.handedOn_eq hproper (.refl g.toData) hdepth
  rw [List.forall₂_eq_eq_eq] at hpatterns
  rw [hpatterns, hrepository.eq not_false] at hothers
  rw [hg', ← hothers]


theorem exists_same {g : GrammarSpec} (hproper : g.Proper) (h : Data.Same True g.toData d)
    (hdepth : d.depth ≤ depth) : ∃ g', ofData? depth d = some g' ∧ g.Same g' := by
  obtain ⟨g', hg', hpatterns, hrepository, hothers⟩ :=
    exists_ofData? RuleSpec.handedOn_same hproper h hdepth
  exact ⟨g', hg', hpatterns, hrepository, hothers⟩

/-- Under a name stands the same rule in both grammars. -/
theorem Same.lookup_rel {g g' : GrammarSpec} (h : g.Same g') (hproper : g.Proper) (name : String) :
    Option.Rel RuleSpec.Same (g.repository.lookup name) (g'.repository.lookup name) :=
  h.repository.lookup_rel hproper.names name

/-- A grammar that is written and decoded is that grammar, and it is the same one if the entries of
objects were moved in between. With a scope name that is not blank it is read from a JSON text, too. -/
theorem decoded_as_written (g : GrammarSpec) (hproper : g.Proper)
    (hscope : Text.trim g.scopeName.toList ≠ []) :
    (∀ depth, g.toData.depth ≤ depth → ofData? depth g.toData = some g) ∧
      ∀ d, Data.Same True g.toData d →
        (∀ depth, d.depth ≤ depth → ∃ g', ofData? depth d = some g' ∧ g.Same g') ∧
        ∀ path text, GrammarFormat.detect path text = .json → Json.read? text = some d →
          d.depth ≤ Json.maxDepth → ∃ g', read path text = .ok g' ∧ g.Same g' := by
  refine ⟨fun depth hdepth => ofData?_toData hproper hdepth, fun d hd =>
    ⟨fun depth hdepth => exists_same hproper hd hdepth, ?_⟩⟩
  intro path text hformat htext hdepth
  obtain ⟨g', hg', hsame⟩ := exists_same hproper hd hdepth
  have hscope' : (Text.trim g'.scopeName.toList).isEmpty = false := by
    have hscopeName := congrArg scopeName hsame.others
    dsimp only at hscopeName
    rw [hscopeName]
    simpa using hscope
  refine ⟨g', ?_, hsame⟩
  unfold read
  rw [hformat]
  simp only [htext, Option.bind_some, hg', hscope', Bool.false_eq_true, if_false]

/-- A grammar with rules inside a rule, in a list and by name. -/
def nestedExample : GrammarSpec where
  scopeName := "source.example"
  fileTypes := ["example"]
  patterns := [{
    beginPattern := some "a"
    endPattern := some "b"
    captures := some [("0", ⟨some "c"⟩), ("1", ⟨none⟩)]
    patterns := some [{ includeTarget := some "#d", applyEndPatternLast := some (.int 1) }]
    repository := some [("d", { matchPattern := some "e" }), ("f", { patterns := some [] })]
    applyEndPatternLast := some (.bool true) }]
  repository := [("g", { whilePattern := some "h" }), ("i", {})]

theorem nestedExample_proper : nestedExample.Proper := by
  refine ⟨?_, by decide, ?_⟩
  · intro rule hrule
    obtain rfl := List.mem_singleton.mp hrule
    refine ⟨?_, nofun, nofun, nofun, ?_, ?_, ?_, ?_⟩
    · rintro cs ⟨⟩
      exact List.pairwise_pair.mpr (by decide)
    · rintro rules ⟨⟩ rule hrule
      obtain rfl := List.mem_singleton.mp hrule
      exact ⟨nofun, nofun, nofun, nofun, nofun, nofun, nofun, by rintro flag ⟨⟩; decide⟩
    · rintro rules ⟨⟩
      decide
    · rintro rules ⟨⟩ e he
      obtain rfl | he := List.mem_cons.mp he
      · exact ⟨nofun, nofun, nofun, nofun, nofun, nofun, nofun, nofun⟩
      · obtain rfl := List.mem_singleton.mp he
        exact ⟨nofun, nofun, nofun, nofun, by rintro rules ⟨⟩ rule ⟨⟩, nofun, nofun, nofun⟩
    · rintro flag ⟨⟩
      decide
  · intro e he
    obtain rfl | he := List.mem_cons.mp he
    · exact ⟨nofun, nofun, nofun, nofun, nofun, nofun, nofun, nofun⟩
    · obtain rfl := List.mem_singleton.mp he
      exact ⟨nofun, nofun, nofun, nofun, nofun, nofun, nofun, nofun⟩

/-- A grammar that is nested that deep comes back, also with its fields the other way round. -/
theorem nestedExample_decoded :
    ofData? 9 nestedExample.toData = some nestedExample ∧
      ∃ g', ofData? 9 (fields nestedExample.writtenFields.reverse) = some g' ∧
        nestedExample.Same g' := by
  have hscope : Text.trim nestedExample.scopeName.toList ≠ [] := by decide
  have hmoved : Data.Same True nestedExample.toData (fields nestedExample.writtenFields.reverse) := by
    rw [toData_eq]
    exact .ofEntries (.move trivial (.refl .refl _) (List.reverse_perm _).symm)
  obtain ⟨hdecoded, hsame⟩ := decoded_as_written nestedExample nestedExample_proper hscope
  exact ⟨hdecoded 9 (by decide), (hsame _ hmoved).1 9 (by decide)⟩

end GrammarSpec

end Tincture
