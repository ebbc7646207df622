import Mathlib.Data.List.Forall2
import Mathlib.Data.List.Perm.Basic
import Tincture.Data.Basic
import Tincture.Data.Table

/-!
# Documents up to the order of entries

The entries of an object have names, and nothing depends on which of them stands first: a document
value is the `Same` as another one if the entries of its objects were moved. Entries with different
names are found under their names as before (`SameEntries.lookup_rel`), and can be decoded one by one
(`SameEntries.exists_mapM`).

Whether entries may be moved is a parameter. If they may not, only equal values are the same, so that a
fact about all values that are the same as one is a fact about that value itself, too.
-/

namespace Tincture.Data

/-- Entries with the same names and related values, which are in the same order unless they may be
moved. -/
inductive SameEntries {α β : Type} (moved : Prop) (r : α → β → Prop) :
    List (String × α) → List (String × β) → Prop where
  | nil : SameEntries moved r [] []
  | cons (name : String) {a : α} {b : β} {es : List (String × α)} {es' : List (String × β)}
    (value : r a b) (rest : SameEntries moved r es es') :
    SameEntries moved r ((name, a) :: es) ((name, b) :: es')
  | move {es : List (String × α)} {es' es'' : List (String × β)} (allowed : moved)
    (same : SameEntries moved r es es') (order : es'.Perm es'') : SameEntries moved r es es''

/-- A value with the entries of its objects in another order, unless they may not be moved. -/
inductive Same (moved : Prop) : Data → Data → Prop where
  | refl (d : Data) : Same moved d d
  | ofItems {items items' : List Data} (same : List.Forall₂ (Same moved) items items') :
    Same moved (array items) (array items')
  | ofEntries {es es' : List (String × Data)} (same : SameEntries moved (Same moved) es es') :
    Same moved (fields es) (fields es')

/-! ### Entries -/

theorem lookup_perm {α : Type} {es es' : List (String × α)} (h : es.Perm es')
    (hnodup : (es.map Prod.fst).Nodup) (name : String) : es.lookup name = es'.lookup name := by
  induction h with
  | nil => rfl
  | cons e _ ih =>
    obtain ⟨other, a⟩ := e
    rw [Table.lookup_cons, Table.lookup_cons, ih (List.nodup_cons.mp hnodup).2]
  | swap first second rest =>
    obtain ⟨name₁, a₁⟩ := first
    obtain ⟨name₂, a₂⟩ := second
    have hne : name₂ ≠ name₁ := by
      rintro rfl
      exact (List.nodup_cons.mp hnodup).1 List.mem_cons_self
    simp only [Table.lookup_cons]
    by_cases h₁ : name = name₁
    · rw [if_neg fun h₂ => hne (h₂.symm.trans h₁), if_pos h₁, if_pos h₁]
    · rw [if_neg h₁, if_neg h₁]
  | trans h _ ih ih' => exact (ih hnodup).trans (ih' ((h.map Prod.fst).nodup_iff.mp hnodup))

theorem bind_of_eq_some {α β : Type} {o : Option α} {a : α} (h : o = some a) (f : α → Option β) :
    (o >>= f) = f a := by
  rw [h]
  rfl

theorem mapM_cons_eq_some_iff {α β : Type} {f : α → Option β} {a : α} {l : List α} {out : List β} :
    (a :: l).mapM f = some out ↔ ∃ b bs, f a = some b ∧ l.mapM f = some bs ∧ out = b :: bs := by
  rw [List.mapM_cons]
  constructor
  · intro h
    simp only [Option.bind_eq_bind, Option.bind_eq_some_iff, Option.pure_def,
      Option.some.injEq] at h
    obtain ⟨b, hb, bs, hbs, rfl⟩ := h
    exact ⟨b, bs, hb, hbs, rfl⟩
  · rintro ⟨b, bs, hb, hbs, rfl⟩
    rw [hb, hbs]
    rfl

theorem exists_mapM_perm {α β : Type} {f : α → Option β} {l l' : List α} (h : l.Perm l')
    {out : List β} (hout : l.mapM f = some out) : ∃ out', l'.mapM f = some out' ∧ out.Perm out' := by
  induction h generalizing out with
  | nil => exact ⟨out, hout, List.Perm.refl out⟩
  | cons a _ ih =>
    obtain ⟨b, bs, hb, hbs, rfl⟩ := mapM_cons_eq_some_iff.mp hout
    obtain ⟨bs', hbs', hperm⟩ := ih hbs
    exact ⟨b :: bs', mapM_cons_eq_some_iff.mpr ⟨b, bs', hb, hbs', rfl⟩, hperm.cons b⟩
  | swap a a' l =>
    obtain ⟨b', bs', hb', hbs', rfl⟩ := mapM_cons_eq_some_iff.mp hout
    obtain ⟨b, bs, hb, hbs, rfl⟩ := mapM_cons_eq_some_iff.mp hbs'
    have hrest : (a' :: l).mapM f = some (b' :: bs) :=
      mapM_cons_eq_some_iff.mpr ⟨b', bs, hb', hbs, rfl⟩
    exact ⟨b :: b' :: bs, mapM_cons_eq_some_iff.mpr ⟨b, b' :: bs, hb, hrest, rfl⟩,
      List.Perm.swap b b' bs⟩
  | trans _ _ ih ih' =>
    obtain ⟨mid, hmid, hperm⟩ := ih hout
    obtain ⟨out', hout', hperm'⟩ := ih' hmid
    exact ⟨out', hout', hperm.trans hperm'⟩

theorem eq_of_rel {α : Type} {r : α → α → Prop} (hr : ∀ a b, r a b → a = b) {o o' : Option α}
    (h : Option.Rel r o o') : o = o' := by
  cases h with
  | none => rfl
  | some hab => rw [hr _ _ hab]

namespace SameEntries

variable {α β γ : Type} {moved : Prop} {r : α → β → Prop} {es : List (String × α)}
  {es' : List (String × β)}

theorem refl {r : α → α → Prop} (hr : ∀ a, r a a) (es : List (String × α)) :
    SameEntries moved r es es := by
  induction es with
  | nil => exact .nil
  | cons e es ih => exact .cons e.1 (hr e.2) ih

theorem names_perm (h : SameEntries moved r es es') :
    (es.map Prod.fst).Perm (es'.map Prod.fst) := by
  induction h with
  | nil => exact List.Perm.refl _
  | cons name _ _ ih => exact ih.cons name
  | move _ _ horder ih => exact ih.trans (horder.map Prod.fst)

theorem exists_of_mem (h : SameEntries moved r es es') {e' : String × β} (he' : e' ∈ es') :
    ∃ e ∈ es, r e.2 e'.2 := by
  induction h with
  | nil => cases he'
  | cons name hvalue _ ih =>
    rcases List.mem_cons.mp he' with rfl | he'
    · exact ⟨(name, _), List.mem_cons_self, hvalue⟩
    · obtain ⟨e, he, hr⟩ := ih he'
      exact ⟨e, List.mem_cons_of_mem _ he, hr⟩
  | move _ _ horder ih => exact ih (horder.mem_iff.mpr he')

/-- What is found under a name is related, or nothing is found in either. -/
theorem lookup_rel (h : SameEntries moved r es es') (hnodup : (es.map Prod.fst).Nodup)
    (name : String) : Option.Rel r (es.lookup name) (es'.lookup name) := by
  induction h with
  | nil => exact .none
  | cons other hvalue _ ih =>
    rw [Table.lookup_cons, Table.lookup_cons]
    by_cases hname : name = other
    · rw [if_pos hname, if_pos hname]
      exact .some hvalue
    · rw [if_neg hname, if_neg hname]
      exact ih (List.nodup_cons.mp hnodup).2
  | move _ hsame horder ih =>
    rw [← lookup_perm horder (hsame.names_perm.nodup_iff.mp hnodup)]
    exact ih hnodup

/-- Entries that can be decoded if their values are related to those of the other ones. -/
theorem exists_mapM (h : SameEntries moved r es es') {decode : β → Option γ} {s : α → γ → Prop}
    (hdecode : ∀ e ∈ es, ∀ e' ∈ es', r e.2 e'.2 → ∃ c, decode e'.2 = some c ∧ s e.2 c) :
    ∃ out, es'.mapM (fun (name, b) => (decode b).map fun c => (name, c)) = some out ∧
      SameEntries moved s es out := by
  induction h with
  | nil => exact ⟨[], rfl, .nil⟩
  | @cons name a b _ _ hvalue _ ih =>
    obtain ⟨c, hc, hs⟩ := hdecode (name, a) List.mem_cons_self (name, b) List.mem_cons_self hvalue
    obtain ⟨out, hout, hsame⟩ := ih fun e he e' he' =>
      hdecode e (List.mem_cons_of_mem _ he) e' (List.mem_cons_of_mem _ he')
    have hentry : (decode b).map (fun c => (name, c)) = some (name, c) := by
      rw [hc, Option.map_some]
    exact ⟨(name, c) :: out, mapM_cons_eq_some_iff.mpr ⟨(name, c), out, hentry, hout, rfl⟩,
      .cons name hs hsame⟩
  | move allowed _ horder ih =>
    obtain ⟨out, hout, hsame⟩ := ih fun e he e' he' => hdecode e he e' (horder.mem_iff.mp he')
    obtain ⟨out', hout', hperm⟩ := exists_mapM_perm horder hout
    exact ⟨out', hout', .move allowed hsame hperm⟩

end SameEntries

/-- Equal entries in another order. -/
theorem SameEntries.perm {α : Type} {moved : Prop} {es es' : List (String × α)}
    (h : SameEntries moved Eq es es') : es.Perm es' := by
  induction h with
  | nil => exact List.Perm.refl []
  | cons name hvalue _ ih =>
    rw [hvalue]
    exact ih.cons (name, _)
  | move _ _ horder ih => exact ih.trans horder

/-- Equal entries that may not be moved. -/
theorem SameEntries.eq {α : Type} {moved : Prop} (hfixed : ¬ moved) {es es' : List (String × α)}
    (h : SameEntries moved Eq es es') : es = es' := by
  induction h with
  | nil => rfl
  | cons name hvalue _ ih => rw [hvalue, ih]
  | move allowed => exact absurd allowed hfixed

/-- Entries whose values were written, related to what was written. -/
theorem SameEntries.of_map {α β δ : Type} {moved : Prop} {r : δ → β → Prop} {f : α → δ}
    {es : List (String × α)} {es' : List (String × β)}
    (h : SameEntries moved r (es.map fun e => (e.1, f e.2)) es') :
    SameEntries moved (fun a b => r (f a) b) es es' := by
  generalize hmap : es.map (fun e => (e.1, f e.2)) = written at h
  induction h generalizing es with
  | nil =>
    obtain rfl := List.map_eq_nil_iff.mp hmap
    exact .nil
  | cons name hvalue _ ih =>
    obtain ⟨e, es, rfl, he, hes⟩ := List.map_eq_cons_iff.mp hmap
    obtain ⟨rfl, rfl⟩ := Prod.mk.inj he
    exact .cons e.1 hvalue (ih hes)
  | move allowed _ horder ih => exact .move allowed (ih hmap) horder

/-! ### Values -/

theorem fields_injective : Function.Injective fields := by
  intro es es' h
  have hsome : Function.Injective fun e : String × Data => (some e.1, e.2) := by
    intro e e' he
    obtain ⟨hname, hvalue⟩ := Prod.mk.inj he
    exact Prod.ext (Option.some.inj hname) hvalue
  exact List.map_injective_iff.mpr hsome (Data.object.inj h)

namespace Same

variable {moved : Prop} {d : Data}

/-- An object with text keys is the same as one whose entries are the same. -/
theorem exists_fields {es : List (String × Data)} (h : Same moved (fields es) d) :
    ∃ es', d = fields es' ∧ SameEntries moved (Same moved) es es' := by
  generalize hwritten : fields es = written at h
  cases h with
  | refl => exact ⟨es, hwritten.symm, .refl .refl es⟩
  | ofItems => cases hwritten
  | ofEntries hsame =>
    obtain rfl := fields_injective hwritten
    exact ⟨_, rfl, hsame⟩

theorem exists_array {items : List Data} (h : Same moved (array items) d) :
    ∃ items', d = array items' ∧ List.Forall₂ (Same moved) items items' := by
  generalize hwritten : array items = written at h
  cases h with
  | refl => exact ⟨items, hwritten.symm, List.forall₂_same.mpr fun d _ => .refl d⟩
  | ofItems hsame =>
    obtain rfl := Data.array.inj hwritten
    exact ⟨_, rfl, hsame⟩
  | ofEntries => cases hwritten

/-- A value in which nothing can be moved. -/
theorem eq_of_scalar {d' : Data} (harray : ∀ items, d ≠ array items) (hobject : ∀ es, d ≠ object es)
    (h : Same moved d d') : d' = d := by
  cases h with
  | refl => rfl
  | ofItems => exact absurd rfl (harray _)
  | ofEntries => exact absurd rfl (hobject _)

end Same

end Tincture.Data
