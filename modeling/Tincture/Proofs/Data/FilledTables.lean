import Mathlib.Data.List.Perm.Basic
import Tincture.Data.Table

/-!
# Tables that are filled in different orders

Setting a name twice is the same as setting it to the second value (`set_set`), and setting it to what
it has changes nothing (`set_of_get?`). The entries of a table keep the order in which they were first
set, which nobody sees who asks for a name or for all names in their order as texts: two tables are
`Same` if they agree on these. Tables that are filled with the same entries in two orders are
(`same_setAll`).
-/

namespace Tincture.Table

variable {α : Type}

/-! ### Setting a name again -/

theorem setIn_setIn (name : String) (v w : α) (entries : List (String × α)) :
    setIn name w (setIn name v entries) = setIn name w entries := by
  induction entries with
  | nil =>
    show setIn name w [(name, v)] = [(name, w)]
    rw [setIn, if_pos rfl]
  | cons entry rest ih =>
    obtain ⟨k, u⟩ := entry
    by_cases hk : k = name
    · rw [setIn, if_pos hk, setIn, if_pos rfl, setIn, if_pos hk]
    · rw [setIn, if_neg hk, setIn, if_neg hk, ih, setIn, if_neg hk]

/-- Of two values for a name the second counts. -/
theorem set_set (t : Table α) (name : String) (v w : α) :
    (t.set name v).set name w = t.set name w :=
  congrArg Table.mk (setIn_setIn name v w t.entries)

theorem setIn_of_lookup {name : String} {v : α} {entries : List (String × α)}
    (h : entries.lookup name = some v) : setIn name v entries = entries := by
  induction entries with
  | nil => cases h
  | cons entry rest ih =>
    obtain ⟨k, u⟩ := entry
    rw [lookup_cons] at h
    by_cases hk : k = name
    · subst hk
      rw [if_pos rfl] at h
      rw [setIn, if_pos rfl, Option.some.inj h]
    · rw [if_neg (Ne.symm hk)] at h
      rw [setIn, if_neg hk, ih h]

/-- A name that is set to what it has leaves the table as it was. -/
theorem set_of_get? {t : Table α} {name : String} {v : α} (h : t.get? name = some v) :
    t.set name v = t :=
  congrArg Table.mk (setIn_of_lookup h)

/-! ### Tables that differ in their order only -/

/-- The names of a table in the order in which they were first set. -/
def keys (t : Table α) : List String :=
  t.entries.map (·.1)

/-- Two tables have the same value for each name, and the same names. -/
structure Same (t t' : Table α) : Prop where
  get?_eq : ∀ name, t.get? name = t'.get? name
  keys_perm : t.keys.Perm t'.keys

theorem keys_setIn (name : String) (v : α) (entries : List (String × α)) :
    (setIn name v entries).map (·.1) = entries.map (·.1) ++
      if (entries.lookup name).isSome then [] else [name] := by
  induction entries with
  | nil => rfl
  | cons entry rest ih =>
    obtain ⟨k, u⟩ := entry
    rw [setIn, lookup_cons]
    by_cases hk : k = name
    · rw [if_pos hk, if_pos hk.symm, Option.isSome_some, if_pos rfl, List.append_nil, List.map_cons,
        List.map_cons, hk]
    · rw [if_neg hk, if_neg (Ne.symm hk), List.map_cons, List.map_cons, ih, List.cons_append]

/-- A new name goes to the end. -/
theorem keys_set (t : Table α) (name : String) (v : α) :
    (t.set name v).keys = t.keys ++ if t.contains name then [] else [name] :=
  keys_setIn name v t.entries

namespace Same

variable {t t' t'' : Table α}

theorem refl (t : Table α) : Same t t :=
  ⟨fun _ => rfl, List.Perm.refl _⟩

theorem trans (h : Same t t') (h' : Same t' t'') : Same t t'' :=
  ⟨fun name => (h.get?_eq name).trans (h'.get?_eq name), h.keys_perm.trans h'.keys_perm⟩

theorem contains_eq (h : Same t t') (name : String) : t.contains name = t'.contains name :=
  congrArg Option.isSome (h.get?_eq name)

/-- The same value for the same name in both. -/
theorem set (h : Same t t') (name : String) (v : α) : Same (t.set name v) (t'.set name v) where
  get?_eq := by
    intro other
    rw [get?_set, get?_set, h.get?_eq]
  keys_perm := by
    rw [keys_set, keys_set, h.contains_eq]
    exact h.keys_perm.append_right _

end Same

/-- Two names may be set in either order. -/
theorem same_set_set (t : Table α) {name other : String} (hne : name ≠ other) (v w : α) :
    Same ((t.set name v).set other w) ((t.set other w).set name v) where
  get?_eq := by
    intro third
    rw [get?_set, get?_set, get?_set, get?_set]
    by_cases hother : third = other
    · rw [if_pos hother, if_neg (fun h => hne (h.symm.trans hother)), if_pos hother]
    · rw [if_neg hother, if_neg hother]
  keys_perm := by
    -- that one name was set does not tell whether the other one is new
    have hcontains : (t.set name v).contains other = t.contains other := by
      rw [contains, contains, get?_set, if_neg hne.symm]
    have hcontains' : (t.set other w).contains name = t.contains name := by
      rw [contains, contains, get?_set, if_neg hne]
    rw [keys_set, keys_set, keys_set, keys_set, hcontains, hcontains', List.append_assoc,
      List.append_assoc]
    exact List.perm_append_comm.append_left _

/-! ### Filling a table -/

/-- The table with entries set one after the other. -/
def setAll (t : Table α) (entries : List (String × α)) : Table α :=
  entries.foldl (fun t entry => t.set entry.1 entry.2) t

theorem same_setAll_of_same {t t' : Table α} (h : Same t t') (entries : List (String × α)) :
    Same (t.setAll entries) (t'.setAll entries) := by
  induction entries generalizing t t' with
  | nil => exact h
  | cons entry rest ih => exact ih (h.set entry.1 entry.2)

/-- **Entries with different names** may be set in any order. -/
theorem same_setAll {entries entries' : List (String × α)} (h : entries.Perm entries')
    (hnodup : (entries.map (·.1)).Nodup) (t : Table α) :
    Same (t.setAll entries) (t.setAll entries') := by
  induction h generalizing t with
  | nil => exact .refl t
  | cons entry _ ih => exact ih (List.nodup_cons.mp hnodup).2 _
  | swap first second rest =>
    have hne : second.1 ≠ first.1 := by
      intro heq
      rw [List.map_cons, List.map_cons, heq] at hnodup
      exact (List.nodup_cons.mp hnodup).1 List.mem_cons_self
    exact same_setAll_of_same (same_set_set t hne second.2 first.2) rest
  | trans h _ ih ih' => exact (ih hnodup t).trans (ih' ((h.map _).nodup_iff.mp hnodup) t)

end Tincture.Table
