/-!
# Tables

Values by name. A name that is set again gets the new value and keeps its place; a new one goes to
the end.
-/

namespace Tincture

/-- Values by name, each name once. -/
structure Table (α : Type) where
  entries : List (String × α) := []

namespace Table

variable {α : Type}

/-- The value of a name. -/
def get? (t : Table α) (name : String) : Option α :=
  t.entries.lookup name

/-- Whether a name has a value. -/
def contains (t : Table α) (name : String) : Bool :=
  (t.get? name).isSome

/-- Entries with the value of a name set. -/
def setIn (name : String) (value : α) : List (String × α) → List (String × α)
  | [] => [(name, value)]
  | (k, v) :: rest => if k = name then (name, value) :: rest else (k, v) :: setIn name value rest

/-- The table with the value of a name set. -/
def set (t : Table α) (name : String) (value : α) : Table α :=
  ⟨setIn name value t.entries⟩

/-- The names in their order as texts. -/
def names (t : Table α) : List String :=
  (t.entries.map (·.1)).mergeSort fun a b => !(b < a)

theorem lookup_cons {κ : Type} [BEq κ] [LawfulBEq κ] [DecidableEq κ] (other k : κ) (v : α)
    (rest : List (κ × α)) :
    List.lookup other ((k, v) :: rest) = if other = k then some v else List.lookup other rest := by
  rw [List.lookup_cons]
  by_cases h : other = k
  · simp [h]
  · have h' : (other == k) = false := by simpa using h
    simp [h, h']

theorem lookup_setIn (name other : String) (value : α) (entries : List (String × α)) :
    (setIn name value entries).lookup other =
      if other = name then some value else entries.lookup other := by
  induction entries with
  | nil => simp [setIn, lookup_cons]
  | cons e rest ih =>
    obtain ⟨k, v⟩ := e
    rw [setIn]
    split
    · rename_i hk
      subst hk
      simp only [lookup_cons]
      split <;> rfl
    · rename_i hk
      simp only [lookup_cons, ih]
      by_cases h : other = k
      · simp [h, hk]
      · simp [h]

/-- Setting a name changes what is found under that name and nothing else. -/
theorem get?_set (t : Table α) (name other : String) (value : α) :
    (t.set name value).get? other = if other = name then some value else t.get? other :=
  lookup_setIn name other value t.entries

end Table

end Tincture
