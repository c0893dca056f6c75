import CatchAll.Text.Basic

/-!
# Tables

A table is a list of values under texts as keys, in the order in which the keys
came in. The first entry of a key counts. Putting a value keeps the place of a
key that is there, and looking up another key does not see it.
-/

set_option autoImplicit false

namespace CatchAll

abbrev Table (α : Type) := List (Text × α)

namespace Table

variable {α : Type}

def get? (key : Text) (table : Table α) : Option α :=
  (table.find? (·.1 == key)).map (·.2)

/-- A key that is present keeps its place and takes the new value. -/
def put (key : Text) (value : α) : Table α → Table α
  | [] => [(key, value)]
  | (k, v) :: rest => if k = key then (k, value) :: rest else (k, v) :: put key value rest

def putAll (new old : Table α) : Table α :=
  new.foldl (fun table (k, v) => put k v table) old

/-- The table written with the given pairs, repeated keys included. -/
def ofPairs (pairs : Table α) : Table α := putAll pairs []

def erase (key : Text) (table : Table α) : Table α := table.filter (·.1 ≠ key)

def has (key : Text) (table : Table α) : Bool := (get? key table).isSome

def keys (table : Table α) : List Text := table.map (·.1)

@[simp] theorem get?_nil (key : Text) : get? key ([] : Table α) = none := rfl

theorem get?_cons (key k : Text) (v : α) (rest : Table α) :
    get? key ((k, v) :: rest) = if k = key then some v else get? key rest := by
  by_cases h : k = key <;> simp [get?, h]

theorem get?_put (key k : Text) (v : α) (table : Table α) :
    get? key (put k v table) = if k = key then some v else get? key table := by
  induction table with
  | nil => simp [put, get?_cons]
  | cons entry rest ih =>
    obtain ⟨k', v'⟩ := entry
    by_cases h : k' = k
    · subst h
      by_cases hk : k' = key <;> simp [put, get?_cons, hk]
    · by_cases hk : k' = key
      · subst hk
        simp [put, get?_cons, h, Ne.symm h]
      · simp [put, get?_cons, h, hk, ih]

theorem get?_erase (key k : Text) (table : Table α) :
    get? key (erase k table) = if k = key then none else get? key table := by
  induction table with
  | nil => simp [erase]
  | cons entry rest ih =>
    obtain ⟨k', v'⟩ := entry
    simp only [erase, ne_eq, decide_not] at ih
    by_cases h : k' = k
    · subst h
      by_cases hk : k' = key <;> simp_all [erase, get?_cons]
    · by_cases hk : k' = key
      · subst hk
        simp [erase, get?_cons, h, Ne.symm h]
      · simp [erase, get?_cons, h, hk, ih]

end Table

end CatchAll
