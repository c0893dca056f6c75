import CatchAll.Table
import Mathlib.Data.List.Nodup

/-!
# What a table holds

With distinct keys a table is the same as its lookups, and putting entries keeps
the keys distinct.
-/

set_option autoImplicit false

namespace CatchAll.Table

variable {α : Type}

theorem mem_of_get? {table : Table α} {key : Text} {value : α}
    (h : get? key table = some value) : (key, value) ∈ table := by
  induction table with
  | nil => cases h
  | cons entry rest ih =>
    obtain ⟨k, v⟩ := entry
    rw [get?_cons] at h
    split at h
    · subst k
      rw [Option.some.inj h]
      exact List.mem_cons_self
    · exact List.mem_cons_of_mem _ (ih h)

/-- With distinct keys every entry can be looked up. -/
theorem get?_eq_some {table : Table α} (h : (keys table).Nodup) {key : Text} {value : α} :
    get? key table = some value ↔ (key, value) ∈ table := by
  induction table with
  | nil => simp
  | cons entry rest ih =>
    obtain ⟨k, v⟩ := entry
    obtain ⟨hk, hrest⟩ := List.nodup_cons.mp h
    rw [get?_cons]
    split
    · subst k
      have hnone : (key, value) ∉ rest := fun hmem => hk (List.mem_map.mpr ⟨_, hmem, rfl⟩)
      simp [hnone, eq_comm]
    · rename_i hne
      rw [ih hrest, List.mem_cons, Prod.mk.injEq]
      simp [Ne.symm hne]

theorem get?_eq_none {table : Table α} {key : Text} : get? key table = none ↔ key ∉ keys table := by
  rw [get?, Option.map_eq_none_iff, List.find?_eq_none, keys, List.mem_map, not_exists]
  exact forall_congr' fun entry => by simp

theorem get?_putAll {new : Table α} (h : (keys new).Nodup) (old : Table α) (key : Text) :
    get? key (putAll new old) = (get? key new).or (get? key old) := by
  induction new generalizing old with
  | nil => simp [putAll]
  | cons entry new ih =>
    obtain ⟨k, v⟩ := entry
    obtain ⟨hk, hnew⟩ := List.nodup_cons.mp h
    have hstep := ih hnew (put k v old)
    rw [putAll, List.foldl_cons, ← putAll, hstep, get?_cons, get?_put]
    split
    · subst k
      rw [get?_eq_none.mpr hk]
      rfl
    · rfl

theorem get?_filter (keep : Text → Bool) (table : Table α) (key : Text) :
    get? key (table.filter fun entry => keep entry.1) =
      if keep key then get? key table else none := by
  induction table with
  | nil => simp
  | cons entry rest ih =>
    obtain ⟨k, v⟩ := entry
    by_cases hk : k = key
    · subst hk
      by_cases hkeep : keep k = true
      · simp [hkeep, get?_cons]
      · simp only [hkeep, Bool.false_eq_true, not_false_eq_true, List.filter_cons_of_neg,
          ih, if_false]
    · by_cases hkeep : keep k = true
      · simp [hkeep, get?_cons, hk, ih]
      · simp [hkeep, get?_cons, hk, ih]

theorem keys_put (key : Text) (value : α) (table : Table α) :
    keys (put key value table) = if key ∈ keys table then keys table else keys table ++ [key] := by
  induction table with
  | nil => rfl
  | cons entry rest ih =>
    obtain ⟨k, v⟩ := entry
    rw [put]
    split
    · subst k
      simp [keys]
    · rename_i hne
      rw [keys, List.map_cons, ← keys, ih]
      by_cases hmem : key ∈ keys rest <;> simp_all [keys, Ne.symm hne]

theorem nodup_keys_put {table : Table α} (h : (keys table).Nodup) (key : Text) (value : α) :
    (keys (put key value table)).Nodup := by
  rw [keys_put]
  split
  · exact h
  · rename_i hnew
    exact List.nodup_append.mpr ⟨h, List.nodup_singleton key, by
      rintro k hk _ hkey rfl
      exact hnew (List.mem_singleton.mp hkey ▸ hk)⟩

/-- An entry of the new table is an old one or has the value that was put. -/
theorem mem_put {table : Table α} {key : Text} {value : α} {entry : Text × α}
    (h : entry ∈ put key value table) : entry.2 = value ∨ entry ∈ table := by
  induction table with
  | nil => exact Or.inl (List.mem_singleton.mp h ▸ rfl)
  | cons first rest ih =>
    obtain ⟨k, v⟩ := first
    rw [put] at h
    split at h
    · rcases List.mem_cons.mp h with rfl | h
      · exact Or.inl rfl
      · exact Or.inr (List.mem_cons_of_mem _ h)
    · rcases List.mem_cons.mp h with rfl | h
      · exact Or.inr List.mem_cons_self
      · exact (ih h).imp id (List.mem_cons_of_mem _)

/-- Pairs put one after the other leave a table with distinct keys and their values. -/
theorem ofPairs_spec (pairs : Table α) :
    (keys (ofPairs pairs)).Nodup ∧
      ∀ entry ∈ ofPairs pairs, ∃ pair ∈ pairs, entry.2 = pair.2 := by
  -- the table that has been put together so far
  have hgo : ∀ (rest done : Table α), (keys done).Nodup →
      (keys (putAll rest done)).Nodup ∧
        ∀ entry ∈ putAll rest done, entry ∈ done ∨ ∃ pair ∈ rest, entry.2 = pair.2 := by
    intro rest
    induction rest with
    | nil => exact fun done hdone => ⟨hdone, fun entry hentry => Or.inl hentry⟩
    | cons pair rest ih =>
      intro done hdone
      obtain ⟨hnodup, hentries⟩ := ih (put pair.1 pair.2 done) (nodup_keys_put hdone _ _)
      refine ⟨hnodup, fun entry hentry => ?_⟩
      rcases hentries entry hentry with hput | ⟨p, hp, hvalue⟩
      · rcases mem_put hput with hvalue | hold
        · exact Or.inr ⟨pair, List.mem_cons_self, hvalue⟩
        · exact Or.inl hold
      · exact Or.inr ⟨p, List.mem_cons_of_mem _ hp, hvalue⟩
  obtain ⟨hnodup, hentries⟩ := hgo pairs [] List.nodup_nil
  exact ⟨hnodup, fun entry hentry => (hentries entry hentry).resolve_left List.not_mem_nil⟩

end CatchAll.Table
