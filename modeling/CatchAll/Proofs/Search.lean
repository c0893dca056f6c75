import CatchAll.Text.Basic

/-!
# Searches that end

A search tries a text. As long as the text is not free it makes another one from a
counter, and the counter goes up by one each time. The search has no bound of its own:
it ends if some text of the sequence is free, and then with the first one.
-/

set_option autoImplicit false

namespace CatchAll

/-- The search that tries a text next and has a counter for the text after it ends with
`found` after so many trials. -/
inductive Search (free : Text → Prop) (make : Nat → Text) : Text → Nat → Nat → Text → Prop
  | here {t : Text} {counter : Nat} : free t → Search free make t counter 1 t
  | later {t : Text} {counter trials : Nat} {found : Text} :
      ¬ free t → Search free make (make counter) (counter + 1) trials found →
      Search free make t counter (trials + 1) found

variable {free : Text → Prop} {make : Nat → Text}

/-- The first free text of the sequence ends the search. -/
theorem search_of_first (tried : Nat → Text) {counter n : Nat}
    (hmake : ∀ k, make (counter + k) = tried (k + 1)) (hfree : free (tried n))
    (hless : ∀ k < n, ¬ free (tried k)) : Search free make (tried 0) counter (n + 1) (tried n) := by
  induction n generalizing tried counter with
  | zero => exact .here hfree
  | succ n ih =>
    refine .later (hless 0 (Nat.succ_pos n)) ?_
    have hnext : make counter = tried 1 := hmake 0
    rw [hnext]
    refine ih (fun k => tried (k + 1)) (fun k => ?_) hfree fun k hk => ?_
    · rw [Nat.add_right_comm, Nat.add_assoc]
      exact hmake (k + 1)
    · exact hless (k + 1) (Nat.succ_lt_succ hk)

/-- A search ends in one way at most. -/
theorem Search.unique {t found found' : Text} {counter trials trials' : Nat}
    (h : Search free make t counter trials found) (h' : Search free make t counter trials' found') :
    trials = trials' ∧ found = found' := by
  induction h generalizing trials' with
  | here hfree =>
    cases h' with
    | here => exact ⟨rfl, rfl⟩
    | later htaken => exact absurd hfree htaken
  | later htaken _ ih =>
    cases h' with
    | here hfree => exact absurd hfree htaken
    | later _ hrest =>
      obtain ⟨rfl, rfl⟩ := ih hrest
      exact ⟨rfl, rfl⟩

/-- The first free text is what the search ends with, and it ends in no other way. -/
theorem search_iff_of_first {tried : Nat → Text} {counter n : Nat}
    (hmake : ∀ k, make (counter + k) = tried (k + 1)) (hfree : free (tried n))
    (hless : ∀ k < n, ¬ free (tried k)) (trials : Nat) (found : Text) :
    Search free make (tried 0) counter trials found ↔ trials = n + 1 ∧ found = tried n := by
  have hends := search_of_first tried hmake hfree hless
  constructor
  · exact fun h => h.unique hends
  · rintro ⟨rfl, rfl⟩
    exact hends

end CatchAll
