import CatchAll.Proofs.Search
import CatchAll.Proofs.Target.Placeholder
import CatchAll.Target.PythonPolicy

/-!
# The search for a placeholder ends

The placeholder is chosen among a number of candidates that grows with the members.
A search without such a bound comes to the same text: the candidates before it are all
claimed by a member, by themselves or by the variant they would become, and a member
claims four candidates at most.
-/

set_option autoImplicit false

namespace CatchAll.Target

open scoped Text
open Schema Naming

/-- A text that a member has as its value or as its identifier. -/
def Bears (m : Member) (t : Text) : Prop := t = m.value ∨ (t ≠ [] ∧ m.identifier = some t)

/-- No member has the text, nor the name of the variant that the text would become. -/
def Unclaimed (members : List Member) (variant : Option (Text → Text)) (t : Text) : Prop :=
  ∀ m ∈ members, ¬ Bears m t ∧ ∀ f, variant = some f → ¬ Bears m (f t)

variable {members : List Member} {variant : Option (Text → Text)} {t : Text}

theorem mem_taken_iff_bears : t ∈ taken members ↔ ∃ m ∈ members, Bears m t := by
  have hone (m : Member) : m.variant? = some t ↔ t ≠ [] ∧ m.identifier = some t := by
    rw [Member.variant?, Option.filter_eq_some_iff, decide_eq_true_eq, and_comm]
  simp only [mem_taken, hone, Bears]

theorem isFree_iff_unclaimed :
    isFree (taken members) variant t = true ↔ Unclaimed members variant t := by
  cases variant with
  | none => simp [isFree, Unclaimed, mem_taken_iff_bears]
  | some f => simp [isFree, Unclaimed, mem_taken_iff_bears, forall_and]

/-- What candidates become when the variants of a case are looked at. -/
def variantIn (case? : Option Case) : Option (Text → Text) := case?.map Python.futureVariant

theorem separates_variantIn (base : Text) (case? : Option Case) :
    Separates base (variantIn case?) := by
  cases case? with
  | none => exact fun f hf => by cases hf
  | some case => exact separates_nameOf Python.memberVocabulary case base

/-- Whether variants are looked at or not, the search that goes through the base and the base
with 2, 3 and so on behind it ends after four candidates for each member and one more at the
latest. It ends with the placeholder, which is the first candidate that no member claims. -/
theorem placeholder_search_ends (members : List Member) (base : Text) (case? : Option Case) :
    ∃ n ≤ 4 * members.length,
      (∀ trials found,
        Search (Unclaimed members (variantIn case?)) (base ++ Text.ofNat ·) base 2 trials found ↔
          trials = n + 1 ∧ found = choosePlaceholder members base (variantIn case?)) ∧
      choosePlaceholder members base (variantIn case?) = placeholderAt base n ∧
      Unclaimed members (variantIn case?) (placeholderAt base n) ∧
      ∀ k < n, ¬ Unclaimed members (variantIn case?) (placeholderAt base k) := by
  obtain ⟨n, hn, hchosen, hfree, hless⟩ :=
    choosePlaceholder_spec (separates_variantIn base case?) members
  have hfirst : Unclaimed members (variantIn case?) (placeholderAt base n) :=
    isFree_iff_unclaimed.mp hfree
  have hclaimed : ∀ k < n, ¬ Unclaimed members (variantIn case?) (placeholderAt base k) := by
    intro k hk hunclaimed
    rw [← isFree_iff_unclaimed, hless k hk] at hunclaimed
    cases hunclaimed
  have hmake (k : Nat) : base ++ Text.ofNat (2 + k) = placeholderAt base (k + 1) := by
    rw [Nat.add_comm, placeholderAt]
  refine ⟨n, Nat.le_of_lt_succ hn, fun trials found => ?_, hchosen, hfirst, hclaimed⟩
  rw [hchosen]
  exact search_iff_of_first hmake hfirst hclaimed trials found

end CatchAll.Target
