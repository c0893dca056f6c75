import CatchAll.Naming.Sanitizer
import CatchAll.Proofs.Naming.Identifier
import Mathlib.Data.List.Nodup
import Mathlib.Data.List.Perm.Subperm

/-!
# Names that are new

The candidates for a name are pairwise different, so one of the first few is not
used. A word of a vocabulary that ends in a letter is never met by a candidate
that ends in an underscore or a digit; this is what keeps names away from the
words of a language.
-/

set_option autoImplicit false

namespace CatchAll.Naming

open scoped Text

theorem ofNat_injective : Function.Injective Text.ofNat := by
  intro m n h
  have hm := Nat.ofDigitChars_ten_toDigits (n := m)
  have hn := Nat.ofDigitChars_ten_toDigits (n := n)
  rw [Text.ofNat, Text.ofNat] at h
  rw [← hm, ← hn, h]

theorem ofNat_chars (n : Nat) : ∀ c ∈ Text.ofNat n, c.isDigit = true :=
  fun _ hc => Nat.isDigit_of_mem_toDigits (by decide) (by decide) hc

namespace Sanitizer

theorem candidate_succ (base suffix : Text) (n : Nat) :
    candidate base suffix (n + 1) =
      base ++ ((if suffix = "_" then suffix else []) ++ Text.ofNat (n + 1)) := by
  rw [candidate, List.append_assoc]

theorem candidate_injective (base suffix : Text) :
    Function.Injective (candidate base suffix) := by
  have hlonger : ∀ n, candidate base suffix (n + 1) ≠ base := by
    intro n h
    rw [candidate_succ, List.append_right_eq_self] at h
    exact Nat.toDigits_ne_nil (List.append_eq_nil_iff.mp h).2
  intro m n h
  cases m with
  | zero =>
    cases n with
    | zero => rfl
    | succ n => exact absurd h.symm (hlonger n)
  | succ m =>
    cases n with
    | zero => exact absurd h (hlonger m)
    | succ n =>
      rw [candidate_succ, candidate_succ] at h
      exact ofNat_injective (List.append_cancel_left (List.append_cancel_left h))

/-- More candidates than used names cannot all be used. -/
theorem exists_unused_candidate (used : List Text) (base suffix : Text) :
    ∃ n < used.length + 1, candidate base suffix n ∉ used := by
  by_contra hall
  push Not at hall
  have hnodup : ((List.range (used.length + 1)).map (candidate base suffix)).Nodup :=
    List.nodup_range.map (candidate_injective base suffix)
  have hsubset : (List.range (used.length + 1)).map (candidate base suffix) ⊆ used := by
    intro t ht
    obtain ⟨n, hn, rfl⟩ := List.mem_map.mp ht
    exact hall n (List.mem_range.mp hn)
  have hlength := (List.subperm_of_subset hnodup hsubset).length_le
  rw [List.length_map, List.length_range] at hlength
  omega

/-- The fresh name is the first candidate that is not used. -/
theorem fresh_spec (used : List Text) (base suffix : Text) :
    ∃ n, fresh used base suffix = candidate base suffix n ∧ candidate base suffix n ∉ used ∧
      ∀ k < n, candidate base suffix k ∈ used := by
  obtain ⟨m, hm, hfree⟩ := exists_unused_candidate used base suffix
  cases hfind : (List.range (used.length + 1)).find?
      (fun n => decide (candidate base suffix n ∉ used)) with
  | none =>
    rw [List.find?_range_eq_none] at hfind
    have hused := hfind m hm
    simp [hfree] at hused
  | some n =>
    have hfresh : fresh used base suffix = candidate base suffix n := by rw [fresh, hfind]
    obtain ⟨hn, -, hless⟩ := List.find?_range_eq_some.mp hfind
    refine ⟨n, hfresh, by simpa using hn, fun k hk => ?_⟩
    simpa using hless k hk

theorem fresh_eq {used : List Text} {base suffix : Text} {n : Nat}
    (hfree : candidate base suffix n ∉ used) (hless : ∀ k < n, candidate base suffix k ∈ used) :
    fresh used base suffix = candidate base suffix n := by
  obtain ⟨m, hm, hfree', hless'⟩ := fresh_spec used base suffix
  obtain rfl : m = n := by
    rcases Nat.lt_trichotomy m n with hlt | rfl | hlt
    · exact absurd (hless m hlt) hfree'
    · rfl
    · exact absurd (hless' n hlt) hfree
  exact hm

/-- A base that is not used is the fresh name itself. -/
theorem fresh_of_not_mem {used : List Text} {base : Text} (h : base ∉ used) (suffix : Text) :
    fresh used base suffix = base :=
  fresh_eq (n := 0) h fun _ hk => absurd hk (Nat.not_lt_zero _)

theorem fresh_not_mem (used : List Text) (base suffix : Text) :
    fresh used base suffix ∉ used := by
  obtain ⟨n, hn, hfree, -⟩ := fresh_spec used base suffix
  rwa [hn]

theorem isName_candidate {base : Text} (h : IsName base) (n : Nat) :
    IsName (candidate base "_" n) := by
  cases n with
  | zero => exact h
  | succ n =>
    rw [candidate_succ]
    apply h.append
    intro c hc
    rcases List.mem_append.mp hc with hc | hc
    · have hmark : c = '_' := by simpa using hc
      subst hmark
      rfl
    · exact isNameChar_of_isDigit (ofNat_chars _ c hc)

end Sanitizer

/-! ## The words of a vocabulary -/

/-- Every word ends in a letter. -/
def Vocabulary.EndsInLetters (v : Vocabulary) : Prop :=
  ∀ w ∈ v.reserved ++ v.builtins, w.getLast?.all Char.isAlpha = true

instance (v : Vocabulary) : Decidable v.EndsInLetters :=
  inferInstanceAs (Decidable (∀ w ∈ v.reserved ++ v.builtins, _))

/-- The characters that stand at the end of a text which conflicts changed. -/
def isMark (c : Char) : Bool := c == '_' || c.isDigit

theorem isMark_toLower {c : Char} (h : isMark c = true) :
    c.isAlpha = false ∧ c.toLower = c := by
  simp only [isMark, Bool.or_eq_true, beq_iff_eq] at h
  rcases h with rfl | h
  · decide
  · exact forall_isAlphanum (P := fun c => c.isDigit = true → c.isAlpha = false ∧ c.toLower = c)
      (by decide) c (isAlphanum_of_isDigit h) h

theorem claims_of_getLast {v : Vocabulary} (hv : v.EndsInLetters) {t : Text} {c : Char}
    (hlast : t.getLast? = some c) (hc : isMark c = true) : v.claims t = false := by
  obtain ⟨hletter, hlower⟩ := isMark_toLower hc
  have hreserved : t ∉ v.reserved := by
    intro hmem
    have hend := hv t (List.mem_append_left _ hmem)
    simp [hlast, hletter] at hend
  have hbuiltin : t.map Char.toLower ∉ v.builtins := by
    intro hmem
    have hend := hv _ (List.mem_append_right _ hmem)
    simp [hlast, hlower, hletter] at hend
  simp [Vocabulary.claims, hreserved, hbuiltin]

namespace Sanitizer

theorem claims_avoid {s : Sanitizer} (hv : s.vocabulary.EndsInLetters) (t : Text) :
    s.vocabulary.claims (s.avoid "_" t) = false := by
  rw [avoid]
  split
  · exact claims_of_getLast hv List.getLast?_concat rfl
  · simpa using ‹¬ s.vocabulary.claims t = true›

theorem claims_candidate {v : Vocabulary} (hv : v.EndsInLetters) {base : Text}
    (h : v.claims base = false) (n : Nat) : v.claims (candidate base "_" n) = false := by
  cases n with
  | zero => exact h
  | succ n =>
    obtain ⟨c, hc⟩ := List.getLast?_isSome.mpr (Nat.toDigits_ne_nil (n := n + 1) (b := 10)) |>
      Option.isSome_iff_exists.mp
    apply claims_of_getLast hv (c := c)
    · rw [candidate_succ, ← List.append_assoc, List.getLast?_append, Text.ofNat, hc]
      rfl
    · simp [isMark, ofNat_chars _ c (List.mem_of_getLast? hc)]

theorem isName_avoid {s : Sanitizer} {t : Text} (h : IsName t) : IsName (s.avoid "_" t) := by
  rw [avoid]
  split
  · apply h.append
    intro c hc
    have hmark : c = '_' := by simpa using hc
    subst hmark
    rfl
  · exact h

end Sanitizer

end CatchAll.Naming
