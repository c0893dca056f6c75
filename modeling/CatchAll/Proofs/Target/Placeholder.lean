import CatchAll.Proofs.Naming.MemberNames
import CatchAll.Target.Emission
import CatchAll.Target.Placeholder
import Mathlib.Data.List.Count

/-!
# The search for a placeholder

Candidates differ in the number after the base, and so do the names they become,
since conversion keeps letters and digits. A taken text therefore rules out one
candidate by itself and one by its variant, and each member takes two texts at
most. So the search ends before its bound.
-/

set_option autoImplicit false

namespace CatchAll.Naming

open scoped Text
open Sanitizer

/-! ## Names of a new sanitizer -/

theorem derive_ofVocabulary (v : Vocabulary) (t : Text) (case : Case) :
    (ofVocabulary v).derive t case "_" =
      { ofVocabulary v with known := [(key t case, identifier case t)] }.claim? "_"
        (identifier case t) := rfl

/-- A new sanitizer has no conflict but with the words of the language. -/
theorem nameOf_eq (v : Vocabulary) (t : Text) (case : Case) :
    v.nameOf t case = (ofVocabulary v).avoid "_"
      (if identifier case t = [] then fallback case else identifier case t) := by
  rw [Vocabulary.nameOf, sanitize, derive_ofVocabulary, claim?]
  by_cases hempty : identifier case t = []
  · rw [if_pos hempty, if_pos hempty]
    exact fresh_of_not_mem List.not_mem_nil "_"
  · rw [if_neg hempty, if_neg hempty]
    exact fresh_of_not_mem List.not_mem_nil "_"

theorem letters_avoid (s : Sanitizer) (t : Text) : letters (s.avoid "_" t) = letters t := by
  have hmark : letters "_" = [] := by decide
  rw [avoid]
  split
  · rw [letters_append, hmark, List.append_nil]
  · rfl

theorem letters_nameOf (v : Vocabulary) (t : Text) (case : Case) :
    letters (v.nameOf t case) = if letters t = [] then "value".toList else letters t := by
  have hempty : identifier case t = [] ↔ letters t = [] := by
    rw [identifier_eq_nil, letters_eq_nil]
  rw [nameOf_eq, letters_avoid, apply_ite letters, letters_identifier, if_congr hempty ?_ rfl]
  cases case <;> decide

theorem letters_of_digits {t : Text} (h : ∀ c ∈ t, c.isDigit = true) : letters t = t := by
  apply letters_of_word
  intro c hc
  exact ⟨isAlphanum_of_isDigit (h c hc), toLower_of_isDigit (h c hc)⟩

end CatchAll.Naming

namespace CatchAll.Target

open scoped Text
open Schema Naming

/-! ## Candidates -/

/-- What a candidate has after the base. -/
def counter : Nat → Text
  | 0 => []
  | n + 1 => Text.ofNat (n + 2)

theorem placeholderAt_eq (base : Text) (n : Nat) : placeholderAt base n = base ++ counter n := by
  cases n with
  | zero => exact (List.append_nil base).symm
  | succ n => rfl

theorem counter_injective : Function.Injective counter := by
  have hsome (n : Nat) : counter (n + 1) ≠ [] := Nat.toDigits_ne_nil
  intro m n h
  cases m with
  | zero =>
    cases n with
    | zero => rfl
    | succ n => exact absurd h.symm (hsome n)
  | succ m =>
    cases n with
    | zero => exact absurd h (hsome m)
    | succ n => exact Nat.succ.inj (ofNat_injective h)

theorem counter_digits (n : Nat) : ∀ c ∈ counter n, c.isDigit = true := by
  cases n with
  | zero => simp [counter]
  | succ n => exact ofNat_chars (n + 2)

theorem placeholderAt_injective (base : Text) : Function.Injective (placeholderAt base) := by
  intro m n h
  rw [placeholderAt_eq, placeholderAt_eq] at h
  exact counter_injective (List.append_cancel_left h)

theorem letters_placeholderAt (base : Text) (n : Nat) :
    letters (placeholderAt base n) = letters base ++ counter n := by
  rw [placeholderAt_eq, letters_append, letters_of_digits (counter_digits n)]

/-- Candidates with different numbers become different names, also when the base has no
letters and the first of them falls back on another text. -/
theorem nameOf_placeholderAt_injective (v : Vocabulary) (case : Case) (base : Text) :
    Function.Injective fun n => v.nameOf (placeholderAt base n) case := by
  -- no number is written like the text to fall back on
  have hvalue (n : Nat) : counter n ≠ "value".toList := by
    intro h
    have hdigit := counter_digits n 'v' (by rw [h]; decide)
    exact absurd hdigit (by decide)
  intro m n h
  have hletters := congrArg letters h
  simp only [letters_nameOf, letters_placeholderAt] at hletters
  by_cases hbase : letters base = []
  · rw [hbase, List.nil_append, List.nil_append] at hletters
    apply counter_injective
    split at hletters <;> split at hletters
    · exact ‹counter m = []›.trans ‹counter n = []›.symm
    · exact absurd hletters.symm (hvalue n)
    · exact absurd hletters (hvalue m)
    · exact hletters
  · rw [if_neg (by simp [hbase]), if_neg (by simp [hbase])] at hletters
    exact counter_injective (List.append_cancel_left hletters)

/-! ## The name of a new feature -/

/-- The letters that every candidate begins with. -/
def featureLetters : Text := letters placeholderBase

theorem featureLetters_prefix (case : Case) (n : Nat) :
    featureLetters <+: letters (identifier case (placeholderAt placeholderBase n)) := by
  rw [letters_identifier, letters_placeholderAt]
  exact List.prefix_append _ _

theorem identifier_feature_ne_nil (case : Case) (n : Nat) :
    identifier case (placeholderAt placeholderBase n) ≠ [] := by
  intro hempty
  have hfeature := featureLetters_prefix case n
  rw [hempty] at hfeature
  exact absurd hfeature (by decide)

theorem prefix_of_collidesWith {reserved candidate : Text}
    (h : collidesWith reserved candidate = true) : reserved <+: candidate := by
  rw [collidesWith, Bool.or_eq_true, Bool.and_eq_true, beq_iff_eq,
    List.isPrefixOf_iff_prefix] at h
  rcases h with rfl | ⟨hstart, -⟩
  · exact List.prefix_rfl
  · exact (List.prefix_append _ _).trans hstart

theorem collides_feature {v : Text} (h : featureLetters <+: letters v) :
    collides [catchAllName] v = false := by
  rw [Bool.eq_false_iff]
  intro hmeets
  obtain ⟨name, hname, hmeets⟩ := List.any_eq_true.mp hmeets
  obtain rfl : name = catchAllName := List.mem_singleton.mp hname
  obtain ⟨rest, rfl⟩ := prefix_of_collidesWith hmeets
  -- the letters of the catch-all are fewer and are not those a feature begins with
  rw [letters_append] at h
  have hboth := List.prefix_of_prefix_length_le (List.prefix_append (letters catchAllName) _) h
    (by decide)
  exact absurd hboth (by decide)

theorem placeholderAt_chars (n : Nat) :
    ∀ x ∈ placeholderAt placeholderBase n, x.isAlphanum = true := by
  rw [placeholderAt_eq, List.forall_mem_append]
  refine ⟨List.all_eq_true.mp rfl, fun x hx => ?_⟩
  exact isAlphanum_of_isDigit (counter_digits n x hx)

/-- A placeholder is a word, whatever was taken. -/
theorem choosePlaceholder_chars (members : List Member) (variant : Option (Text → Text)) :
    ∀ x ∈ choosePlaceholder members placeholderBase variant, x.isAlphanum = true := by
  rw [choosePlaceholder]
  split
  · exact placeholderAt_chars _
  · exact placeholderAt_chars 0

/-! ## The search -/

theorem length_taken (members : List Member) : (taken members).length ≤ 2 * members.length := by
  induction members with
  | nil => exact Nat.le_refl 0
  | cons m members ih =>
    have hone : (m.value :: m.variant?.toList).length ≤ 2 := by
      cases m.variant? <;> simp
    have hsplit : taken (m :: members) = (m.value :: m.variant?.toList) ++ taken members := rfl
    simp only [hsplit, List.length_append, List.length_cons] at hone ⊢
    omega

theorem mem_taken {members : List Member} {t : Text} :
    t ∈ taken members ↔ ∃ m ∈ members, t = m.value ∨ m.variant? = some t := by
  simp only [taken, List.mem_flatMap, List.mem_cons, Option.mem_toList]

/-- Texts that are pairwise different meet a list no more often than it is long. -/
theorem countP_range_le {f : Nat → Text} (hf : Function.Injective f) (all : List Text)
    (bound : Nat) : (List.range bound).countP (fun n => decide (f n ∈ all)) ≤ all.length := by
  have hnodup : (((List.range bound).filter fun n => decide (f n ∈ all)).map f).Nodup :=
    (List.nodup_range.filter _).map hf
  have hsubset : ((List.range bound).filter fun n => decide (f n ∈ all)).map f ⊆ all := by
    intro t ht
    obtain ⟨n, hn, rfl⟩ := List.mem_map.mp ht
    simpa using (List.mem_filter.mp hn).2
  have hlength := (List.subperm_of_subset hnodup hsubset).length_le
  rwa [List.length_map, ← List.countP_eq_length_filter] at hlength

/-- Candidates that become different names. -/
def Separates (base : Text) (variant : Option (Text → Text)) : Prop :=
  ∀ f, variant = some f → Function.Injective fun n => f (placeholderAt base n)

theorem separates_nameOf (v : Vocabulary) (case : Case) (base : Text) :
    Separates base (some (v.nameOf · case)) := by
  intro f hf
  obtain rfl := Option.some.inj hf
  exact nameOf_placeholderAt_injective v case base

variable {base : Text} {variant : Option (Text → Text)}

/-- What rules a candidate out: it is taken, or its variant is. -/
theorem isFree_eq_false {all : List Text} {candidate : Text} :
    isFree all variant candidate = false ↔
      candidate ∈ all ∨ variant.any (fun f => decide (f candidate ∈ all)) = true := by
  cases variant with
  | none => simp [isFree]
  | some f => simp [isFree, Classical.or_iff_not_imp_left]

theorem length_le_countP_add_countP {α : Type} {p q : α → Bool} {l : List α}
    (h : ∀ a ∈ l, p a = true ∨ q a = true) : l.length ≤ l.countP p + l.countP q := by
  have hothers : l.countP (fun a => decide ¬p a = true) ≤ l.countP q := by
    apply List.countP_mono_left
    intro a ha hp
    exact (h a ha).resolve_left (by simpa using hp)
  rw [List.length_eq_countP_add_countP p]
  omega

theorem exists_free_candidate (hvariant : Separates base variant) (members : List Member) :
    ∃ n < 4 * members.length + 1, isFree (taken members) variant (placeholderAt base n) = true := by
  by_contra hall
  push Not at hall
  have htaken := length_taken members
  have hthemselves := countP_range_le (placeholderAt_injective base) (taken members)
    (4 * members.length + 1)
  have hvariants : (List.range (4 * members.length + 1)).countP (fun n =>
      variant.any fun f => decide (f (placeholderAt base n) ∈ taken members)) ≤
        (taken members).length := by
    cases variant with
    | none => simp
    | some f => exact countP_range_le (hvariant f rfl) (taken members) _
  have hblocked := length_le_countP_add_countP (l := List.range (4 * members.length + 1))
    (p := fun n => decide (placeholderAt base n ∈ taken members))
    (q := fun n => variant.any fun f => decide (f (placeholderAt base n) ∈ taken members))
    (fun n hn => by
      have hfree := hall n (List.mem_range.mp hn)
      simpa using isFree_eq_false.mp (by simpa using hfree))
  rw [List.length_range] at hblocked
  omega

/-- The placeholder is the first candidate that is free. -/
theorem choosePlaceholder_spec (hvariant : Separates base variant) (members : List Member) :
    ∃ n < 4 * members.length + 1,
      choosePlaceholder members base variant = placeholderAt base n ∧
      isFree (taken members) variant (placeholderAt base n) = true ∧
      ∀ k < n, isFree (taken members) variant (placeholderAt base k) = false := by
  obtain ⟨m, hm, hfree⟩ := exists_free_candidate hvariant members
  cases hfind : (List.range (4 * members.length + 1)).find?
      (fun n => isFree (taken members) variant (placeholderAt base n)) with
  | none =>
    rw [List.find?_range_eq_none] at hfind
    have hblocked := hfind m hm
    simp [hfree] at hblocked
  | some n =>
    obtain ⟨hn, hmem, hless⟩ := List.find?_range_eq_some.mp hfind
    refine ⟨n, List.mem_range.mp hmem, ?_, hn, fun k hk => ?_⟩
    · rw [choosePlaceholder, hfind]
    · simpa using hless k hk

end CatchAll.Target
