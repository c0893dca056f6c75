import CatchAll.Text.Basic

/-!
# Lists of variants in generated code

Generated code lists the variants of an enum in several places, in other words each
time. What is read from any of them is a list of arms.
-/

set_option autoImplicit false

namespace CatchAll.Target

/-- One entry of a list of variants: a variant without content, the catch-all, the arm
for a placeholder, or the arm for everything else. -/
inductive Arm where
  | variant (name : Text)
  | catchAll
  | guard (placeholder : Text)
  | default
  deriving DecidableEq

/-! ## Places in a text -/

/-- What follows the first line of a kind. -/
def afterFirst (line : Text) : List Text → Option (List Text)
  | [] => none
  | l :: rest => if l = line then some rest else afterFirst line rest

/-- What stands before the last line of a kind, and what follows it. -/
def cutAtLast (line : Text) : List Text → Option (List Text × List Text)
  | [] => none
  | l :: rest =>
    match cutAtLast line rest with
    | some (before, below) => some (l :: before, below)
    | none => if l = line then some ([], rest) else none

variable {line : Text} {before rest : List Text}

theorem afterFirst_append (h : line ∉ before) :
    afterFirst line (before ++ line :: rest) = some rest := by
  induction before with
  | nil => exact if_pos rfl
  | cons l before ih =>
    rw [List.cons_append, afterFirst, if_neg (List.ne_of_not_mem_cons h).symm,
      ih (List.not_mem_of_not_mem_cons h)]

theorem cutAtLast_eq_none (h : line ∉ rest) : cutAtLast line rest = none := by
  induction rest with
  | nil => rfl
  | cons l rest ih =>
    rw [cutAtLast, ih (List.not_mem_of_not_mem_cons h)]
    exact if_neg (List.ne_of_not_mem_cons h).symm

theorem cutAtLast_append (h : line ∉ rest) :
    cutAtLast line (before ++ line :: rest) = some (before, rest) := by
  induction before with
  | nil =>
    rw [List.nil_append, cutAtLast, cutAtLast_eq_none h]
    exact if_pos rfl
  | cons l before ih => rw [List.cons_append, cutAtLast, ih]

theorem takeWhile_upTo {α : Type} {p : α → Bool} {inside rest : List α}
    (hinside : ∀ a ∈ inside, p a = true) (hrest : ∀ a, rest.head? = some a → p a = false) :
    (inside ++ rest).takeWhile p = inside := by
  have hstop : rest.takeWhile p = [] := by
    cases rest with
    | nil => rfl
    | cons a rest => exact List.takeWhile_cons_of_neg (by rw [hrest a rfl]; exact Bool.false_ne_true)
  rw [List.takeWhile_append_of_pos hinside, hstop, List.append_nil]

section

variable {α : Type} [DecidableEq α] {x : α} {inside : List α}

/-- What stands before the first of some items. -/
theorem takeWhile_ne (h : x ∉ inside) (rest : List α) :
    (inside ++ x :: rest).takeWhile (· ≠ x) = inside := by
  refine takeWhile_upTo (fun a ha => decide_eq_true fun heq => h (heq ▸ ha)) fun a ha => ?_
  obtain rfl : x = a := Option.some.inj ha
  exact decide_eq_false (not_not_intro rfl)

theorem dropWhile_ne (h : x ∉ inside) (rest : List α) :
    (inside ++ x :: rest).dropWhile (· ≠ x) = x :: rest := by
  have hinside : ∀ a ∈ inside, decide (a ≠ x) = true :=
    fun a ha => decide_eq_true fun heq => h (heq ▸ ha)
  rw [List.dropWhile_append_of_pos hinside]
  exact List.dropWhile_cons_of_neg (by simp)

end

/-- What is written for each of some items is read back. -/
theorem mapM_map_of_forall {α β γ : Type} {read : β → Option γ} {write : α → β} {result : α → γ}
    {items : List α} (h : ∀ a ∈ items, read (write a) = some (result a)) :
    (items.map write).mapM read = some (items.map result) := by
  induction items with
  | nil => rfl
  | cons a items ih =>
    obtain ⟨ha, hitems⟩ := List.forall_mem_cons.mp h
    rw [List.map_cons, List.mapM_cons, ha, ih hitems]
    rfl

end CatchAll.Target
