import CatchAll.Proofs.Naming.Insertion
import CatchAll.Proofs.Naming.Spelling
import CatchAll.Proofs.Target.Placeholder

/-!
# Who gets a plain name

A plain name begins and ends with a letter and has no digit, so no guard, underscore
or counter made it. Such a name is handed out for a text that converts to it and for
no other text, and the words of that text are known. Among the members of an enum
the first one that converts to a plain name has it.
-/

set_option autoImplicit false

namespace CatchAll.Naming

open scoped Text
open Schema Sanitizer

/-! ## Names that conflicts leave alone -/

/-- A name that shows neither a guard in front nor a trace of a conflict at its end. -/
def IsPlain (name : Text) : Prop :=
  name.head?.any Char.isAlpha = true ∧ name.getLast?.any Char.isAlpha = true ∧
    ∀ c ∈ name, c.isDigit = false

instance (name : Text) : Decidable (IsPlain name) :=
  decidable_of_iff (name.head?.any Char.isAlpha && name.getLast?.any Char.isAlpha &&
    name.all fun c => !c.isDigit) (by simp [IsPlain, and_assoc])

theorem IsPlain.ne_nil {name : Text} (h : IsPlain name) : name ≠ [] := by
  rintro rfl
  cases h.1

theorem IsPlain.not_marked {name : Text} (h : IsPlain name) {c : Char}
    (hlast : name.getLast? = some c) : isMark c = false := by
  have hletter := h.2.1
  rw [hlast, Option.any_some] at hletter
  rw [Bool.eq_false_iff]
  intro hmark
  rw [(isMark_toLower hmark).1] at hletter
  cases hletter

theorem guardDigit_eq_iff {t name : Text} (h : IsPlain name) :
    guardDigit t = name ↔ t = name := by
  cases t with
  | nil => rfl
  | cons c t =>
    rw [guardDigit]
    split
    · rename_i hdigit
      -- a guard is no letter, and a digit is in no plain name
      refine iff_of_false ?_ ?_
      · rintro rfl
        have hletter : '_'.isAlpha = true := h.1
        exact absurd hletter (by decide)
      · rintro rfl
        rw [h.2.2 c List.mem_cons_self] at hdigit
        cases hdigit
    · rfl

/-- The texts that convert to a plain name are those with its words. -/
theorem identifier_eq_iff {case : Case} {t name : Text} (h : IsPlain name) :
    identifier case t = name ↔ words t = case.read name ∧ case.Writes name := by
  rw [identifier, guardDigit_eq_iff h, write_eq_iff (areWords_words t) h.2.2]

theorem avoid_eq_iff {s : Sanitizer} {t name : Text} (h : IsPlain name) :
    s.avoid "_" t = name ↔ t = name ∧ s.vocabulary.claims name = false := by
  rw [avoid]
  split
  · rename_i hclaims
    refine iff_of_false ?_ ?_
    · rintro rfl
      exact absurd (h.not_marked List.getLast?_concat) (by decide)
    · rintro ⟨rfl, hfree⟩
      rw [hclaims] at hfree
      cases hfree
  · rename_i hclaims
    constructor
    · rintro rfl
      exact ⟨rfl, by simpa using hclaims⟩
    · exact And.left

/-- A new sanitizer gives a plain name to the texts that convert to it, unless the language
lays claim to the name. -/
theorem nameOf_eq_iff {v : Vocabulary} {case : Case} {t name : Text} (h : IsPlain name)
    (hfallback : fallback case ≠ name) :
    v.nameOf t case = name ↔
      (words t = case.read name ∧ case.Writes name) ∧ v.claims name = false := by
  rw [nameOf_eq, avoid_eq_iff h, ← identifier_eq_iff h]
  refine and_congr_left fun _ => ?_
  split
  · rename_i hempty
    refine iff_of_false hfallback ?_
    rw [hempty]
    exact h.ne_nil.symm
  · rfl

/-! ## Where names come from -/

/-- Those of some names that the language leaves open and words of letters are written as,
each with its words. -/
def origins (case : Case) (v : Vocabulary) (names : List Text) : List (List Text × Text) :=
  (names.filter fun name => decide (case.Writes name) && !v.claims name).map fun name =>
    (case.read name, name)

theorem mem_origins {case : Case} {v : Vocabulary} {names : List Text} {ws : List Text}
    {name : Text} :
    (ws, name) ∈ origins case v names ↔
      name ∈ names ∧ (ws = case.read name ∧ case.Writes name) ∧ v.claims name = false := by
  simp only [origins, List.mem_map, List.mem_filter, Bool.and_eq_true, decide_eq_true_eq,
    Bool.not_eq_true', Prod.mk.injEq]
  constructor
  · rintro ⟨name, ⟨hmem, hwrites, hopen⟩, rfl, rfl⟩
    exact ⟨hmem, ⟨rfl, hwrites⟩, hopen⟩
  · rintro ⟨hmem, ⟨rfl, hwrites⟩, hopen⟩
    exact ⟨name, ⟨hmem, hwrites, hopen⟩, rfl, rfl⟩

/-! ## Members -/

variable {case : Case} {s s' : Sanitizer} {name : Option Text} {f : Text}

theorem eq_zero_of_isPlain_candidate {base : Text} {n : Nat} (h : IsPlain (candidate base "_" n)) :
    n = 0 := by
  cases n with
  | zero => rfl
  | succ n =>
    obtain ⟨c, hc⟩ := Option.isSome_iff_exists.mp
      (List.getLast?_isSome.mpr (Nat.toDigits_ne_nil (n := n + 1) (b := 10)))
    have hlast : (candidate base "_" (n + 1)).getLast? = some c := by
      rw [candidate_succ, ← List.append_assoc, List.getLast?_append, Text.ofNat, hc]
      rfl
    have hmark : isMark c = true := by simp [isMark, ofNat_chars _ c (List.mem_of_getLast? hc)]
    rw [h.not_marked hlast] at hmark
    cases hmark

/-- A plain name is handed out for itself, as long as it is open and not used. -/
theorem claim?_eq_some_iff (hf : IsPlain f) {t : Text} :
    (s.claim? "_" t).1 = some f ↔ (t = f ∧ s.vocabulary.claims f = false) ∧ f ∉ s.used := by
  rw [claim?]
  split
  · rename_i hempty
    refine iff_of_false (fun h => by cases h) ?_
    rintro ⟨⟨rfl, -⟩, -⟩
    exact hf.ne_nil hempty
  · show some (fresh s.used (s.avoid "_" t) "_") = some f ↔ _
    rw [Option.some.injEq, ← avoid_eq_iff hf]
    constructor
    · rintro rfl
      obtain ⟨n, hn, hfree, -⟩ := fresh_spec s.used (s.avoid "_" t) "_"
      rw [hn] at hf ⊢
      obtain rfl := eq_zero_of_isPlain_candidate hf
      exact ⟨rfl, hfree⟩
    · rintro ⟨hbase, hnew⟩
      rw [hbase]
      exact fresh_of_not_mem hnew "_"

/-- A name that neither the language, nor a reserved name, nor the word added in a collision
keeps from a member. -/
structure IsOpen (v : Vocabulary) (reserved : List Text) (f : Text) : Prop where
  plain : IsPlain f
  unclaimed : v.claims f = false
  apart : collides reserved f = false
  unsuffixed : ¬ "value".toList <:+ letters f

theorem IsOpen.ne_derived {v : Vocabulary} {reserved : List Text} (h : IsOpen v reserved f)
    (t : Text) : identifier case (t ++ "_value") ≠ f := by
  rintro rfl
  apply h.unsuffixed
  rw [letters_identifier, letters_append]
  exact List.suffix_append _ _

theorem memberIdentifier_eq_some_iff (hv : s.vocabulary.EndsInLetters) (hr : Remembers case s)
    {reserved : List Text} {m : Member} (hf : IsOpen s.vocabulary reserved f)
    (h : memberIdentifier reserved case s m = .ok (name, s')) :
    name = some f ↔ identifier case m.source.shown = f ∧ f ∉ s.used := by
  obtain ⟨⟨candidate, s₂⟩, hfirst, h⟩ := Outcome.bind_eq_ok.mp h
  have hcandidate : candidate = some f ↔ identifier case m.source.shown = f ∧ f ∉ s.used := by
    obtain ⟨s₁, hused, hvoc, -, hclaim⟩ := deriveFrom_claim hr hfirst
    have hiff := claim?_eq_some_iff (s := s₁) (t := identifier case m.source.shown) hf.plain
    rw [hclaim, hused, hvoc, hf.unclaimed] at hiff
    simpa using hiff
  dsimp only at h
  split at h
  · rename_i hmeets
    -- the second name ends in the added word, and the candidate met a reserved name
    have hr₂ := (deriveFrom_handed hv hr hfirst).1.remembers
    have hagain : s₂.deriveFrom (.str (m.source.shown ++ "_value")) case "_" = .ok (name, s') := h
    obtain ⟨s₃, -, -, -, hclaim⟩ := deriveFrom_claim hr₂ hagain
    refine iff_of_false ?_ ?_
    · intro hgot
      have hsecond := (claim?_eq_some_iff hf.plain).mp ((congrArg Prod.fst hclaim).trans hgot)
      exact hf.ne_derived _ hsecond.1.1
    · intro hgot
      rw [hcandidate.mpr hgot, Option.any_some, hf.apart] at hmeets
      cases hmeets
  · obtain ⟨rfl, -⟩ := Prod.mk.inj (Except.ok.inj h)
    exact hcandidate

/-- The first member that converts to the name gets it, so some member does. -/
theorem nameMembers_named_iff {reserved : List Text} {ms named : List Member}
    (hv : s.vocabulary.EndsInLetters) (hr : Remembers case s)
    (hf : IsOpen s.vocabulary reserved f) (hnew : f ∉ s.used)
    (h : nameMembers reserved case s ms = .ok named) :
    (∃ m ∈ named, m.identifier = some f) ↔ ∃ m ∈ ms, identifier case m.source.shown = f := by
  induction ms generalizing s named with
  | nil =>
    obtain rfl : [] = named := Except.ok.inj h
    exact iff_of_false (fun ⟨_, hm, _⟩ => absurd hm List.not_mem_nil)
      fun ⟨_, hm, _⟩ => absurd hm List.not_mem_nil
  | cons m ms ih =>
    obtain ⟨name, s₁, rest, hstep, hrest, rfl⟩ := nameMembers_cons_eq_ok.mp h
    have hname := memberIdentifier_eq_some_iff hv hr hf hstep
    rw [List.exists_mem_cons_iff, List.exists_mem_cons_iff]
    by_cases hfirst : identifier case m.source.shown = f
    · exact iff_of_true (Or.inl (hname.mpr ⟨hfirst, hnew⟩)) (Or.inl hfirst)
    · have hother : name ≠ some f := fun hgot => hfirst (hname.mp hgot).1
      have hnew₁ : f ∉ s₁.used := memberIdentifier_unused hv hr hstep hf.apart hnew hother
      obtain ⟨hhanded, -⟩ := memberIdentifier_handed hv hr hstep
      have hrun := ih (hhanded.vocabulary ▸ hv) hhanded.remembers (hhanded.vocabulary ▸ hf) hnew₁
        hrest
      exact or_congr (iff_of_false hother hfirst) hrun

/-- A member of an enum has an open name if and only if the text of some member has its words. -/
theorem deriveMembers_named_iff {reserved names : List Text} {members named : List Member}
    (hv : s.vocabulary.EndsInLetters) (hf : IsOpen s.vocabulary reserved f) (hmem : f ∈ names)
    (h : deriveMembers members s case reserved = .ok named) :
    (∃ m ∈ named, m.identifier = some f) ↔
      ∃ m ∈ members, (words m.source.shown, f) ∈ origins case s.vocabulary names := by
  have hstart := startWith_vocabulary s reserved
  have hnew : f ∉ (s.startWith reserved).used := by
    intro hmem
    have hmeets := collides_of_mem (mem_startWith.mp hmem)
    rw [hf.apart] at hmeets
    cases hmeets
  rw [nameMembers_named_iff (hstart ▸ hv) (remembers_startWith s reserved) (hstart ▸ hf) hnew h]
  simp only [(sortMembers_perm members).mem_iff, identifier_eq_iff hf.plain, mem_origins, hmem,
    hf.unclaimed, true_and, and_true]

end CatchAll.Naming
