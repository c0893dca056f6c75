import CatchAll.Proofs.Naming.Natural

/-!
# Names that meet a reserved one

A member whose natural name is reserved is named after its text with `_value` added, since
its first candidate has a conflict counter behind the reserved name. A counter of another
origin is not told apart from it: a natural name that is itself a reserved name with an
underscore and digits behind it is given up as well, although nothing is in conflict with
it. Apart from that a member gives up its natural name for a counter at most.
-/

set_option autoImplicit false

namespace CatchAll.Naming

open scoped Text
open Schema Sanitizer

variable {v : Vocabulary} {case : Case} {reserved used : List Text} {before : List Member}
  {t base again name : Text}

/-- The reserved names and the names of earlier members. -/
def held (reserved : List Text) (before : List Member) : List Text :=
  reserved ++ before.filterMap (·.identifier)

/-- The first name made from a base that is not held. Where the base is reserved some counters
are passed over, since candidates with a counter were given up before. -/
def TakenFrom (reserved : List Text) (before : List Member) (base name : Text) : Prop :=
  ∃ n, name = candidate base "_" n ∧ name ∉ held reserved before ∧
    ∀ k < n, candidate base "_" k ∈ held reserved before ∨ (0 < k ∧ base ∈ reserved)

/-- A name that is made from the natural name `base`, if that is not reserved, and from
`again` only if it is. -/
structure Earned (reserved : List Text) (before : List Member) (base again name : Text) :
    Prop where
  kept : base ∉ reserved → TakenFrom reserved before base name ∧
    ∀ n, name ≠ candidate again "_" n
  renamed : base ∈ reserved → TakenFrom reserved before again name

/-! ## Letters of a name -/

theorem letters_candidate (base : Text) (n : Nat) :
    ∃ digits : Text, (∀ c ∈ digits, c.isDigit = true) ∧
      letters (candidate base "_" n) = letters base ++ digits := by
  cases n with
  | zero => exact ⟨[], by simp, (List.append_nil _).symm⟩
  | succ n =>
    have hdigits := ofNat_chars (n + 1)
    refine ⟨Text.ofNat (n + 1), hdigits, ?_⟩
    have hmark : letters (if ("_" : Text) = "_" then "_" else []) = [] := by decide
    rw [candidate, letters_append, letters_append, letters_of_digits hdigits, hmark,
      List.append_nil]

theorem letters_again (h : v.natural case (t ++ "_value") = some again) :
    letters again = letters t ++ "value" := by
  rw [letters_natural h, letters_append]
  rfl

/-- The word that is added tells the two names of a text apart, whatever their counters. -/
theorem candidate_ne_again (h : v.natural case t = some base)
    (hagain : v.natural case (t ++ "_value") = some again) (m n : Nat) :
    candidate base "_" m ≠ candidate again "_" n := by
  intro heq
  obtain ⟨first, hfirst, hbase⟩ := letters_candidate base m
  obtain ⟨second, -, hword⟩ := letters_candidate again n
  rw [← heq, hbase, letters_natural h, letters_again hagain, List.append_assoc] at hword
  have hmem : 'v' ∈ first := by
    rw [List.append_cancel_left hword]
    exact List.mem_append_left _ (by decide)
  exact absurd (hfirst 'v' hmem) (by decide)

theorem not_numbered_again (hagain : v.natural case (t ++ "_value") = some again)
    (base' : Text) : ¬ IsNumbered base' again := by
  rintro ⟨digits, hne, hdigits, rfl⟩
  have hletters := letters_again hagain
  have hmark : letters ['_'] = [] := by decide
  rw [List.append_cons, letters_append, letters_append, hmark, List.append_nil,
    letters_of_digits hdigits] at hletters
  have hlast := congrArg List.getLast? hletters
  rw [List.getLast?_append_of_ne_nil _ hne, List.getLast?_append_of_ne_nil _ (by decide)] at hlast
  exact absurd (hdigits 'e' (List.mem_of_getLast? hlast)) (by decide)

theorem exists_again (v : Vocabulary) (case : Case) (t : Text) :
    ∃ again, v.natural case (t ++ "_value") = some again := by
  refine ⟨_, natural_eq_some.mpr ⟨?_, rfl⟩⟩
  rw [Ne, identifier_eq_nil]
  intro hnone
  exact absurd (hnone 'v' (by simp)) (by decide)

/-! ## What is used -/

/-- What is used in a run is held, or was given up because it met a reserved name. -/
structure Accounts (reserved : List Text) (before : List Member) (used : List Text) : Prop where
  taken : held reserved before ⊆ used
  known : ∀ t ∈ used, t ∈ held reserved before ∨ collides reserved t = true

theorem held_concat (reserved : List Text) (before : List Member) (m : Member)
    (name : Option Text) :
    held reserved (before ++ [m.withIdentifier name]) = held reserved before ++ name.toList := by
  rw [held, held, List.filterMap_append, List.append_assoc]
  cases name <;> rfl

theorem accounts_start (s : Sanitizer) (reserved : List Text) :
    Accounts reserved [] (s.startWith reserved).used := by
  constructor
  · intro t ht
    exact mem_startWith.mpr (by simpa [held] using ht)
  · intro t ht
    exact Or.inl (by simpa [held] using mem_startWith.mp ht)

theorem Accounts.assign (h : Accounts reserved before used) (v : Vocabulary) (case : Case)
    (m : Member) (t : Text) :
    Accounts reserved (before ++ [m.withIdentifier (v.assign case reserved used t).1])
      (v.assign case reserved used t).2 := by
  constructor
  · rw [held_concat]
    exact List.append_subset.mpr ⟨fun u hu => mem_used_assign.mpr (Or.inl (h.taken hu)),
      fun u hu => mem_used_assign.mpr (Or.inr (Or.inl (Option.mem_toList.mp hu)))⟩
  · intro u hu
    rw [held_concat, List.mem_append, Option.mem_toList]
    rcases mem_used_assign.mp hu with hold | hname | ⟨-, hmeets⟩
    · exact (h.known u hold).imp_left Or.inl
    · exact Or.inl (Or.inr hname)
    · exact Or.inr hmeets

/-- The run over the members, by the step above. -/
theorem accounts_run (s : Sanitizer) (v : Vocabulary) (case : Case) (reserved : List Text)
    (ms : List Member) :
    Accounts reserved (v.nameAll case reserved (s.startWith reserved).used ms)
      (v.usedAfter case reserved (s.startWith reserved).used ms) := by
  induction ms using List.reverseRecOn with
  | nil => exact accounts_start s reserved
  | append_singleton ms m ih =>
    rw [nameAll_append, usedAfter_concat]
    exact ih.assign v case m m.source.shown

/-! ## One member -/

theorem Accounts.mem_of_not_numbered (h : Accounts reserved before used) {u : Text}
    (hu : u ∈ used) (hapart : ∀ base' ∈ reserved, ¬ IsNumbered base' u) :
    u ∈ held reserved before := by
  rcases h.known u hu with hheld | hmeets
  · exact hheld
  · rcases collides_iff.mp hmeets with hmem | ⟨base', hmem, hnumbered⟩
    · exact List.mem_append_left _ hmem
    · exact absurd hnumbered (hapart base' hmem)

/-- Only a reserved base can have a candidate with a counter that meets a reserved name. -/
theorem not_numbered_candidate (hbase : base ∉ reserved)
    (hapart : ∀ base' ∈ reserved, ¬ IsNumbered base' base) (n : Nat) :
    ∀ base' ∈ reserved, ¬ IsNumbered base' (candidate base "_" n) := by
  intro base' hmem
  cases n with
  | zero => exact hapart base' hmem
  | succ n =>
    rw [isNumbered_candidate]
    rintro rfl
    exact hbase hmem

/-- A natural name that is not reserved and does not look like a reserved name with a counter
is kept, up to a counter. -/
theorem assign_kept (h : Accounts reserved before used) (hnatural : v.natural case t = some base)
    (hagain : v.natural case (t ++ "_value") = some again) (hbase : base ∉ reserved)
    (hapart : ∀ base' ∈ reserved, ¬ IsNumbered base' base) :
    ∃ name, (v.assign case reserved used t).1 = some name ∧
      Earned reserved before base again name := by
  obtain ⟨n, hname, hfree, hless⟩ := fresh_spec used base "_"
  have hfirst := pick_of_natural hnatural used
  rw [hname] at hfirst
  have hnew : candidate base "_" n ∉ held reserved before := fun hmem => hfree (h.taken hmem)
  have hmeets : collides reserved (candidate base "_" n) = false := by
    rw [Bool.eq_false_iff, Ne, collides_iff]
    rintro (hmem | ⟨base', hmem, hnumbered⟩)
    · exact hnew (List.mem_append_left _ hmem)
    · exact not_numbered_candidate hbase hapart n base' hmem hnumbered
  refine ⟨candidate base "_" n, ?_, fun _ => ⟨?_, candidate_ne_again hnatural hagain n⟩,
    fun hmem => absurd hmem hbase⟩
  · rw [assign_of_free hfirst hmeets]
  · refine ⟨n, rfl, hnew, fun k hk => Or.inl ?_⟩
    exact h.mem_of_not_numbered (hless k hk) (not_numbered_candidate hbase hapart k)

/-- A member whose natural name is reserved is named after its text with the word added. -/
theorem assign_renamed (h : Accounts reserved before used)
    (hnatural : v.natural case t = some base)
    (hagain : v.natural case (t ++ "_value") = some again) (hbase : base ∈ reserved) :
    ∃ name, (v.assign case reserved used t).1 = some name ∧
      Earned reserved before base again name := by
  obtain ⟨n, hname, hfree, -⟩ := fresh_spec used base "_"
  have hfirst := pick_of_natural hnatural used
  rw [hname] at hfirst
  have hmeets : collides reserved (candidate base "_" n) = true := by
    cases n with
    | zero => exact absurd (h.taken (List.mem_append_left _ hbase)) hfree
    | succ n => exact collides_iff.mpr (Or.inr ⟨base, hbase, isNumbered_candidate.mpr rfl⟩)
  obtain ⟨k, hsecond, hfree', hless⟩ := fresh_spec (used ++ [candidate base "_" n]) again "_"
  rw [List.mem_append, not_or] at hfree'
  refine ⟨candidate again "_" k, ?_, fun hnot => absurd hbase hnot, fun _ => ?_⟩
  · rw [assign_of_meets hfirst hmeets, pick_of_natural hagain, hsecond]
  · refine ⟨k, rfl, fun hmem => hfree'.1 (h.taken hmem), fun j hj => ?_⟩
    -- the candidate that was given up is no candidate of the second name
    have hused : candidate again "_" j ∈ used := by
      rcases List.mem_append.mp (hless j hj) with hmem | hmem
      · exact hmem
      · exact absurd (List.mem_singleton.mp hmem).symm (candidate_ne_again hnatural hagain n j)
    by_cases hcounter : 0 < j ∧ again ∈ reserved
    · exact Or.inr hcounter
    · refine Or.inl (h.mem_of_not_numbered hused fun base' hmem hnumbered => ?_)
      cases j with
      | zero => exact not_numbered_again hagain base' hnumbered
      | succ j =>
        obtain rfl := isNumbered_candidate.mp hnumbered
        exact hcounter ⟨Nat.succ_pos j, hmem⟩

/-- A natural name that looks like a reserved name with a counter is given up at once. -/
theorem assign_given_up (hnatural : v.natural case t = some base)
    (hagain : v.natural case (t ++ "_value") = some again) (hnew : base ∉ used)
    {base' : Text} (hmem : base' ∈ reserved) (hnumbered : IsNumbered base' base) :
    ∃ n, (v.assign case reserved used t).1 = some (candidate again "_" n) := by
  have hfirst := pick_of_natural hnatural used
  rw [fresh_of_not_mem hnew] at hfirst
  have hmeets : collides reserved base = true := collides_iff.mpr (Or.inr ⟨base', hmem, hnumbered⟩)
  obtain ⟨n, hsecond, -, -⟩ := fresh_spec (used ++ [base]) again "_"
  exact ⟨n, by rw [assign_of_meets hfirst hmeets, pick_of_natural hagain, hsecond]⟩

/-! ## All members of an enum -/

/-- In every enum a member with a given text has a name that it earned. -/
def AlwaysEarned (s : Sanitizer) (case : Case) (reserved : List Text) (t base again : Text) :
    Prop :=
  ∀ members, (∀ m ∈ members, ∃ u, m.source = .str u) →
    ∃ named, deriveMembers members s case reserved = .ok named ∧
      named.map bare = (sortMembers members).map bare ∧
      ∀ before m later, named = before ++ m :: later → m.source = .str t →
        ∃ name, m.identifier = some name ∧ Earned reserved before base again name

/-- A member of a run is assigned its name when those before it have theirs. -/
theorem nameAll_split {ms later : List Member} {m : Member}
    (h : v.nameAll case reserved used ms = before ++ m :: later) :
    ∃ earlier, before = v.nameAll case reserved used earlier ∧ m.identifier =
      (v.assign case reserved (v.usedAfter case reserved used earlier) m.source.shown).1 := by
  induction ms generalizing used before with
  | nil => cases before <;> cases h
  | cons m' ms ih =>
    rw [Vocabulary.nameAll] at h
    cases before with
    | nil =>
      obtain ⟨rfl, -⟩ := List.cons.inj h
      exact ⟨[], rfl, rfl⟩
    | cons first before =>
      obtain ⟨rfl, hrest⟩ := List.cons.inj h
      obtain ⟨earlier, rfl, hname⟩ := ih hrest
      exact ⟨m' :: earlier, rfl, hname⟩

theorem alwaysEarned_of_apart {s : Sanitizer} (hnatural : s.vocabulary.natural case t = some base)
    (hagain : s.vocabulary.natural case (t ++ "_value") = some again)
    (h : base ∈ reserved ∨ ∀ base' ∈ reserved, ¬ IsNumbered base' base) :
    AlwaysEarned s case reserved t base again := by
  intro members htext
  refine ⟨_, deriveMembers_of_texts htext s case reserved, nameAll_bare _ _ _ _ _, ?_⟩
  intro before m later hsplit hsource
  obtain ⟨earlier, rfl, hname⟩ := nameAll_split hsplit
  have haccounts := accounts_run s s.vocabulary case reserved earlier
  rw [hname, hsource]
  by_cases hbase : base ∈ reserved
  · exact assign_renamed haccounts hnatural hagain hbase
  · exact assign_kept haccounts hnatural hagain hbase (h.resolve_left hbase)

theorem source_of_single (t : Text) :
    ∀ m ∈ [Member.ofValue t], ∃ u, m.source = .str u := by
  intro m hm
  rw [List.mem_singleton.mp hm]
  exact ⟨t, rfl⟩

theorem deriveMembers_single (s : Sanitizer) (case : Case) (reserved : List Text) (t : Text) :
    deriveMembers [.ofValue t] s case reserved = .ok [(Member.ofValue t).withIdentifier
      (s.vocabulary.assign case reserved (s.startWith reserved).used t).1] := by
  rw [deriveMembers_of_texts (source_of_single t),
    sortMembers_of_pairwise (List.pairwise_singleton _ _)]
  rfl

/-- The only member of an enum has a name it did not earn. -/
theorem not_alwaysEarned {s : Sanitizer} (hnatural : s.vocabulary.natural case t = some base)
    (hagain : s.vocabulary.natural case (t ++ "_value") = some again) (hbase : base ∉ reserved)
    {base' : Text} (hmem : base' ∈ reserved) (hnumbered : IsNumbered base' base) :
    ¬ AlwaysEarned s case reserved t base again := by
  intro hearned
  obtain ⟨named, hrun, -, hall⟩ := hearned [.ofValue t] (source_of_single t)
  rw [deriveMembers_single] at hrun
  obtain ⟨name, hname, hmade⟩ := hall [] _ [] (Except.ok.inj hrun).symm rfl
  have hnew : base ∉ (s.startWith reserved).used := fun hused => hbase (mem_startWith.mp hused)
  obtain ⟨n, hgiven⟩ := assign_given_up hnatural hagain hnew hmem hnumbered
  have hsame : (s.vocabulary.assign case reserved (s.startWith reserved).used t).1 = some name :=
    hname
  rw [hgiven] at hsame
  exact (hmade.kept hbase).2 n (Option.some.inj hsame).symm

/-- For every sanitizer, case, reserved names and text: members with the text have names they
earned, in every enum, if and only if the natural name is reserved or is no reserved name
with a counter behind it. -/
theorem names_earned_iff (s : Sanitizer) (case : Case) (reserved : List Text) {t base : Text}
    (h : s.vocabulary.natural case t = some base) :
    ∃ again, s.vocabulary.natural case (t ++ "_value") = some again ∧
      (AlwaysEarned s case reserved t base again ↔
        base ∈ reserved ∨ ∀ base' ∈ reserved, ¬ IsNumbered base' base) := by
  obtain ⟨again, hagain⟩ := exists_again s.vocabulary case t
  refine ⟨again, hagain, fun hearned => ?_, alwaysEarned_of_apart h hagain⟩
  by_contra hnot
  push Not at hnot
  obtain ⟨hbase, base', hmem, hnumbered⟩ := hnot
  exact not_alwaysEarned h hagain hbase hmem hnumbered hearned

theorem unknown_earns_value :
    Target.Rust.vocabulary.natural .pascal "unknown" = some "Unknown".toList ∧
    AlwaysEarned (ofVocabulary Target.Rust.vocabulary) .pascal [Target.catchAllName]
      "unknown" "Unknown" "UnknownValue" := by
  have hnatural : Target.Rust.vocabulary.natural .pascal "unknown" = some "Unknown".toList := by
    decide
  obtain ⟨again, hagain, hearned⟩ := names_earned_iff (ofVocabulary Target.Rust.vocabulary)
    .pascal [Target.catchAllName] hnatural
  have hvalue : Target.Rust.vocabulary.natural .pascal ("unknown" ++ "_value") =
      some "UnknownValue".toList := by decide
  obtain rfl := Option.some.inj (hagain.symm.trans hvalue)
  exact ⟨hnatural, hearned.mpr (Or.inl (by decide))⟩

/-- The only value converts to a name that no conflict counter made, and is renamed. -/
theorem numbered_value_renamed :
    Target.Rust.vocabulary.natural .snake "a_1" = some "a_1".toList ∧
    "a_1".toList ∉ ["a".toList] ∧
    deriveMembers [.ofValue "a_1"] (ofVocabulary Target.Rust.vocabulary) .snake ["a"] =
      .ok [(Member.ofValue "a_1").withIdentifier (some "a_1_value".toList)] := by
  refine ⟨by decide, by decide, ?_⟩
  rw [deriveMembers_single]
  rfl

end CatchAll.Naming
