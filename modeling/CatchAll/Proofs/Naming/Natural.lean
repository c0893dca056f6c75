import CatchAll.Proofs.Naming.PlainNames

/-!
# Naming without a memory

What a sanitizer remembers are true conversions as long as it works in one case. So a
member is named by its text and the names used before it alone: it gets the name that a
new sanitizer derives from the text, with a counter if that name is used, and if a
reserved name is met the name of the text with `_value` added. A run over members is
followed here by the names that are used.
-/

set_option autoImplicit false

namespace CatchAll.Naming

open scoped Text
open Schema Sanitizer

/-- The name a new sanitizer derives from a text. -/
def Vocabulary.natural (v : Vocabulary) (case : Case) (t : Text) : Option Text :=
  ((ofVocabulary v).derive t case "_").1

/-- The natural name of a text, with a counter if it is used. -/
def Vocabulary.pick (v : Vocabulary) (case : Case) (used : List Text) (t : Text) : Option Text :=
  (v.natural case t).map fun base => fresh used base "_"

/-- The name of a member with a given text, and the names used after it. -/
def Vocabulary.assign (v : Vocabulary) (case : Case) (reserved used : List Text) (t : Text) :
    Option Text × List Text :=
  let first := v.pick case used t
  if first.any (collides reserved) then
    let second := v.pick case (used ++ first.toList) (t ++ "_value")
    (second, used ++ first.toList ++ second.toList)
  else (first, used ++ first.toList)

/-- The names used once some members have theirs. -/
def Vocabulary.usedAfter (v : Vocabulary) (case : Case) (reserved used : List Text)
    (ms : List Member) : List Text :=
  ms.foldl (fun used m => (v.assign case reserved used m.source.shown).2) used

/-- Members one after the other, each with the name it is assigned. -/
def Vocabulary.nameAll (v : Vocabulary) (case : Case) (reserved : List Text) :
    List Text → List Member → List Member
  | _, [] => []
  | used, m :: rest =>
    let named := v.assign case reserved used m.source.shown
    m.withIdentifier named.1 :: v.nameAll case reserved named.2 rest

variable {v : Vocabulary} {case : Case} {s s' s₁ : Sanitizer} {name : Option Text}
  {reserved used : List Text}

/-! ## Natural names -/

theorem natural_eq (v : Vocabulary) (case : Case) (t : Text) :
    v.natural case t = if identifier case t = [] then none
      else some ((ofVocabulary v).avoid "_" (identifier case t)) := by
  rw [Vocabulary.natural, derive_ofVocabulary, claim?]
  split
  · rfl
  · exact congrArg some (fresh_of_not_mem List.not_mem_nil "_")

theorem natural_eq_some {t base : Text} :
    v.natural case t = some base ↔
      identifier case t ≠ [] ∧ (ofVocabulary v).avoid "_" (identifier case t) = base := by
  rw [natural_eq]
  split
  · rename_i hempty
    simp [hempty]
  · rename_i hsome
    simp [hsome]

theorem letters_natural {t base : Text} (h : v.natural case t = some base) :
    letters base = letters t := by
  rw [← (natural_eq_some.mp h).2, letters_avoid, letters_identifier]

/-! ## Reserved names -/

/-- A base with an underscore and digits behind it. -/
def IsNumbered (base name : Text) : Prop :=
  ∃ digits : Text, digits ≠ [] ∧ (∀ c ∈ digits, c.isDigit = true) ∧ name = base ++ '_' :: digits

theorem dropEndWhile_digits (base : Text) {digits : Text}
    (h : ∀ c ∈ digits, c.isDigit = true) :
    Text.dropEndWhile Char.isDigit (base ++ '_' :: digits) = base ++ ['_'] := by
  have hreverse : (base ++ '_' :: digits).reverse = digits.reverse ++ '_' :: base.reverse := by simp
  have hmark : ¬ '_'.isDigit = true := by decide
  rw [Text.dropEndWhile, hreverse, List.dropWhile_append_of_pos (by simpa using h),
    List.dropWhile_cons_of_neg hmark, List.reverse_cons, List.reverse_reverse]

/-- The base is what stands before the last underscore. -/
theorem isNumbered_append {base digits : Text} (hne : digits ≠ [])
    (hdigits : ∀ c ∈ digits, c.isDigit = true) {base' : Text} :
    IsNumbered base' (base ++ '_' :: digits) ↔ base' = base := by
  constructor
  · rintro ⟨digits', -, hdigits', heq⟩
    have hdrop := congrArg (Text.dropEndWhile Char.isDigit) heq
    rw [dropEndWhile_digits base hdigits, dropEndWhile_digits base' hdigits'] at hdrop
    exact (List.append_cancel_right hdrop).symm
  · rintro rfl
    exact ⟨digits, hne, hdigits, rfl⟩

/-- With a conflict counter a base is numbered, and nothing else is numbered like it. -/
theorem isNumbered_candidate {base base' : Text} {n : Nat} :
    IsNumbered base' (candidate base "_" (n + 1)) ↔ base' = base := by
  rw [candidate_succ]
  exact isNumbered_append Nat.toDigits_ne_nil (ofNat_chars (n + 1))

theorem collidesWith_iff {base name : Text} :
    collidesWith base name = true ↔ name = base ∨ IsNumbered base name := by
  have hsplit (rest : Text) : base ++ "_".toList ++ rest = base ++ '_' :: rest :=
    List.append_assoc ..
  have hdrop (rest : Text) : (base ++ '_' :: rest).drop (base.length + 1) = rest := by
    rw [List.append_cons]
    exact List.drop_left' (by simp)
  rw [collidesWith, Bool.or_eq_true, beq_iff_eq]
  refine or_congr_right ?_
  simp only [Bool.and_eq_true, List.isPrefixOf_iff_prefix, decide_eq_true_eq, List.all_eq_true]
  constructor
  · rintro ⟨⟨rest, rfl⟩, hne, hdigits⟩
    rw [hsplit, hdrop] at hne hdigits
    exact ⟨rest, hne, hdigits, hsplit rest⟩
  · rintro ⟨digits, hne, hdigits, rfl⟩
    rw [hdrop]
    exact ⟨⟨digits, hsplit digits⟩, hne, hdigits⟩

theorem collides_iff {t : Text} :
    collides reserved t = true ↔ t ∈ reserved ∨ ∃ base ∈ reserved, IsNumbered base t := by
  rw [collides, List.any_eq_true]
  simp only [collidesWith_iff]
  constructor
  · rintro ⟨base, hmem, rfl | hnumbered⟩
    · exact Or.inl hmem
    · exact Or.inr ⟨base, hmem, hnumbered⟩
  · rintro (hmem | ⟨base, hmem, hnumbered⟩)
    · exact ⟨t, hmem, Or.inl rfl⟩
    · exact ⟨base, hmem, Or.inr hnumbered⟩

/-! ## One member -/

/-- A step that uses some more names and changes nothing else but what is remembered. -/
structure Uses (case : Case) (names : List Text) (s s' : Sanitizer) : Prop where
  used : s'.used = s.used ++ names
  vocabulary : s'.vocabulary = s.vocabulary
  remembers : Remembers case s'

theorem used_addUsed {t : Text} (h : t ∉ s.used) : (s.addUsed t).used = s.used ++ [t] := by
  rw [addUsed, if_neg h]

theorem claim?_pick (hr : Remembers case s) (t : Text) :
    (s.claim? "_" (identifier case t)).1 = s.vocabulary.pick case s.used t ∧
      Uses case (s.vocabulary.pick case s.used t).toList s
        (s.claim? "_" (identifier case t)).2 := by
  rw [Vocabulary.pick, natural_eq, claim?]
  split
  · exact ⟨rfl, (List.append_nil _).symm, rfl, hr⟩
  · refine ⟨rfl, used_addUsed (fresh_not_mem _ _ _), addUsed_vocabulary s _, ?_⟩
    intro e he
    rw [claim, addUsed_known] at he
    exact hr e he

theorem pick_of_natural {t base : Text} (h : v.natural case t = some base) (used : List Text) :
    v.pick case used t = some (fresh used base "_") := by
  rw [Vocabulary.pick, h]
  rfl

theorem assign_of_free {t : Text} (hpick : v.pick case used t = name)
    (hfree : name.any (collides reserved) = false) :
    v.assign case reserved used t = (name, used ++ name.toList) := by
  rw [Vocabulary.assign, hpick, hfree]
  rfl

theorem assign_of_meets {t first : Text} (hpick : v.pick case used t = some first)
    (hmeets : collides reserved first = true) :
    (v.assign case reserved used t).1 = v.pick case (used ++ [first]) (t ++ "_value") := by
  rw [Vocabulary.assign, hpick, Option.any_some, hmeets]
  rfl

theorem deriveFrom_pick (hr : Remembers case s) {source : Json}
    (h : s.deriveFrom source case "_" = .ok (name, s')) :
    name = s.vocabulary.pick case s.used source.shown ∧ Uses case name.toList s s' := by
  obtain ⟨s₁, hused, hvoc, hr₁, hclaim⟩ := deriveFrom_claim hr h
  obtain ⟨hname, hafter⟩ := claim?_pick hr₁ source.shown
  rw [hclaim, hused, hvoc] at hname
  rw [hclaim, hused, hvoc, ← hname] at hafter
  exact ⟨hname, hused ▸ hafter.used, hafter.vocabulary.trans hvoc, hafter.remembers⟩

theorem memberIdentifier_assign (hr : Remembers case s) {m : Member}
    (h : memberIdentifier reserved case s m = .ok (name, s')) :
    s.vocabulary.assign case reserved s.used m.source.shown = (name, s'.used) ∧
      s'.vocabulary = s.vocabulary ∧ Remembers case s' := by
  obtain ⟨⟨first, s₁⟩, hfirst, h⟩ := Outcome.bind_eq_ok.mp h
  obtain ⟨hpick, hafter⟩ := deriveFrom_pick hr hfirst
  rw [Vocabulary.assign, ← hpick]
  dsimp only at h ⊢
  split at h
  · have hagain : s₁.deriveFrom (.str (m.source.shown ++ "_value")) case "_" = .ok (name, s') := h
    obtain ⟨hsecond, hlast⟩ := deriveFrom_pick hafter.remembers hagain
    rw [if_pos ‹_›, ← hafter.used, ← hafter.vocabulary, hlast.used]
    refine ⟨?_, hlast.vocabulary, hlast.remembers⟩
    rw [hsecond]
    rfl
  · obtain ⟨rfl, rfl⟩ := Prod.mk.inj (Except.ok.inj h)
    rw [if_neg ‹_›, hafter.used]
    exact ⟨rfl, hafter.vocabulary, hafter.remembers⟩

/-- Besides its name a member can leave a first candidate used that met a reserved name. -/
theorem mem_used_assign {t u : Text} :
    u ∈ (v.assign case reserved used t).2 ↔
      u ∈ used ∨ (v.assign case reserved used t).1 = some u ∨
        (v.pick case used t = some u ∧ collides reserved u = true) := by
  rw [Vocabulary.assign]
  dsimp only
  split
  · rename_i hmeets
    obtain ⟨first, hfirst, hcollides⟩ := Option.any_eq_true _ _ |>.mp hmeets
    have hgiven (h : first = u) : collides reserved u = true := h ▸ hcollides
    simp only [hfirst, List.mem_append, Option.mem_toList, Option.some.injEq]
    tauto
  · simp only [List.mem_append, Option.mem_toList]
    tauto

/-! ## Runs -/

theorem nameMembers_nameAll (hr : Remembers case s) {ms named : List Member}
    (h : nameMembers reserved case s ms = .ok named) :
    named = s.vocabulary.nameAll case reserved s.used ms := by
  induction ms generalizing s named with
  | nil => exact (Except.ok.inj h).symm
  | cons m ms ih =>
    obtain ⟨name, s₁, rest, hstep, hrest, rfl⟩ := nameMembers_cons_eq_ok.mp h
    obtain ⟨hassign, hvoc, hr₁⟩ := memberIdentifier_assign hr hstep
    rw [Vocabulary.nameAll, hassign, ih hr₁ hrest, hvoc]

theorem nameAll_append (v : Vocabulary) (case : Case) (reserved used : List Text)
    (before later : List Member) :
    v.nameAll case reserved used (before ++ later) =
      v.nameAll case reserved used before ++
        v.nameAll case reserved (v.usedAfter case reserved used before) later := by
  induction before generalizing used with
  | nil => rfl
  | cons m before ih =>
    rw [List.cons_append, Vocabulary.nameAll, ih, Vocabulary.nameAll]
    rfl

theorem usedAfter_concat (v : Vocabulary) (case : Case) (reserved used : List Text)
    (ms : List Member) (m : Member) :
    v.usedAfter case reserved used (ms ++ [m]) =
      (v.assign case reserved (v.usedAfter case reserved used ms) m.source.shown).2 :=
  List.foldl_append

theorem nameAll_bare (v : Vocabulary) (case : Case) (reserved used : List Text)
    (ms : List Member) :
    (v.nameAll case reserved used ms).map bare = ms.map bare := by
  induction ms generalizing used with
  | nil => rfl
  | cons m ms ih => rw [Vocabulary.nameAll, List.map_cons, ih, bare_withIdentifier, List.map_cons]

/-- The members of an enum are named in canonical order, when the reserved names are used. -/
theorem deriveMembers_nameAll {members named : List Member}
    (h : deriveMembers members s case reserved = .ok named) :
    named = s.vocabulary.nameAll case reserved (s.startWith reserved).used
      (sortMembers members) := by
  have hnamed := nameMembers_nameAll (remembers_startWith s reserved) h
  rwa [startWith_vocabulary] at hnamed

/-- Texts are always named. -/
theorem deriveMembers_of_texts {members : List Member}
    (htext : ∀ m ∈ members, ∃ t, m.source = .str t) (s : Sanitizer) (case : Case)
    (reserved : List Text) :
    deriveMembers members s case reserved = .ok (s.vocabulary.nameAll case reserved
      (s.startWith reserved).used (sortMembers members)) := by
  obtain ⟨named, hnamed⟩ : ∃ named, deriveMembers members s case reserved = .ok named :=
    nameMembers_ok (fun m hm => htext m ((sortMembers_perm members).mem_iff.mp hm)) _
  rw [hnamed, deriveMembers_nameAll hnamed]

end CatchAll.Naming
