import CatchAll.Naming.Members
import CatchAll.Proofs.Naming.Fresh
import CatchAll.Proofs.Outcome
import CatchAll.Proofs.Schema.CanonicalOrder
import CatchAll.Target.Emission
import CatchAll.Target.PythonNames
import CatchAll.Target.RustNames

/-!
# Safe and distinct member identifiers

A sanitizer that works in one case remembers true conversions alone, since texts
with one key are equal there. So every step hands out a name that was not used,
and the names of a whole enum are distinct. The name that a collision with the
catch-all discards stays used; this only makes the rest of the run more careful.
-/

set_option autoImplicit false

namespace CatchAll.Naming

open scoped Text
open Schema Sanitizer

variable {case : Case} {s s' s'' : Sanitizer}

/-- What is remembered are conversions to one case. -/
def Remembers (case : Case) (s : Sanitizer) : Prop :=
  ∀ e ∈ s.known, ∃ t, e = (key t case, identifier case t)

/-- A step keeps what was used, and a name that comes out of it is new, fit for use
and used from now on. -/
structure Handed (case : Case) (s s' : Sanitizer) (name : Option Text) : Prop where
  vocabulary : s'.vocabulary = s.vocabulary
  remembers : Remembers case s'
  kept : s.used ⊆ s'.used
  out : ∀ t, name = some t →
    t ∉ s.used ∧ t ∈ s'.used ∧ IsName t ∧ s.vocabulary.claims t = false

theorem Handed.trans {a b : Option Text} (h : Handed case s s' a) (h' : Handed case s' s'' b) :
    Handed case s s'' b where
  vocabulary := h'.vocabulary.trans h.vocabulary
  remembers := h'.remembers
  kept := fun _ ht => h'.kept (h.kept ht)
  out := by
    intro t ht
    obtain ⟨hnew, hused, hname, hfree⟩ := h'.out t ht
    rw [h.vocabulary] at hfree
    exact ⟨fun hold => hnew (h.kept hold), hused, hname, hfree⟩

theorem mem_addUsed (s : Sanitizer) (name t : Text) :
    t ∈ (s.addUsed name).used ↔ t = name ∨ t ∈ s.used := by
  rw [addUsed]
  split
  · constructor
    · exact Or.inr
    · rintro (rfl | h)
      · assumption
      · exact h
  · simp [or_comm]

theorem addUsed_vocabulary (s : Sanitizer) (name : Text) :
    (s.addUsed name).vocabulary = s.vocabulary := by
  rw [addUsed]
  split <;> rfl

theorem addUsed_known (s : Sanitizer) (name : Text) : (s.addUsed name).known = s.known := by
  rw [addUsed]
  split <;> rfl

theorem claim_handed (hv : s.vocabulary.EndsInLetters) (hr : Remembers case s) {t : Text}
    (ht : IsName t) : Handed case s (s.claim "_" t).2 (some (s.claim "_" t).1) where
  vocabulary := addUsed_vocabulary s _
  remembers := by
    intro e he
    rw [claim, addUsed_known] at he
    exact hr e he
  kept := fun u hu => (mem_addUsed s _ u).mpr (Or.inr hu)
  out := by
    intro u hu
    obtain rfl : fresh s.used (s.avoid "_" t) "_" = u := Option.some.inj hu
    refine ⟨fresh_not_mem _ _ _, (mem_addUsed s _ _).mpr (Or.inl rfl), ?_⟩
    obtain ⟨n, hn, -, -⟩ := fresh_spec s.used (s.avoid "_" t) "_"
    rw [hn]
    exact ⟨isName_candidate (isName_avoid ht) n, claims_candidate hv (claims_avoid hv t) n⟩

theorem claim?_handed (hv : s.vocabulary.EndsInLetters) (hr : Remembers case s) (t : Text) :
    Handed case s (s.claim? "_" (identifier case t)).2 (s.claim? "_" (identifier case t)).1 := by
  rw [claim?]
  split
  · exact ⟨rfl, hr, fun _ h => h, fun _ h => by cases h⟩
  · exact claim_handed hv hr (isName_identifier case t ‹_›)

theorem claim?_eq_none (case : Case) (s : Sanitizer) (suffix t : Text) :
    (s.claim? suffix (identifier case t)).1 = none ↔ ∀ c ∈ t, c.isAlphanum = false := by
  rw [← identifier_eq_nil case, claim?]
  split <;> simp_all

/-! ## Remembered conversions -/

theorem key_injective (case : Case) : Function.Injective fun t => key t case := by
  intro t u h
  simp only [key, List.append_assoc] at h
  exact List.append_cancel_right h

theorem known?_eq (hr : Remembers case s) {t x : Text} (h : s.known? (key t case) = some x) :
    x = identifier case t := by
  obtain ⟨e, he, rfl⟩ := Option.map_eq_some_iff.mp h
  have hkey : e.1 = key t case := by simpa using List.find?_some he
  obtain ⟨u, rfl⟩ := hr e (List.mem_of_find?_eq_some he)
  exact congrArg (identifier case) (key_injective case hkey)

theorem convert_spec (hr : Remembers case s) (t : Text) :
    ∃ s', s.convert t case = (identifier case t, s') ∧ Remembers case s' ∧
      s'.used = s.used ∧ s'.vocabulary = s.vocabulary := by
  rw [convert]
  cases h : s.known? (key t case) with
  | some x => exact ⟨s, by rw [known?_eq hr h], hr, rfl, rfl⟩
  | none =>
    refine ⟨_, rfl, ?_, rfl, rfl⟩
    intro e he
    rcases List.mem_cons.mp he with rfl | he
    · exact ⟨t, rfl⟩
    · exact hr e he

/-! ## One member -/

/-- Whatever its kind, a value that has a name has it through the text that shows it. -/
theorem deriveFrom_claim (hr : Remembers case s) {source : Json} {name : Option Text}
    (h : s.deriveFrom source case "_" = .ok (name, s')) :
    ∃ s₁ : Sanitizer, s₁.used = s.used ∧ s₁.vocabulary = s.vocabulary ∧ Remembers case s₁ ∧
      s₁.claim? "_" (identifier case source.shown) = (name, s') := by
  cases source with
  | str t =>
    obtain ⟨s₁, hconvert, hr₁, hused, hvoc⟩ := convert_spec hr t
    refine ⟨s₁, hused, hvoc, hr₁, ?_⟩
    have hderive : s.derive t case "_" = (name, s') := Except.ok.inj h
    rw [derive, hconvert] at hderive
    exact hderive
  | _ =>
    simp only [deriveFrom] at h
    split at h
    · rename_i x hx
      refine ⟨s, rfl, rfl, hr, ?_⟩
      rw [← known?_eq hr hx]
      exact Except.ok.inj h
    · cases h

theorem deriveFrom_handed (hv : s.vocabulary.EndsInLetters) (hr : Remembers case s)
    {source : Json} {name : Option Text} (h : s.deriveFrom source case "_" = .ok (name, s')) :
    Handed case s s' name ∧ (name = none ↔ ∀ c ∈ source.shown, c.isAlphanum = false) := by
  obtain ⟨s₁, hused, hvoc, hr₁, hclaim⟩ := deriveFrom_claim hr h
  have hstep : Handed case s s₁ none :=
    ⟨hvoc, hr₁, hused ▸ fun _ ht => ht, fun _ ht => by cases ht⟩
  have hhanded := claim?_handed (hvoc ▸ hv) hr₁ source.shown
  have hnone := claim?_eq_none case s₁ "_" source.shown
  rw [hclaim] at hhanded hnone
  exact ⟨hstep.trans hhanded, hnone⟩

theorem derive_handed (hv : s.vocabulary.EndsInLetters) (hr : Remembers case s) (t : Text) :
    Handed case s (s.derive t case "_").2 (s.derive t case "_").1 ∧
      ((s.derive t case "_").1 = none ↔ ∀ c ∈ t, c.isAlphanum = false) := by
  have htext : s.deriveFrom (.str t) case "_" =
      .ok ((s.derive t case "_").1, (s.derive t case "_").2) := rfl
  exact deriveFrom_handed hv hr htext

theorem memberIdentifier_handed (hv : s.vocabulary.EndsInLetters) (hr : Remembers case s)
    {reserved : List Text} {m : Member} {name : Option Text}
    (h : memberIdentifier reserved case s m = .ok (name, s')) :
    Handed case s s' name ∧ (name = none ↔ ∀ c ∈ m.source.shown, c.isAlphanum = false) := by
  rw [memberIdentifier] at h
  cases hfirst : s.deriveFrom m.source case "_" with
  | error o => rw [hfirst] at h; cases h
  | ok first =>
    obtain ⟨candidate, s₁⟩ := first
    obtain ⟨hhanded, hnone⟩ := deriveFrom_handed hv hr hfirst
    rw [hfirst] at h
    change (if _ then _ else _) = _ at h
    split at h
    · rename_i hcollides
      have hderive : s₁.derive (m.source.shown ++ "_value") case "_" = (name, s') :=
        Except.ok.inj h
      obtain ⟨hagain, hvalue⟩ := derive_handed (hhanded.vocabulary ▸ hv) hhanded.remembers
        (m.source.shown ++ "_value")
      rw [hderive] at hagain hvalue
      refine ⟨hhanded.trans hagain, ?_⟩
      -- the added word has letters, and the source has some since it gave a candidate
      have hname : name ≠ none := by
        intro hn
        have hletter := hvalue.mp hn 'v' (by simp)
        exact absurd hletter (by decide)
      have hcandidate : candidate ≠ none := by
        rintro rfl
        simp at hcollides
      exact ⟨fun hn => absurd hn hname, fun hn => absurd (hnone.mpr hn) hcandidate⟩
    · obtain ⟨rfl, rfl⟩ := Prod.mk.inj (Except.ok.inj h)
      exact ⟨hhanded, hnone⟩

/-! ## All members of an enum -/

/-- A member without its identifier. -/
def bare (m : Member) : Member := m.withIdentifier none

@[simp] theorem bare_withIdentifier (m : Member) (identifier : Option Text) :
    bare (m.withIdentifier identifier) = bare m := rfl

@[simp] theorem source_withIdentifier (m : Member) (identifier : Option Text) :
    (m.withIdentifier identifier).source = m.source := rfl

/-- Members with identifiers of their own, all of them fit for use and none used before. -/
structure NamedApart (v : Vocabulary) (used : List Text) (named : List Member) : Prop where
  distinct : (named.filterMap (·.identifier)).Nodup
  fit : ∀ m ∈ named, ∀ t, m.identifier = some t →
    t ∉ used ∧ IsName t ∧ v.claims t = false
  unnamed : ∀ m ∈ named, m.identifier = none ↔ ∀ c ∈ m.source.shown, c.isAlphanum = false

theorem NamedApart.cons {m : Member} {name : Option Text} {rest : List Member}
    (hhanded : Handed case s s' name)
    (hname : name = none ↔ ∀ c ∈ m.source.shown, c.isAlphanum = false)
    (hrest : NamedApart s'.vocabulary s'.used rest) :
    NamedApart s.vocabulary s.used (m.withIdentifier name :: rest) where
  distinct := by
    cases name with
    | none => exact hrest.distinct
    | some t =>
      refine List.nodup_cons.mpr ⟨fun hmem => ?_, hrest.distinct⟩
      obtain ⟨m', hm', ht⟩ := List.mem_filterMap.mp hmem
      exact (hrest.fit m' hm' t ht).1 (hhanded.out t rfl).2.1
  fit := by
    intro m' hm' t ht
    rcases List.mem_cons.mp hm' with rfl | hm'
    · obtain ⟨hnew, -, hgood⟩ := hhanded.out t ht
      exact ⟨hnew, hgood⟩
    · obtain ⟨hnew, hisName, hfree⟩ := hrest.fit m' hm' t ht
      rw [hhanded.vocabulary] at hfree
      exact ⟨fun hused => hnew (hhanded.kept hused), hisName, hfree⟩
  unnamed := by
    intro m' hm'
    rcases List.mem_cons.mp hm' with rfl | hm'
    · exact hname
    · exact hrest.unnamed m' hm'

/-- A run names the first member, and the others with the sanitizer that this leaves. -/
theorem nameMembers_cons_eq_ok {reserved : List Text} {m : Member} {ms named : List Member} :
    nameMembers reserved case s (m :: ms) = .ok named ↔
      ∃ name s' rest, memberIdentifier reserved case s m = .ok (name, s') ∧
        nameMembers reserved case s' ms = .ok rest ∧ m.withIdentifier name :: rest = named := by
  rw [nameMembers, Outcome.bind_eq_ok]
  constructor
  · rintro ⟨⟨name, s'⟩, hstep, hrun⟩
    obtain ⟨rest, hrest, hdone⟩ := Outcome.bind_eq_ok.mp hrun
    exact ⟨name, s', rest, hstep, hrest, Except.ok.inj hdone⟩
  · rintro ⟨name, s', rest, hstep, hrest, rfl⟩
    exact ⟨(name, s'), hstep, Outcome.bind_eq_ok.mpr ⟨rest, hrest, rfl⟩⟩

/-- The run over the members, by the step above. -/
theorem nameMembers_apart {reserved : List Text} {ms named : List Member}
    (hv : s.vocabulary.EndsInLetters) (hr : Remembers case s)
    (h : nameMembers reserved case s ms = .ok named) :
    named.map bare = ms.map bare ∧ NamedApart s.vocabulary s.used named := by
  induction ms generalizing s named with
  | nil =>
    obtain rfl : [] = named := Except.ok.inj h
    exact ⟨rfl, by simp, by simp, by simp⟩
  | cons m ms ih =>
    obtain ⟨name, s₁, rest, hstep, hrest, rfl⟩ := nameMembers_cons_eq_ok.mp h
    obtain ⟨hhanded, hname⟩ := memberIdentifier_handed hv hr hstep
    obtain ⟨hbare, hapart⟩ := ih (hhanded.vocabulary ▸ hv) hhanded.remembers hrest
    exact ⟨by simp [hbare], hapart.cons hhanded hname⟩

theorem nameMembers_ok {reserved : List Text} {ms : List Member}
    (htext : ∀ m ∈ ms, ∃ t, m.source = .str t) (s : Sanitizer) :
    ∃ named, nameMembers reserved case s ms = .ok named := by
  induction ms generalizing s with
  | nil => exact ⟨[], rfl⟩
  | cons m ms ih =>
    obtain ⟨t, ht⟩ := htext m (by simp)
    have hstep : ∃ name s', memberIdentifier reserved case s m = .ok (name, s') := by
      simp only [memberIdentifier, ht, deriveFrom, bind, Except.bind]
      split
      · exact ⟨_, _, rfl⟩
      · exact ⟨_, _, rfl⟩
    obtain ⟨name, s', hstep⟩ := hstep
    obtain ⟨rest, hrest⟩ := ih (fun m' hm' => htext m' (List.mem_cons_of_mem m hm')) s'
    exact ⟨_, nameMembers_cons_eq_ok.mpr ⟨name, s', rest, hstep, hrest, rfl⟩⟩

theorem foldl_addUsed (names : List Text) (s : Sanitizer) :
    (names.foldl (fun s name => s.addUsed name) s).vocabulary = s.vocabulary ∧
      (names.foldl (fun s name => s.addUsed name) s).known = s.known ∧
      ∀ t, t ∈ (names.foldl (fun s name => s.addUsed name) s).used ↔ t ∈ names ∨ t ∈ s.used := by
  induction names generalizing s with
  | nil => simp
  | cons name names ih =>
    obtain ⟨hvoc, hknown, hused⟩ := ih (s.addUsed name)
    refine ⟨hvoc.trans (addUsed_vocabulary s name), hknown.trans (addUsed_known s name), ?_⟩
    intro t
    rw [List.foldl_cons, hused, mem_addUsed, List.mem_cons]
    tauto

theorem pairwise_of_bare {members named : List Member}
    (h : named.map bare = (sortMembers members).map bare) :
    named.Pairwise fun a b => valueLe a b = true := by
  have hpairs : (named.map bare).Pairwise fun a b => valueLe a b = true := by
    rw [h]
    exact List.pairwise_map.mpr (sortMembers_pairwise members)
  exact (List.pairwise_map (f := bare)).mp hpairs

theorem startWith_vocabulary (s : Sanitizer) (reserved : List Text) :
    (s.startWith reserved).vocabulary = s.vocabulary :=
  (foldl_addUsed reserved s.reset).1

theorem remembers_startWith (s : Sanitizer) (reserved : List Text) :
    Remembers case (s.startWith reserved) := by
  intro e he
  rw [startWith, (foldl_addUsed reserved s.reset).2.1] at he
  cases he

theorem mem_startWith {reserved : List Text} {t : Text} :
    t ∈ (s.startWith reserved).used ↔ t ∈ reserved := by
  rw [startWith, (foldl_addUsed reserved s.reset).2.2]
  exact or_iff_left List.not_mem_nil

/-- What came before does not matter: a run over an enum starts with the reserved names. -/
theorem deriveMembers_apart {members named : List Member} {reserved : List Text}
    (hv : s.vocabulary.EndsInLetters)
    (h : deriveMembers members s case reserved = .ok named) :
    named.map bare = (sortMembers members).map bare ∧
      NamedApart s.vocabulary reserved named := by
  have hstart := startWith_vocabulary s reserved
  obtain ⟨hbare, hapart⟩ := nameMembers_apart (hstart ▸ hv) (remembers_startWith s reserved) h
  rw [hstart] at hapart
  refine ⟨hbare, hapart.distinct, fun m hm t ht => ?_, hapart.unnamed⟩
  obtain ⟨hnew, hgood⟩ := hapart.fit m hm t ht
  exact ⟨fun hres => hnew (mem_startWith.mpr hres), hgood⟩

/-! ## Type names -/

theorem isName_fallback (case : Case) : IsName (fallback case) where
  chars := by
    have hall : (fallback case).all isNameChar = true := by cases case <;> decide
    exact List.all_eq_true.mp hall
  start := by
    intro c hc
    cases case <;> (obtain rfl := Option.some.inj hc; decide)
  guarded := by
    intro rest hrest
    cases case <;> cases hrest
  substance := by
    have hany : (fallback case).any Char.isAlphanum = true := by cases case <;> decide
    exact List.any_eq_true.mp hany

/-- A new sanitizer gives every text a name. -/
theorem isName_nameOf {v : Vocabulary} (hv : v.EndsInLetters) (t : Text) (case : Case) :
    IsName (v.nameOf t case) := by
  have hr : Remembers case (ofVocabulary v) := fun e he => by cases he
  obtain ⟨hderive, -⟩ := derive_handed (s := ofVocabulary v) hv hr t
  rw [Vocabulary.nameOf, sanitize]
  generalize (ofVocabulary v).derive t case "_" = step at hderive
  obtain ⟨name, s⟩ := step
  cases name with
  | some name => exact (hderive.out name rfl).2.2.1
  | none =>
    have hclaim := claim_handed (hderive.vocabulary ▸ hv) hderive.remembers (isName_fallback case)
    exact (hclaim.out _ rfl).2.2.1

/-! ## The languages -/

theorem endsInLetters_rust : Target.Rust.vocabulary.EndsInLetters := by decide

theorem endsInLetters_pythonMembers : Target.Python.memberVocabulary.EndsInLetters := by decide

/-- The members come back in the order of their values with nothing but identifiers added.
Only a member whose source has no letter and no digit stays without one. The identifiers
are distinct names, none of them the catch-all, a word of the language or, in small letters,
one of its built-in names. -/
theorem member_identifiers_safe (members : List Member) (s : Sanitizer) (case : Case)
    (hs : s.vocabulary = Target.Rust.vocabulary ∨
      s.vocabulary = Target.Python.memberVocabulary)
    (htext : ∀ m ∈ members, ∃ t, m.source = .str t) :
    ∃ named, deriveMembers members s case [Target.catchAllName] = .ok named ∧
      named.Pairwise (fun a b => Text.le a.value b.value = true) ∧
      (named.map bare).Perm (members.map bare) ∧
      (∀ m ∈ named, ∀ t, m.source = .str t →
        (m.identifier = none ↔ ∀ c ∈ t, c.isAlphanum = false)) ∧
      (named.filterMap (·.identifier)).Nodup ∧
      ∀ m ∈ named, ∀ name, m.identifier = some name →
        IsName name ∧ name ≠ Target.catchAllName ∧ name ∉ s.vocabulary.reserved ∧
          name.map Char.toLower ∉ s.vocabulary.builtins ∧
          (s.vocabulary = Target.Python.memberVocabulary → name ∉ Target.Python.attributes) := by
  have hv : s.vocabulary.EndsInLetters := by
    rcases hs with hs | hs <;> rw [hs]
    · exact endsInLetters_rust
    · exact endsInLetters_pythonMembers
  have hsorted := sortMembers_perm members
  obtain ⟨named, hnamed⟩ : ∃ named,
      deriveMembers members s case [Target.catchAllName] = .ok named :=
    nameMembers_ok (fun m hm => htext m (hsorted.mem_iff.mp hm)) _
  obtain ⟨hbare, hapart⟩ := deriveMembers_apart hv hnamed
  refine ⟨named, hnamed, pairwise_of_bare hbare, ?_, ?_, hapart.distinct, ?_⟩
  · rw [hbare]
    exact hsorted.map bare
  · intro m hm t ht
    have hunnamed := hapart.unnamed m hm
    rwa [ht] at hunnamed
  · intro m hm name hname
    obtain ⟨hnew, hisName, hfree⟩ := hapart.fit m hm name hname
    simp only [Vocabulary.claims, Bool.or_eq_false_iff, decide_eq_false_iff_not] at hfree
    refine ⟨hisName, by simpa using hnew, hfree.1, hfree.2, fun hpy hattr => hfree.1 ?_⟩
    rw [hpy]
    exact List.mem_append_right _ hattr

/-- Two values that convert alike, one that meets the catch-all and one without letters,
given to a sanitizer that was used before. -/
theorem colliding_members_named :
    ∃ named, deriveMembers
        [.ofValue "unknown", .ofValue "a b", .ofValue "a-b", .ofValue "!"]
        ⟨Target.Rust.vocabulary, ["AB"], [("unknown_pascal", "X")]⟩ .pascal
        [Target.catchAllName] = .ok named ∧
      (named.filterMap (·.identifier)).Nodup := by
  obtain ⟨named, hnamed, -, -, -, hdistinct, -⟩ := member_identifiers_safe
    [.ofValue "unknown", .ofValue "a b", .ofValue "a-b", .ofValue "!"]
    ⟨Target.Rust.vocabulary, ["AB"], [("unknown_pascal", "X")]⟩ .pascal (Or.inl rfl)
    (by
      intro m hm
      simp only [List.mem_cons, List.not_mem_nil, or_false] at hm
      rcases hm with rfl | rfl | rfl | rfl <;> exact ⟨_, rfl⟩)
  exact ⟨named, hnamed, hdistinct⟩

end CatchAll.Naming
