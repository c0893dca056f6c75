import CatchAll.Proofs.Naming.Insertion
import CatchAll.Proofs.Target.Contexts
import CatchAll.Proofs.Target.Placeholder

/-!
# The variant that the documentation announces

The documentation of a class shows a value that the enum does not have, and the
variant that this value becomes once the schema has it. The name is foretold by
a new sanitizer, while the class is named by one that has seen the other members.
Both agree, since the placeholder was chosen such that nobody has its name, and a
name that is written like a new feature meets neither a word of the language nor
the catch-all.
-/

set_option autoImplicit false

namespace CatchAll.Target

open scoped Text
open Schema Naming

variable {p : Plan} {d : Definition} {c : Context}

theorem Context.Of.mem_values (h : c.Of p d) {value : Text} :
    value ∈ c.values ↔ value ∈ d.members.map (·.value) := by
  rw [h.values]
  exact ((sortMembers_perm d.members).map _).mem_iff

/-- A definition with one more member has a context in which that member is named after its
value, if nobody has that name, and the others are named as before. -/
theorem Context.Of.insert (h : c.Of p d) (hv : p.memberVocabulary.EndsInLetters)
    {members' : List Member} {m : Member} {t v : Text} (hperm : members'.Perm (m :: d.members))
    (hdistinct : ((m :: d.members).map (·.value)).Nodup) (hsource : m.source = .str t)
    (hplain : ConvertsTo p.settings.variantCase p.policy.reserved p.memberVocabulary t v)
    (hout : ∀ m' ∈ c.members, m'.identifier ≠ some v) :
    ∃ c', Emission.Yields (p.buildContext { d with members := members' }) c' ∧
      c'.members.Perm (m.withIdentifier (some v) :: c.members) := by
  obtain ⟨named, hnamed, hsame⟩ :=
    deriveMembers_insert hv hperm hdistinct hsource hplain h.derived hout
  have hcontext : p.contextOf { d with members := members' } =
      .ok (Context.ofMembers (p.typeName d.name) named p.decoration) :=
    Outcome.bind_eq_ok.mpr ⟨named, hnamed, rfl⟩
  have hall : (sortMembers named).Perm (m.withIdentifier (some v) :: c.members) :=
    (sortMembers_perm named).trans hsame
  refine ⟨_, Plan.buildContext_yields_of hcontext ?_, hall⟩
  apply List.ne_nil_of_mem (a := m.withIdentifier (some v))
  refine List.mem_filter.mpr ⟨hall.mem_iff.mpr List.mem_cons_self, ?_⟩
  simp [Member.isNamed, Member.variant?, Member.withIdentifier, hplain.ne_nil]

end CatchAll.Target

namespace CatchAll.Target.Python

open scoped Text
open Schema Naming

/-! ## The name of a new feature -/

theorem claims_feature {v : Text} (h : featureLetters <+: letters v) :
    memberVocabulary.claims v = false := by
  have hwords : ∀ w ∈ memberVocabulary.reserved, ¬ featureLetters <+: letters w := by decide
  have hmem : v ∉ memberVocabulary.reserved := fun hmem => hwords v hmem h
  have hbuiltin : v.map Char.toLower ∉ memberVocabulary.builtins := List.not_mem_nil
  simp [Vocabulary.claims, hmem, hbuiltin]

/-- A candidate is named after its own conversion. -/
theorem convertsTo_future (case : Case) (n : Nat) :
    ConvertsTo case [catchAllName] memberVocabulary (placeholderAt placeholderBase n)
      (futureVariant case (placeholderAt placeholderBase n)) := by
  have hfeature := featureLetters_prefix case n
  have hne := identifier_feature_ne_nil case n
  have hfuture : futureVariant case (placeholderAt placeholderBase n) =
      identifier case (placeholderAt placeholderBase n) := by
    rw [futureVariant, nameOf_eq, if_neg hne, Sanitizer.avoid]
    exact if_neg (by simp [Sanitizer.ofVocabulary, claims_feature hfeature])
  rw [hfuture]
  exact ⟨rfl, hne, claims_feature hfeature, collides_feature hfeature⟩

/-- No member has the placeholder as its value or its variant, nor the variant that the
placeholder becomes, which is the conversion of the placeholder itself. -/
theorem placeholder_spec (case : Case) (members : List Member) :
    ConvertsTo case [catchAllName] memberVocabulary (placeholder case members)
        (futureVariant case (placeholder case members)) ∧
      placeholder case members ∉ taken members ∧
      futureVariant case (placeholder case members) ∉ taken members := by
  obtain ⟨n, -, hn, hfree, -⟩ :=
    choosePlaceholder_spec (separates_nameOf memberVocabulary case placeholderBase) members
  have hplaceholder : placeholder case members = placeholderAt placeholderBase n := hn
  rw [hplaceholder]
  simp only [isFree, Option.all_some, Bool.and_eq_true, decide_eq_true_eq] at hfree
  exact ⟨convertsTo_future case n, hfree⟩

/-! ## Main result -/

variable {config : Config} {g : Generator} {d : Definition} {c : Context}
  {register register' : Register} {j j' : Journal}

end CatchAll.Target.Python
