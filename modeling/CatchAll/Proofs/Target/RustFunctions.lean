import CatchAll.Proofs.Naming.PlainNames
import CatchAll.Proofs.Target.Contexts

/-!
# Variants that shadow functions

An enum and its functions share one scope, where a variant comes first. The names of
the functions are not among the words that variants avoid. They have small letters
alone, so no variant in pascal or screaming snake case is in their way. In the two
other cases a variant shadows a function whenever some member has its words.
-/

set_option autoImplicit false

namespace CatchAll.Target.Rust

open scoped Text
open Schema Naming

/-- The functions that an enum gets from its implementations. -/
def functions : List Text :=
  ["from", "from_str", "as_str", "values", "as_ref", "fmt"].map String.toList

/-- The words of a member with the function that its variant shadows. -/
def shadowed : Case → List (List Text × Text)
  | .snake =>
    [(["from"], "from"), (["from", "str"], "from_str"), (["as", "str"], "as_str"),
     (["values"], "values"), (["as", "ref"], "as_ref"), (["fmt"], "fmt")]
  | .camel => [(["from"], "from"), (["values"], "values"), (["fmt"], "fmt")]
  | .pascal => []
  | .screamingSnake => []

theorem origins_functions (case : Case) : origins case vocabulary functions = shadowed case := by
  cases case <;> decide +kernel

theorem isOpen_functions : ∀ f ∈ functions, IsOpen vocabulary [catchAllName] f := by
  have hplain : ∀ f ∈ functions, IsPlain f := by decide
  have hfree : ∀ f ∈ functions, vocabulary.claims f = false := by decide +kernel
  have hapart : ∀ f ∈ functions, collides [catchAllName] f = false := by decide
  have hend : ∀ f ∈ functions, ¬ "value".toList <:+ letters f := by decide
  exact fun f hf => ⟨hplain f hf, hfree f hf, hapart f hf, hend f hf⟩

variable {config : Config} {g : Generator} {d : Definition} {c : Context}
  {register register' : Register} {j j' : Journal}

/-- A function is shadowed by a variant if and only if the text of some member has the words
that become its name. -/
theorem function_shadowed_iff (hg : Generator.ofConfig backend config none = .ok g)
    (hc : (g.plan.buildContext d).run register j = ((.ok c, register'), j')) :
    ∀ f ∈ functions, f ∈ c.variants ↔
      ∃ m ∈ d.members, (words m.source.shown, f) ∈ shadowed g.plan.settings.variantCase := by
  obtain ⟨-, hp⟩ := Generator.ofConfig_ok hg
  have hv : g.plan.memberVocabulary.EndsInLetters := hp.memberVocabulary ▸ endsInLetters_rust
  have hof := Plan.buildContext_ok hv hc
  intro f hf
  have hopen : IsOpen g.plan.memberVocabulary g.plan.policy.reserved f := by
    rw [hp.memberVocabulary, hp.policy]
    exact isOpen_functions f hf
  have hnamed := deriveMembers_named_iff (s := .ofVocabulary _) hv hopen hf hof.derived
  have hwords : origins g.plan.settings.variantCase g.plan.memberVocabulary functions =
      shadowed g.plan.settings.variantCase := by
    rw [hp.memberVocabulary]
    exact origins_functions _
  rw [← hwords]
  refine Iff.trans ?_ hnamed
  rw [Context.variants, List.mem_filterMap]
  exact exists_congr fun m => and_congr_right fun hm => by rw [hof.variant?_eq hm]

/-- Two members of one enum that shadow functions in camel case, and one that does not. -/
theorem level_shadows_from :
    ∃ g c, Generator.ofConfig backend { Config.standard with variantCase := .str "camel" } none =
        .ok g ∧
      Emission.Yields (g.plan.buildContext
        ⟨"Level", [.ofValue "FMT", .ofValue "as-str", .ofValue "from"], .null⟩) c ∧
      "from".toList ∈ c.variants ∧ "fmt".toList ∈ c.variants ∧ "as_str".toList ∉ c.variants := by
  obtain ⟨g, hg⟩ : ∃ g, Generator.ofConfig backend
      { Config.standard with variantCase := .str "camel" } none = .ok g := ⟨_, rfl⟩
  have hcase : g.plan.settings.variantCase = .camel := by
    obtain rfl := Except.ok.inj hg
    rfl
  obtain ⟨-, hp⟩ := Generator.ofConfig_ok hg
  obtain ⟨c, hc⟩ : ∃ c, Emission.Yields (g.plan.buildContext
      ⟨"Level", [.ofValue "FMT", .ofValue "as-str", .ofValue "from"], .null⟩) c := by
    apply Plan.buildContext_yields (hp.memberVocabulary ▸ endsInLetters_rust)
    · intro m hm
      simp only [List.mem_cons, List.not_mem_nil, or_false] at hm
      rcases hm with rfl | rfl | rfl <;> exact ⟨_, rfl⟩
    · exact ⟨.ofValue "from", by simp, 'f', by decide, rfl⟩
  obtain ⟨register, j, hrun⟩ := hc [] #[]
  have hshadowed := function_shadowed_iff hg hrun
  rw [hcase] at hshadowed
  refine ⟨g, c, hg, hc, (hshadowed "from" (by decide)).mpr ?_, (hshadowed "fmt" (by decide)).mpr ?_,
    fun h => absurd ((hshadowed "as_str" (by decide)).mp h) (by decide)⟩
  · exact ⟨.ofValue "from", by simp, by decide⟩
  · exact ⟨.ofValue "FMT", by simp, by decide⟩

/-- In snake case a value is enough that is called like the conversion. -/
theorem conversion_shadowed :
    ∃ g c, Generator.ofConfig backend { Config.standard with variantCase := .str "snake" } none =
        .ok g ∧
      Emission.Yields (g.plan.buildContext ⟨"Level", [.ofValue "from"], .null⟩) c ∧
      c.variants = ["from".toList] ∧ "from".toList ∈ functions := by
  obtain ⟨g, hg⟩ : ∃ g, Generator.ofConfig backend
      { Config.standard with variantCase := .str "snake" } none = .ok g := ⟨_, rfl⟩
  have hsorted (m : Member) : sortMembers [m] = [m] :=
    sortMembers_of_pairwise (List.pairwise_singleton _ _)
  have hnamed : g.plan.namedMembers ⟨"Level", [.ofValue "from"], .null⟩ =
      .ok [(Member.ofValue "from").withIdentifier (some "from")] := by
    obtain rfl := Except.ok.inj hg
    rw [Plan.namedMembers, deriveMembers, hsorted]
    rfl
  have hmembers : (Context.ofMembers (g.plan.typeName "Level")
      [(Member.ofValue "from").withIdentifier (some "from")] g.plan.decoration).members =
      [(Member.ofValue "from").withIdentifier (some "from")] := hsorted _
  refine ⟨g, _, hg, Plan.buildContext_yields_of (Outcome.bind_eq_ok.mpr ⟨_, hnamed, rfl⟩) ?_, ?_,
    by decide⟩
  · rw [Context.named, hmembers]
    decide
  · rw [Context.variants, hmembers]
    decide

end CatchAll.Target.Rust
