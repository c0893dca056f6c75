import CatchAll.Proofs.Naming.PlainNames
import CatchAll.Proofs.Target.Contexts

/-!
# Type names that hide what a module relies on

The methods of a generated class look up built-in names, and its decorators are
built-in or imported. A class of the same name hides them for the rest of the module.
The vocabulary for type names has most of these names, but three are missing from it,
and each of them is a type name exactly for the enums whose name has its words.
-/

set_option autoImplicit false

namespace CatchAll.Naming

theorem isIdentifierPart_of_isNameChar {c : Char} (h : isNameChar c = true) :
    Text.isIdentifierPart c = true := by
  simp only [isNameChar, Bool.or_eq_true, beq_iff_eq] at h
  rcases h with h | rfl
  · exact forall_isAlphanum (P := fun c => Text.isIdentifierPart c = true) (by decide +kernel) c h
  · decide +kernel

theorem isIdentifierStart_of_isNameChar {c : Char} (h : isNameChar c = true)
    (hdigit : c.isDigit = false) : Text.isIdentifierStart c = true := by
  simp only [isNameChar, Bool.or_eq_true, beq_iff_eq] at h
  rcases h with h | rfl
  · exact forall_isAlphanum (P := fun c => c.isDigit = false → Text.isIdentifierStart c = true)
      (by decide +kernel) c h hdigit
  · decide +kernel

theorem IsName.isIdentifier {name : Text} (h : IsName name) : Text.isIdentifier name = true := by
  obtain ⟨c, rest, rfl⟩ := List.exists_cons_of_ne_nil h.ne_nil
  obtain ⟨hc, hrest⟩ := List.forall_mem_cons.mp h.chars
  have hfirst := isIdentifierStart_of_isNameChar hc (h.start c rfl)
  have hothers := List.all_eq_true.mpr fun d hd => isIdentifierPart_of_isNameChar (hrest d hd)
  rw [Text.isIdentifier, hfirst, hothers]
  rfl

/-- The name that a new sanitizer gives is not one of the words it avoids. -/
theorem claims_nameOf {v : Vocabulary} (hv : v.EndsInLetters) (t : Text) (case : Case) :
    v.claims (v.nameOf t case) = false := by
  rw [nameOf_eq]
  exact Sanitizer.claims_avoid (s := Sanitizer.ofVocabulary v) hv _

end CatchAll.Naming

namespace CatchAll.Target.Python

open scoped Text
open Naming Outcome

/-- What a module looks up that it does not define: built-in names and an import. -/
def reliedOn : List Text :=
  ["isinstance", "hash", "NotImplemented", "classmethod", "property", "str", "final"].map
    String.toList

/-- The words of an enum's name with the name that its class hides then. -/
def hidden : Case → List (List Text × Text)
  | .snake => [(["isinstance"], "isinstance"), (["final"], "final")]
  | .camel => [(["isinstance"], "isinstance"), (["final"], "final")]
  | .pascal => [(["not", "implemented"], "NotImplemented")]
  | .screamingSnake => []

theorem isPlain_reliedOn : ∀ name ∈ reliedOn, IsPlain name := by decide

theorem fallback_not_mem_reliedOn (case : Case) : Sanitizer.fallback case ∉ reliedOn := by
  cases case <;> decide

theorem origins_reliedOn (case : Case) : origins case vocabulary reliedOn = hidden case := by
  cases case <;> decide +kernel

theorem ofConfig_vocabulary {config : Config} {policy : Option Target.Policy} {g : Generator}
    (hg : Generator.ofConfig backend config policy = .ok g) : g.plan.vocabulary = vocabulary := by
  obtain ⟨p, hp, hdone⟩ := bind_eq_ok.mp hg
  obtain rfl : (⟨backend, p⟩ : Generator) = g := Except.ok.inj hdone
  obtain ⟨decoration, -, hp⟩ := bind_eq_ok.mp hp
  obtain ⟨settings, -, hp⟩ := bind_eq_ok.mp hp
  cases hp
  rfl

/-- The type name of an enum is an identifier and no keyword. It hides a name that the module
relies on for the listed words alone: `isinstance` and `final` where types begin with a small
letter, and `NotImplemented` in pascal case. -/
theorem typeName_hides_iff {config : Config} {policy : Option Target.Policy} {g : Generator}
    (hg : Generator.ofConfig backend config policy = .ok g) (d : Schema.Definition) :
    let name := g.plan.typeName d.name
    Text.isIdentifier name = true ∧ name ∉ keywords ∧
      ∀ r ∈ reliedOn, name = r ↔ (words d.name, r) ∈ hidden g.plan.settings.typeCase := by
  have hv : vocabulary.EndsInLetters := by decide
  intro name
  have hname : name = vocabulary.nameOf d.name g.plan.settings.typeCase := by
    rw [← ofConfig_vocabulary hg]
    rfl
  rw [hname]
  refine ⟨(isName_nameOf hv _ _).isIdentifier, ?_, fun r hr => ?_⟩
  · have hopen := claims_nameOf hv d.name g.plan.settings.typeCase
    simp only [Vocabulary.claims, Bool.or_eq_false_iff, decide_eq_false_iff_not] at hopen
    exact hopen.1
  · have hfallback : Sanitizer.fallback g.plan.settings.typeCase ≠ r := by
      rintro rfl
      exact fallback_not_mem_reliedOn _ hr
    rw [nameOf_eq_iff (isPlain_reliedOn r hr) hfallback, ← origins_reliedOn, mem_origins]
    exact (and_iff_right hr).symm

/-- An enum called like the function that compares types, where types are in snake case. -/
theorem isinstance_hidden :
    ∃ g, Generator.ofConfig backend { Config.standard with typeCase := .str "snake" } none = .ok g ∧
      g.plan.typeName "isinstance" = "isinstance" := by
  obtain ⟨g, hg⟩ : ∃ g, Generator.ofConfig backend
      { Config.standard with typeCase := .str "snake" } none = .ok g := ⟨_, rfl⟩
  have hcase : g.plan.settings.typeCase = .snake := by
    obtain rfl := Except.ok.inj hg
    rfl
  obtain ⟨-, -, hhides⟩ := typeName_hides_iff hg ⟨"isinstance", [], .null⟩
  refine ⟨g, hg, (hhides "isinstance" (by decide)).mpr ?_⟩
  rw [hcase]
  decide +kernel

/-- With the standard settings a class can take the name that comparisons return. -/
theorem notImplemented_hidden :
    ∃ g, Generator.ofConfig backend .standard none = .ok g ∧
      g.plan.typeName "NotImplemented" ∈ reliedOn := by
  obtain ⟨g, hg, hname⟩ : ∃ g, Generator.ofConfig backend .standard none = .ok g ∧
      g.plan.typeName "NotImplemented" = "NotImplemented" := ⟨_, rfl, by decide +kernel⟩
  refine ⟨g, hg, ?_⟩
  rw [hname]
  decide

end CatchAll.Target.Python
