import CatchAll.Proofs.Schema.CanonicalOrder
import CatchAll.Proofs.Target.PlainDefinitions
import CatchAll.Proofs.Target.PythonVariants
import CatchAll.Proofs.Target.RustVariants

/-!
# One list of variants

The code for an enum lists its variants in several places, and in both languages
all of these lists are one: the members that got an identifier, in code point
order of their values. A match over the variants is therefore complete, and so is
the one in the documentation.
-/

set_option autoImplicit false

namespace CatchAll.Target

open scoped Text
open Naming Schema Outcome Emission

/-- The members of an enum by value, and the identifier and value of each named one. -/
structure Listing (p : Plan) (d : Definition) (members : List Member)
    (arms : List (Text × Text)) : Prop where
  derived : p.namedMembers d = .ok members
  complete : (members.map bare).Perm (d.members.map bare)
  ascending : (members.map (·.value)).Pairwise List.lt
  named : arms = members.filterMap fun m => m.identifier.map fun name => (name, m.value)
  distinct : (arms.map Prod.fst).Nodup
  unnamed : ∀ m ∈ members, m.identifier = none → m.value ∉ arms.map Prod.snd

/-- The variants of a listing. -/
def variantArms (arms : List (Text × Text)) : List Arm := arms.map fun arm => .variant arm.1

namespace Context.Of

variable {p : Plan} {d : Definition} {c : Context}

theorem ascending (h : c.Of p d) (hdistinct : (d.members.map (·.value)).Nodup) :
    c.values.Pairwise List.lt := by
  rw [h.values]
  exact sortMembers_ascending hdistinct

theorem listing (h : c.Of p d) (hdistinct : (d.members.map (·.value)).Nodup) :
    Listing p d c.members c.arms where
  derived := h.derived
  complete := by
    rw [h.members]
    exact (sortMembers_perm d.members).map bare
  ascending := h.ascending hdistinct
  named := List.filterMap_congr fun m hm => by rw [h.variant?_eq hm]
  distinct := by
    have hnodup := h.variants_nodup
    rwa [← c.keys_arms] at hnodup
  unnamed := by
    intro m hm hnone hmem
    obtain ⟨⟨name, value⟩, harm, hvalue⟩ := List.mem_map.mp hmem
    obtain ⟨m', hm', hname, hsame⟩ := Context.mem_arms.mp harm
    obtain rfl : m' = m := List.inj_on_of_nodup_map (h.values_nodup hdistinct) hm' hm
      (hsame.trans hvalue)
    rw [h.variant?_eq hm, hnone] at hname
    cases hname

end Context.Of

theorem Context.variantArms_arms (c : Context) : variantArms c.arms = c.variants.map .variant := by
  rw [variantArms, ← c.keys_arms, Table.keys, List.map_map]
  rfl

/-- For every definition with distinct values: in both languages, with every configuration, its
code is emitted, and all lists of variants in the code are the same. -/
theorem one_list_of_variants {d : Definition} (hdistinct : (d.members.map (·.value)).Nodup) :
    (∀ {config : Config} {g : Generator},
      Generator.ofConfig Rust.backend config none = .ok g →
      (Rust.Emittable g.plan d → ∃ code, Yields (Rust.single g.plan d) code) ∧
      ∀ {code : Text} {register register' : Register} {j j' : Journal},
        (Rust.single g.plan d).run register j = ((.ok code, register'), j') →
        ∃ members arms, Listing g.plan d members arms ∧
          Rust.readDeclared (g.plan.typeName d.name) code = some (variantArms arms ++ [.catchAll]) ∧
          Rust.readConverted (g.plan.typeName d.name) code = some (variantArms arms ++ [.catchAll]) ∧
          Rust.readMatched (g.plan.typeName d.name) code = some (variantArms arms ++ [.catchAll]) ∧
          Rust.readExample (g.plan.typeName d.name) code =
            some (variantArms arms ++ [.guard (Rust.placeholder members), .default]) ∧
          Rust.readFrom (g.plan.typeName d.name) code = some (arms.map Prod.swap) ∧
          Rust.readAsStr (g.plan.typeName d.name) code = some arms) ∧
    ∀ {config : Config} {g : Generator},
      Generator.ofConfig Python.backend config none = .ok g →
      (Python.Emittable g.plan d → ∃ code, Yields (Python.single g.plan d) code) ∧
      ∀ {code : Text} {register register' : Register} {j j' : Journal},
        (Python.single g.plan d).run register j = ((.ok code, register'), j') →
        ∃ members arms, Listing g.plan d members arms ∧
          Python.readDeclared (g.plan.typeName d.name) code = some (variantArms arms) ∧
          Python.readAssigned (g.plan.typeName d.name) code = some (variantArms arms) ∧
          Python.readConverted (g.plan.typeName d.name) code =
            some (variantArms arms ++ [.catchAll]) ∧
          Python.readExample (g.plan.typeName d.name) code =
            some (variantArms arms ++
              [.guard (Python.placeholder g.plan.settings.variantCase members), .default]) ∧
          Python.readConversion (g.plan.typeName d.name) code = some (arms.map Prod.swap) ∧
          Python.readConstants (g.plan.typeName d.name) code =
            some (arms.map fun arm => (arm.1, arm)) := by
  refine ⟨fun {config g} hg => ?_, fun {config g} hg => ?_⟩
  all_goals
    obtain ⟨-, hp⟩ := Generator.ofConfig_ok hg
  · refine ⟨Rust.single_yields hp, fun {code register register' j j'} hrun => ?_⟩
    obtain ⟨c, hc, h⟩ := Rust.shows_of_single hp hrun
    rw [← hc.typeName]
    refine ⟨c.members, c.arms, hc.listing hdistinct, ?_⟩
    rw [c.variantArms_arms]
    exact ⟨h.declared, h.converted, h.matched, h.documented, h.cases, h.arms⟩
  · have hv : g.plan.memberVocabulary.EndsInLetters :=
      hp.memberVocabulary ▸ endsInLetters_pythonMembers
    refine ⟨Python.single_yields hp hv, fun {code register register' j j'} hrun => ?_⟩
    obtain ⟨c, hc, h⟩ := Python.shows_of_single hp hrun
    rw [← hc.typeName]
    refine ⟨c.members, c.arms, hc.listing hdistinct, ?_⟩
    rw [c.variantArms_arms]
    exact ⟨h.declared, h.assigned, h.converted, h.documented, h.cases, h.constants⟩

/-- A value without a letter or digit, before two that have some. -/
def partlyNamed : Definition := ⟨"Level", [.ofValue "--", .ofValue "High", .ofValue "low"], .null⟩

/-- The members of that enum by value. -/
def partlyNamedMembers : List Member :=
  [.ofValue "--", (Member.ofValue "High").withIdentifier (some "High"),
    (Member.ofValue "low").withIdentifier (some "Low")]

theorem variantArms_partlyNamed {p : Plan} {members : List Member} {arms : List (Text × Text)}
    (hmembers : p.namedMembers partlyNamed = .ok partlyNamedMembers)
    (h : Listing p partlyNamed members arms) :
    variantArms arms = [.variant "High", .variant "Low"] := by
  obtain rfl : partlyNamedMembers = members := Except.ok.inj (hmembers.symm.trans h.derived)
  rw [h.named]
  rfl

theorem partly_named_listed :
    (∃ g code, Generator.ofConfig Rust.backend .standard none = .ok g ∧
      Yields (Rust.single g.plan partlyNamed) code ∧
      Rust.readDeclared (g.plan.typeName "Level") code =
        some [.variant "High", .variant "Low", .catchAll]) ∧
    ∃ g code, Generator.ofConfig Python.backend .standard none = .ok g ∧
      Yields (Python.single g.plan partlyNamed) code ∧
      Python.readDeclared (g.plan.typeName "Level") code =
        some [.variant "High", .variant "Low"] := by
  have hvalues : ∀ m ∈ partlyNamed.members, ∃ value, m = .ofValue value := by
    simp only [partlyNamed, List.forall_mem_cons]
    exact ⟨⟨_, rfl⟩, ⟨_, rfl⟩, ⟨_, rfl⟩, List.forall_mem_nil _⟩
  have hplain : partlyNamed.IsPlain := Definition.isPlain_of_values hvalues rfl
  have hletter : ∃ m ∈ partlyNamed.members, m.hasLetter = true :=
    ⟨.ofValue "low", by simp [partlyNamed], rfl⟩
  have hsorted : sortMembers partlyNamed.members = partlyNamed.members :=
    sortMembers_of_pairwise (by decide)
  obtain ⟨hrust, hpython⟩ := one_list_of_variants (d := partlyNamed) (by decide)
  constructor
  · obtain ⟨g, hg, hmembers⟩ : ∃ g, Generator.ofConfig Rust.backend .standard none = .ok g ∧
        g.plan.namedMembers partlyNamed = .ok partlyNamedMembers := by
      refine ⟨_, rfl, ?_⟩
      rw [Plan.namedMembers, deriveMembers, hsorted]
      rfl
    obtain ⟨-, hp⟩ := Generator.ofConfig_ok hg
    obtain ⟨hemitted, hlisted⟩ := hrust hg
    obtain ⟨code, hcode⟩ :=
      hemitted (Rust.emittable_of_isPlain hp Config.canWrite_standard hplain hletter)
    obtain ⟨register, j, hrun⟩ := hcode [] #[]
    obtain ⟨members, arms, hlisting, hdeclared, -⟩ := hlisted hrun
    rw [variantArms_partlyNamed hmembers hlisting] at hdeclared
    exact ⟨g, code, hg, hcode, hdeclared⟩
  · obtain ⟨g, hg, hmembers⟩ : ∃ g, Generator.ofConfig Python.backend .standard none = .ok g ∧
        g.plan.namedMembers partlyNamed = .ok partlyNamedMembers := by
      refine ⟨_, rfl, ?_⟩
      rw [Plan.namedMembers, deriveMembers, hsorted]
      rfl
    obtain ⟨-, hp⟩ := Generator.ofConfig_ok hg
    obtain ⟨hemitted, hlisted⟩ := hpython hg
    obtain ⟨code, hcode⟩ :=
      hemitted (Python.emittable_of_isPlain hp Config.canWrite_standard hplain hletter)
    obtain ⟨register, j, hrun⟩ := hcode [] #[]
    obtain ⟨members, arms, hlisting, hdeclared, -⟩ := hlisted hrun
    rw [variantArms_partlyNamed hmembers hlisting] at hdeclared
    exact ⟨g, code, hg, hcode, hdeclared⟩

end CatchAll.Target
