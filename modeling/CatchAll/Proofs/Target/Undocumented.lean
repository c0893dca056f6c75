import CatchAll.Generator
import CatchAll.Proofs.Outcome
import Mathlib.Data.List.Basic

/-!
# Without documentation

Definitions, and the configuration of a module, with all documentation taken
away. Names, warnings and what a policy knows about an enum stay as they are:
none of them looks at a documentation.
-/

set_option autoImplicit false

namespace CatchAll

open scoped Text
open Schema Target Outcome

/-! ## Definitions -/

namespace Schema

def Member.undocumented (m : Member) : Member := { m with documentation := .null }

def Definition.undocumented (d : Definition) : Definition :=
  { d with members := d.members.map Member.undocumented, documentation := .null }

theorem sortMembers_undocumented (members : List Member) :
    sortMembers (members.map Member.undocumented) =
      (sortMembers members).map Member.undocumented :=
  (List.map_mergeSort (r := valueLe) (s := valueLe) (f := Member.undocumented)
    fun _ _ _ _ => rfl).symm

end Schema

namespace Naming

theorem memberIdentifier_undocumented (reserved : List Text) (case : Case) (s : Sanitizer)
    (m : Member) :
    memberIdentifier reserved case s m.undocumented = memberIdentifier reserved case s m := rfl

theorem nameMembers_undocumented (reserved : List Text) (case : Case) (s : Sanitizer)
    (members : List Member) :
    nameMembers reserved case s (members.map Member.undocumented) =
      (nameMembers reserved case s members).map (List.map Member.undocumented) := by
  induction members generalizing s with
  | nil => rfl
  | cons m members ih =>
    rw [List.map_cons, nameMembers, nameMembers, memberIdentifier_undocumented]
    cases memberIdentifier reserved case s m with
    | error o => rfl
    | ok named =>
      obtain ⟨identifier, s'⟩ := named
      show (do
        let rest ← nameMembers reserved case s' (members.map Member.undocumented)
        return m.undocumented.withIdentifier identifier :: rest) =
        (do
          let rest ← nameMembers reserved case s' members
          return m.withIdentifier identifier :: rest : Except Outside (List Member)).map _
      rw [ih s']
      cases nameMembers reserved case s' members <;> rfl

end Naming

/-! ## Contexts -/

namespace Target

def Context.undocumented (c : Context) : Context :=
  { c with members := c.members.map Member.undocumented }

namespace Context

variable (c : Context)

@[simp] theorem named_undocumented :
    c.undocumented.named = c.named.map Member.undocumented := List.filter_map

@[simp] theorem unnamed_undocumented :
    c.undocumented.unnamed = c.unnamed.map Member.undocumented := List.filter_map

@[simp] theorem arms_undocumented : c.undocumented.arms = c.arms := List.filterMap_map

@[simp] theorem variants_undocumented : c.undocumented.variants = c.variants :=
  List.filterMap_map

@[simp] theorem values_undocumented : c.undocumented.values = c.values := List.map_map

end Context

theorem choosePlaceholder_undocumented (members : List Member) (base : Text)
    (variant : Option (Text → Text)) :
    choosePlaceholder (members.map Member.undocumented) base variant =
      choosePlaceholder members base variant := by
  have htaken : taken (members.map Member.undocumented) = taken members := by
    rw [taken, List.flatMap_map]
    rfl
  rw [choosePlaceholder, choosePlaceholder, htaken, List.length_map]

theorem Policy.placeholder_undocumented (case : Naming.Case) (policy : Policy)
    (members : List Member) :
    policy.placeholder case (members.map Member.undocumented) =
      policy.placeholder case members := by
  cases policy <;> exact choosePlaceholder_undocumented members _ _

end Target

/-! ## Configurations and plans -/

/-- A configuration without documentation for the module. -/
def Config.undocumented (c : Config) : Config :=
  { c with
    custom := match c.custom with
      | .obj fields => .obj (Table.erase "module_docs" fields)
      | other => other }

theorem Config.custom_undocumented {c : Config} {fields : Fields} (h : c.custom = .obj fields) :
    c.undocumented.custom = .obj (Table.erase "module_docs" fields) := by
  rw [undocumented, h]

/-- Settings that are no object have no documentation. -/
theorem Config.undocumented_of_ne {c : Config} (h : ∀ fields, c.custom ≠ .obj fields) :
    c.undocumented = c := by
  obtain ⟨_, _, _, _, _, _, _, _, _, custom⟩ := c
  cases custom with
  | obj fields => exact absurd rfl (h fields)
  | _ => rfl

theorem Config.check_undocumented (c : Config) :
    c.undocumented.check =
      c.check.map fun settings => { settings with config := settings.config.undocumented } := by
  rw [check, check, show c.undocumented.typeCase = c.typeCase from rfl,
    show c.undocumented.variantCase = c.variantCase from rfl,
    show c.undocumented.indentSize = c.indentSize from rfl]
  cases checkCase "type_case" c.typeCase with
  | error e => rfl
  | ok typeCase =>
    cases checkCase "variant_case" c.variantCase with
    | error e => rfl
    | ok variantCase =>
      cases isBelowOne c.indentSize with
      | error o => rfl
      | ok below => cases below <;> rfl

theorem Target.customFields_obj {c : Config} {fields : Fields} (h : c.custom = .obj fields) :
    customFields c = .ok fields := by
  rw [customFields, h]
  cases fields <;> rfl

/-- The decoration is taken from other settings. -/
theorem Target.Rust.decorationOf_undocumented (c : Config) :
    Rust.decorationOf c.undocumented = Rust.decorationOf c := by
  by_cases h : ∃ fields, c.custom = .obj fields
  · obtain ⟨fields, hcustom⟩ := h
    have hderives : Table.get? "derives" (Table.erase "module_docs" fields) =
        Table.get? "derives" fields := by
      rw [Table.get?_erase, if_neg (by decide)]
    have hvisibility : Table.get? "visibility" (Table.erase "module_docs" fields) =
        Table.get? "visibility" fields := by
      rw [Table.get?_erase, if_neg (by decide)]
    rw [decorationOf, decorationOf, customFields_obj (Config.custom_undocumented hcustom),
      customFields_obj hcustom]
    simp only [bind, Except.bind, hderives, hvisibility]
  · rw [Config.undocumented_of_ne fun fields hcustom => h ⟨fields, hcustom⟩]

def Target.Plan.undocumented (p : Plan) : Plan :=
  { p with settings := { p.settings with config := p.settings.config.undocumented } }

def Generator.undocumented (g : Generator) : Generator := { g with plan := g.plan.undocumented }

theorem Generator.ofConfig_undocumented {config : Config} {g : Generator}
    (h : ofConfig Rust.backend config none = .ok g) :
    ofConfig Rust.backend config.undocumented none = .ok g.undocumented := by
  obtain ⟨p, hp, hdone⟩ := bind_eq_ok.mp h
  obtain rfl : (⟨Rust.backend, p⟩ : Generator) = g := Except.ok.inj hdone
  obtain ⟨decoration, hdecoration, hp⟩ := bind_eq_ok.mp hp
  obtain ⟨settings, hsettings, hp⟩ := bind_eq_ok.mp hp
  cases hp
  have hdecoration' : Rust.backend.decorationOf config.undocumented = .ok decoration := by
    rw [← hdecoration]
    show (do return some (← Rust.decorationOf config.undocumented)) =
      (do return some (← Rust.decorationOf config))
    rw [Rust.decorationOf_undocumented]
  have hsettings' : config.undocumented.check =
      .ok { settings with config := settings.config.undocumented } := by
    rw [Config.check_undocumented, hsettings]
    rfl
  refine bind_eq_ok.mpr ⟨_, bind_eq_ok.mpr ⟨decoration, hdecoration', ?_⟩, rfl⟩
  exact bind_eq_ok.mpr ⟨_, hsettings', rfl⟩

namespace Target.Plan

variable (p : Plan) (d : Definition)

@[simp] theorem surroundings_undocumented : p.undocumented.surroundings = p.surroundings := rfl

theorem namedMembers_undocumented :
    p.undocumented.namedMembers d.undocumented =
      (p.namedMembers d).map (List.map Member.undocumented) := by
  rw [namedMembers, namedMembers, Naming.deriveMembers, Naming.deriveMembers,
    ← Naming.nameMembers_undocumented, ← sortMembers_undocumented]
  rfl

theorem contextOf_undocumented :
    p.undocumented.contextOf d.undocumented = (p.contextOf d).map Context.undocumented := by
  rw [contextOf, contextOf, namedMembers_undocumented]
  cases p.namedMembers d with
  | error o => rfl
  | ok members =>
    refine congrArg Except.ok ?_
    rw [Context.ofMembers, Context.ofMembers, sortMembers_undocumented]
    rfl

end Target.Plan

/-! ## Warnings -/

namespace Generator

theorem enumWarnings_undocumented (p : Plan) (before : List (Text × Text)) (d : Definition) :
    enumWarnings p.undocumented before d.undocumented = enumWarnings p before d := by
  rw [enumWarnings, enumWarnings, Plan.namedMembers_undocumented]
  cases p.namedMembers d with
  | error o => rfl
  | ok members =>
    have hmembers : (members.map Member.undocumented).flatMap (memberWarnings d.name) =
        members.flatMap (memberWarnings d.name) := List.flatMap_map _ _ _
    have hplaceholder := Policy.placeholder_undocumented p.settings.variantCase p.policy members
    show Except.ok (nameWarnings before (p.typeName d.name) d.name ++
      (members.map Member.undocumented).flatMap (memberWarnings d.name) ++
      placeholderWarnings d.name
        (p.policy.placeholder p.settings.variantCase (members.map Member.undocumented))) = _
    rw [hmembers, hplaceholder]
    rfl

theorem enumsWarnings_undocumented (p : Plan) (before : List (Text × Text))
    (enums : List Definition) :
    enumsWarnings p.undocumented before (enums.map Definition.undocumented) =
      enumsWarnings p before enums := by
  induction enums generalizing before with
  | nil => rfl
  | cons d enums ih =>
    have hrest := ih (before ++ [(p.typeName d.name, d.name)])
    rw [List.map_cons, enumsWarnings, enumsWarnings, enumWarnings_undocumented, ← hrest]
    rfl

theorem metadata_undocumented (g : Generator) (enums : List Definition) :
    g.undocumented.metadata (enums.map Definition.undocumented) = g.metadata enums := by
  have hmembers : ((enums.map Definition.undocumented).flatMap (·.members)).length =
      (enums.flatMap (·.members)).length := by
    rw [List.flatMap_map, List.length_flatMap, List.length_flatMap]
    simp only [Definition.undocumented, List.length_map]
  rw [metadata, metadata, hmembers, List.length_map]
  rfl

end Generator

end CatchAll
