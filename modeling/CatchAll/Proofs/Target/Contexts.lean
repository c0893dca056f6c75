import CatchAll.Generator
import CatchAll.Proofs.Naming.MemberNames
import CatchAll.Proofs.Table
import CatchAll.Proofs.Target.Emission

/-!
# What a context holds

The context of an enum has all members of its definition, in canonical order and
with identifiers of their own. Values that are distinct in the definition are
distinct in the context, so a named member can be found by its value as well as
by its variant.
-/

set_option autoImplicit false

namespace CatchAll

open scoped Text
open Schema Target Naming Outcome

theorem Config.check_ok {config : Config} {settings : Settings}
    (h : config.check = .ok settings) :
    settings.config = config ∧ Config.isBelowOne config.indentSize = .ok false := by
  obtain ⟨typeCase, -, h⟩ := bind_eq_ok.mp h
  obtain ⟨variantCase, -, h⟩ := bind_eq_ok.mp h
  split at h
  · cases h
  · cases h
  · obtain rfl : (⟨config, typeCase, variantCase⟩ : Settings) = settings := Except.ok.inj h
    exact ⟨rfl, ‹_›⟩

/-- The plan of a backend for a configuration. -/
structure Target.Backend.Plans (b : Backend) (config : Config) (p : Plan) : Prop where
  decoration : b.decorationOf config = .ok p.decoration
  config_eq : p.config = config
  indent : Config.isBelowOne config.indentSize = .ok false
  policy : p.policy = b.policy
  vocabulary : p.vocabulary = b.vocabulary
  memberVocabulary : p.memberVocabulary = b.memberVocabulary
  docMark : p.docMark = b.docMark
  shelf : p.shelf = b.shelf

theorem Generator.ofConfig_ok {b : Backend} {config : Config} {g : Generator}
    (h : Generator.ofConfig b config none = .ok g) : g.backend = b ∧ b.Plans config g.plan := by
  obtain ⟨p, hp, hdone⟩ := bind_eq_ok.mp h
  obtain rfl : (⟨b, p⟩ : Generator) = g := Except.ok.inj hdone
  obtain ⟨decoration, hdecoration, hp⟩ := bind_eq_ok.mp hp
  obtain ⟨settings, hsettings, hp⟩ := bind_eq_ok.mp hp
  obtain ⟨hconfig, hindent⟩ := Config.check_ok hsettings
  cases hp
  exact ⟨rfl, hdecoration, hconfig, hindent, rfl, rfl, rfl, rfl, rfl⟩

/-! ## Contexts -/

namespace Target

/-- The context of a definition: all its members in canonical order, each with the
identifier that it got. -/
structure Context.Of (p : Plan) (d : Definition) (c : Context) : Prop where
  typeName : c.typeName = p.typeName d.name
  decoration : c.decoration = p.decoration
  derived : p.namedMembers d = .ok c.members
  members : c.members.map bare = (sortMembers d.members).map bare
  apart : NamedApart p.memberVocabulary p.policy.reserved c.members
  named : c.named ≠ []

theorem Plan.buildContext_ok {p : Plan} {d : Definition} {c : Context}
    {register register' : Register} {j j' : Journal}
    (hv : p.memberVocabulary.EndsInLetters)
    (h : (p.buildContext d).run register j = ((.ok c, register'), j')) : c.Of p d := by
  obtain ⟨context, register₁, j₁, hcontext, h⟩ := Emission.run_bind_ok.mp h
  obtain ⟨hcontext, -, -⟩ := Emission.run_ofOutside_ok.mp hcontext
  obtain ⟨members, hmembers, hdone⟩ := bind_eq_ok.mp hcontext
  obtain ⟨hbare, hapart⟩ := deriveMembers_apart hv hmembers
  obtain rfl : Context.ofMembers (p.typeName d.name) members p.decoration = context :=
    Except.ok.inj hdone
  have hsorted : sortMembers members = members :=
    sortMembers_of_pairwise (pairwise_of_bare hbare)
  split at h
  · cases h
  · rename_i hsome
    obtain ⟨-, register₂, j₂, -, h⟩ := Emission.run_bind_ok.mp h
    obtain ⟨rfl, -, -⟩ := Emission.run_pure_ok.mp h
    refine ⟨rfl, rfl, ?_, ?_, ?_, ?_⟩
    · rw [Context.ofMembers, hsorted]
      exact hmembers
    · exact (congrArg (List.map bare) hsorted).trans hbare
    · rw [Context.ofMembers, hsorted]
      exact hapart
    · exact fun hnone => hsome (List.isEmpty_iff.mpr hnone)

theorem yields_notes (typeName : Text) (members : List Member) :
    Emission.Yields
      (forIn members PUnit.unit fun m _ => do
        note .warning Plan.speaker (Plan.unnamedNote typeName m.value)
        pure (ForInStep.yield PUnit.unit)) PUnit.unit := by
  induction members with
  | nil => exact Emission.yields_pure _
  | cons m members ih =>
    rw [List.forIn_cons]
    refine Emission.Yields.bind (a := ForInStep.yield PUnit.unit) ?_ ih
    intro register j
    exact ⟨register, _, rfl⟩

theorem Plan.buildContext_yields_of {p : Plan} {d : Definition} {c : Context}
    (hcontext : p.contextOf d = .ok c) (hnamed : c.named ≠ []) :
    Emission.Yields (p.buildContext d) c := by
  refine (Emission.yields_ofOutside hcontext).bind ?_
  dsimp only
  rw [if_neg (by simpa using hnamed)]
  exact (yields_notes _ _).bind (Emission.yields_pure _)

/-- A definition with texts for names has a context once some name has a letter or digit. -/
theorem Plan.buildContext_yields {p : Plan} {d : Definition}
    (hv : p.memberVocabulary.EndsInLetters)
    (htext : ∀ m ∈ d.members, ∃ t, m.source = .str t)
    (hletters : ∃ m ∈ d.members, ∃ c ∈ m.source.shown, c.isAlphanum = true) :
    ∃ c, Emission.Yields (p.buildContext d) c := by
  have hsorted := sortMembers_perm d.members
  obtain ⟨members, hmembers⟩ : ∃ members, p.namedMembers d = .ok members :=
    nameMembers_ok (fun m hm => htext m (hsorted.mem_iff.mp hm)) _
  obtain ⟨hbare, hapart⟩ := deriveMembers_apart hv hmembers
  have hcontext : p.contextOf d =
      .ok (Context.ofMembers (p.typeName d.name) members p.decoration) :=
    bind_eq_ok.mpr ⟨members, hmembers, rfl⟩
  have hnamed : (Context.ofMembers (p.typeName d.name) members p.decoration).named ≠ [] := by
    obtain ⟨m, hm, x, hx, hletter⟩ := hletters
    have hmem : bare m ∈ members.map bare :=
      hbare ▸ List.mem_map_of_mem (hsorted.mem_iff.mpr hm)
    obtain ⟨m', hm', hsame⟩ := List.mem_map.mp hmem
    have hsource : (bare m').source = (bare m).source := congrArg Member.source hsame
    have hsome : m'.identifier ≠ none := by
      intro hnone
      have hx' : x ∈ (bare m').source.shown := hsource ▸ hx
      have hno := (hapart.unnamed m' hm').mp hnone x hx'
      rw [hletter] at hno
      cases hno
    obtain ⟨t, ht⟩ := Option.ne_none_iff_exists'.mp hsome
    have hne := (hapart.fit m' hm' t ht).2.1.ne_nil
    refine List.ne_nil_of_mem (List.mem_filter.mpr
      ⟨(sortMembers_perm members).mem_iff.mpr hm', ?_⟩)
    simp [Member.isNamed, Member.variant?, ht, hne]
  exact ⟨_, Plan.buildContext_yields_of hcontext hnamed⟩

/-! ## Members of a context -/

/-- A name that a member can have. -/
structure FitsVariant (name : Text) : Prop where
  isName : IsName name
  notCatchAll : name ≠ catchAllName

theorem lineFeed_not_mem_of_isName {name : Text} (h : IsName name) : '\n' ∉ name :=
  fun hmem => absurd (h.chars '\n' hmem) (by decide)

theorem Context.mem_arms {c : Context} {name value : Text} :
    (name, value) ∈ c.arms ↔ ∃ m ∈ c.members, m.variant? = some name ∧ m.value = value := by
  simp [arms]

theorem Context.keys_arms (c : Context) : Table.keys c.arms = c.variants := by
  rw [Table.keys, arms, List.map_filterMap, variants]
  refine List.filterMap_congr fun m _ => ?_
  cases m.variant? <;> rfl

theorem Context.arms_eq_map_named (c : Context) :
    c.arms = c.named.map fun m => (m.identifier.getD [], m.value) := by
  rw [Context.arms, Context.named]
  induction c.members with
  | nil => rfl
  | cons m members ih =>
    rw [List.filterMap_cons, List.filter_cons, Member.isNamed]
    cases hvariant : m.variant? with
    | none => exact ih
    | some name =>
      obtain ⟨hname, -⟩ := Option.filter_eq_some_iff.mp hvariant
      have hhead : (m.identifier.getD [], m.value) = (name, m.value) := by rw [hname]; rfl
      rw [ih]
      exact congrArg (· :: _) hhead.symm

theorem Context.variants_eq_map_named (c : Context) :
    c.variants = c.named.map fun m => m.identifier.getD [] := by
  rw [← c.keys_arms, c.arms_eq_map_named, Table.keys, List.map_map]
  rfl

theorem Context.keys_swap_arms (c : Context) :
    (Table.keys (c.arms.map Prod.swap)).Sublist c.values := by
  have hkeys : Table.keys (c.arms.map Prod.swap) = c.named.map (·.value) := by
    rw [Table.keys, List.map_map, c.arms_eq_map_named, List.map_map]
    rfl
  rw [hkeys]
  exact (List.filter_sublist).map _

namespace Context.Of

variable {p : Plan} {d : Definition} {c : Context}

/-- It is the one that is built. -/
theorem built (h : c.Of p d) : Emission.Yields (p.buildContext d) c := by
  have hsorted : sortMembers c.members = c.members :=
    sortMembers_of_pairwise (pairwise_of_bare h.members)
  have hcontext : p.contextOf d = .ok c := by
    rw [Plan.contextOf, h.derived, ← h.typeName, ← h.decoration]
    show Except.ok (Context.ofMembers _ _ _) = _
    rw [Context.ofMembers, hsorted]
  exact Plan.buildContext_yields_of hcontext h.named

theorem values (h : c.Of p d) : c.values = (sortMembers d.members).map (·.value) := by
  have hvalues := congrArg (List.map Member.value) h.members
  rw [List.map_map, List.map_map] at hvalues
  exact hvalues

/-- But for its identifier a member is one of the definition. -/
theorem exists_member (h : c.Of p d) {m : Member} (hm : m ∈ c.members) :
    ∃ m' ∈ d.members, bare m' = bare m := by
  have hmem : bare m ∈ (sortMembers d.members).map bare := h.members ▸ List.mem_map_of_mem hm
  obtain ⟨m', hm', hsame⟩ := List.mem_map.mp hmem
  exact ⟨m', (sortMembers_perm d.members).mem_iff.mp hm', hsame⟩

theorem values_nodup (h : c.Of p d) (hdistinct : (d.members.map (·.value)).Nodup) :
    c.values.Nodup := by
  rw [h.values]
  exact ((sortMembers_perm d.members).map _).nodup_iff.mpr hdistinct

theorem values_ne_nil (h : c.Of p d) : c.values ≠ [] := by
  obtain ⟨m, hm⟩ := List.exists_mem_of_ne_nil _ h.named
  exact List.ne_nil_of_mem (List.mem_map_of_mem (List.mem_filter.mp hm).1)

theorem isName_typeName (h : c.Of p d) (hv : p.vocabulary.EndsInLetters) : IsName c.typeName := by
  rw [h.typeName]
  exact isName_nameOf hv d.name p.settings.typeCase

/-- Identifiers are names, so none of them is dropped as empty. -/
theorem variant?_eq (h : c.Of p d) {m : Member} (hm : m ∈ c.members) :
    m.variant? = m.identifier := by
  rw [Member.variant?]
  cases hidentifier : m.identifier with
  | none => rfl
  | some t =>
    have hname := (h.apart.fit m hm t hidentifier).2.1.ne_nil
    exact Option.filter_some_pos (decide_eq_true hname)

theorem variants_nodup (h : c.Of p d) : c.variants.Nodup := by
  have hvariants : c.variants = c.members.filterMap (·.identifier) :=
    List.filterMap_congr fun m hm => h.variant?_eq hm
  rw [hvariants]
  exact h.apart.distinct

theorem isName_variants (h : c.Of p d) : ∀ v ∈ c.variants, IsName v := by
  intro v hv
  obtain ⟨m, hm, hname⟩ := List.mem_filterMap.mp hv
  exact (h.apart.fit m hm v ((h.variant?_eq hm).symm.trans hname)).2.1

variable {name value : Text}

theorem fits (h : c.Of p d) (hreserved : p.policy.reserved = [catchAllName]) :
    ∀ arm ∈ c.arms, FitsVariant arm.1 := by
  rintro ⟨name, value⟩ harm
  obtain ⟨m, hm, hname, -⟩ := Context.mem_arms.mp harm
  obtain ⟨hnew, hisName, -⟩ := h.apart.fit m hm name ((h.variant?_eq hm).symm.trans hname)
  rw [hreserved, List.mem_singleton] at hnew
  exact ⟨hisName, hnew⟩

/-- The value of a variant is that of the one member which has it. -/
theorem get?_arms (h : c.Of p d) : Table.get? name c.arms = some value ↔
    ∃ m ∈ c.members, m.value = value ∧ m.identifier = some name := by
  rw [Table.get?_eq_some (c.keys_arms ▸ h.variants_nodup), Context.mem_arms]
  constructor
  · rintro ⟨m, hm, hname, hvalue⟩
    exact ⟨m, hm, hvalue, (h.variant?_eq hm).symm.trans hname⟩
  · rintro ⟨m, hm, hvalue, hname⟩
    exact ⟨m, hm, (h.variant?_eq hm).trans hname, hvalue⟩

/-- The variant of a value is that of the one member which has it. -/
theorem get?_swap_arms (h : c.Of p d) (hdistinct : (d.members.map (·.value)).Nodup) :
    Table.get? value (c.arms.map Prod.swap) = some name ↔
      ∃ m ∈ c.members, m.value = value ∧ m.identifier = some name := by
  have hkeys := (h.values_nodup hdistinct).sublist c.keys_swap_arms
  have hswap : (value, name) ∈ c.arms.map Prod.swap ↔ (name, value) ∈ c.arms := by
    simp
  rw [Table.get?_eq_some hkeys, hswap, ← h.get?_arms,
    Table.get?_eq_some (c.keys_arms ▸ h.variants_nodup)]

/-- A value without a variant is that of a member without an identifier, or of none. -/
theorem get?_swap_arms_eq_none (h : c.Of p d) (hdistinct : (d.members.map (·.value)).Nodup)
    (value : Text) :
    Table.get? value (c.arms.map Prod.swap) = none ↔
      ∀ m ∈ c.members, m.value = value → m.identifier = none := by
  rw [Option.eq_none_iff_forall_ne_some]
  constructor
  · intro hnone m hm hvalue
    rw [Option.eq_none_iff_forall_ne_some]
    exact fun name hname => hnone name ((h.get?_swap_arms hdistinct).mpr ⟨m, hm, hvalue, hname⟩)
  · intro hall name hget
    obtain ⟨m, hm, hvalue, hname⟩ := (h.get?_swap_arms hdistinct).mp hget
    rw [hall m hm hvalue] at hname
    cases hname

end Context.Of

end Target

end CatchAll
