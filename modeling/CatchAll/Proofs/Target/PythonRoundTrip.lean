import CatchAll.Proofs.Target.PythonEmission

/-!
# Texts survive a Python class

A text converted to an instance of the generated class and back is the same text.
The value of a named member becomes the constant of that member, with the name of
that member, and every other text is held by the catch-all as it is.
-/

set_option autoImplicit false

namespace CatchAll.Target.Python

open scoped Text
open Naming Schema Outcome Emission

variable {config : Config} {p : Plan} {d : Definition} {c : Context}

theorem indentUnit_ok {unit : Text} (hsize : Config.isBelowOne config.indentSize = .ok false)
    (h : config.indentUnit = .ok unit) : unit ≠ [] ∧ IsMargin unit := by
  have hspaces : ∀ size : Int, ¬ size < 1 → Config.spaces size = .ok unit →
      unit ≠ [] ∧ IsMargin unit := by
    intro size hsize hunit
    rw [Config.spaces] at hunit
    split at hunit
    · cases hunit
    · obtain rfl := Except.ok.inj hunit
      constructor
      · simp
        omega
      · intro x hx
        rw [List.eq_of_mem_replicate hx]
        rfl
  rw [Config.indentUnit] at h
  split at h
  · obtain rfl := Except.ok.inj h
    refine ⟨by simp, fun x hx => ?_⟩
    rw [List.mem_singleton.mp hx]
    rfl
  · split at h
    · rename_i size hint
      rw [hint] at hsize
      exact hspaces size (by simpa [Config.isBelowOne] using hsize) h
    · rename_i b hbool
      rw [hbool] at hsize
      cases b with
      | false => cases hsize
      | true => exact hspaces 1 (by decide) h
    · cases h

/-- The lines of a layout begin with blanks, if they are indented. -/
theorem layout_margin {b : Backend} {layout : Layout} (hp : b.Plans config p)
    (h : p.layout = .ok layout) :
    layout.unit ≠ [] ∧ IsMargin layout.unit ∧ layout.docMark = b.docMark := by
  obtain ⟨unit, hunit, hdone⟩ := bind_eq_ok.mp h
  obtain rfl := Except.ok.inj hdone
  rw [hp.config_eq] at hunit
  obtain ⟨hne, hmargin⟩ := indentUnit_ok hp.indent hunit
  exact ⟨hne, hmargin, hp.docMark⟩

theorem isName_typeName (hp : backend.Plans config p) (hc : c.Of p d) : IsName c.typeName := by
  refine hc.isName_typeName ?_
  rw [hp.vocabulary]
  decide

theorem fits_arms (hp : backend.Plans config p) (hc : c.Of p d) :
    ∀ arm ∈ c.arms, FitsVariant arm.1 := by
  refine hc.fits ?_
  rw [hp.policy]
  rfl

/-- What a class has of its own is the catch-all, a name that members avoid, or begins with
an underscore as no name of a member does. -/
theorem ownNames_taken : ∀ own ∈ ownNames, own = catchAllName ∨
    memberVocabulary.claims own = true ∨
    own.head? = some '_' ∧ own.tail.head?.any Char.isDigit = false := by
  decide +kernel

theorem not_mem_ownNames {name : Text} (h : FitsVariant name)
    (hfree : memberVocabulary.claims name = false) : name ∉ ownNames := by
  intro hmem
  rcases ownNames_taken name hmem with hcatchAll | hclaimed | ⟨hunderscore, hdigit⟩
  · exact h.notCatchAll hcatchAll
  · rw [hfree] at hclaimed
    cases hclaimed
  · obtain ⟨rest, rfl⟩ : ∃ rest, name = '_' :: rest :=
      ⟨name.tail, (List.cons_head?_tail hunderscore).symm⟩
    have hguarded := h.isName.guarded rest rfl
    rw [List.tail_cons, hguarded] at hdigit
    cases hdigit

theorem single_ok {code : Text} {register register' : Register} {j j' : Journal}
    (hv : p.memberVocabulary.EndsInLetters) (hpolicy : p.policy = .python)
    (h : (single p d).run register j = ((.ok code, register'), j')) :
    ∃ c, c.Of p d ∧ ∃ register₁ j₁,
      (classText p d c).run register₁ j₁ = ((.ok code, register'), j') := by
  obtain ⟨c, _, _, hcontext, h⟩ := run_bind_ok.mp h
  obtain ⟨-, register₁, j₁, -, h⟩ := run_bind_ok.mp h
  rw [hpolicy] at h
  exact ⟨c, Plan.buildContext_ok hv hcontext, register₁, j₁, h⟩

/-! ## The conversions of a context -/

/-- The converter that a class for the context reads as. -/
def converterOf (c : Context) : Converter :=
  ⟨c.arms.map Prod.swap, Table.ofPairs (c.arms.map fun arm => (arm.1, arm))⟩

/-- No constant is overwritten, so each is found under its name. -/
theorem get?_constants (hc : c.Of p d) {name value : Text} (h : (name, value) ∈ c.arms) :
    Table.get? name (converterOf c).constants = some (name, value) := by
  have hkeys : Table.keys (c.arms.map fun arm => (arm.1, arm)) = c.variants := by
    rw [← c.keys_arms, Table.keys, Table.keys, List.map_map]
    rfl
  have hnodup : (Table.keys (c.arms.map fun arm => (arm.1, arm))).Nodup :=
    hkeys ▸ hc.variants_nodup
  have hget : Table.get? name (c.arms.map fun arm => (arm.1, arm)) = some (name, value) :=
    (Table.get?_eq_some hnodup).mpr (List.mem_map.mpr ⟨(name, value), h, rfl⟩)
  show Table.get? name (Table.putAll _ []) = _
  rw [Table.get?_putAll hnodup, hget]
  rfl

/-- A text is converted by the case that it has, and there always is the constant. -/
theorem fromStr?_converterOf (hc : c.Of p d) (s : Text) :
    (converterOf c).fromStr? s = some
      (match Table.get? s (c.arms.map Prod.swap) with
        | some name => .constant name s
        | none => .unknown s) := by
  show (match Table.get? s (c.arms.map Prod.swap) with
    | some constant => _
    | none => _) = _
  cases hs : Table.get? s (c.arms.map Prod.swap) with
  | none => rfl
  | some name =>
    have harm : (name, s) ∈ c.arms := by simpa using Table.mem_of_get? hs
    dsimp only
    rw [get?_constants hc harm]
    rfl

theorem fromStr?_injective (hc : c.Of p d) : Function.Injective (converterOf c).fromStr? := by
  have hback : ∀ s, ((converterOf c).fromStr? s).map Instance.asStr = some s := by
    intro s
    rw [fromStr?_converterOf hc]
    cases Table.get? s (c.arms.map Prod.swap) with
    | none => rfl
    | some name => rfl
  intro s t h
  exact Option.some.inj ((hback s).symm.trans ((congrArg _ h).trans (hback t)))

/-- The template filled for a context gives a class that reads as the converter of it. -/
theorem readClass_filled {f : Filling} {layout : Layout} (hp : Python.backend.Plans config p)
    (hc : c.Of p d) (hf : f.Of layout c) (hlayout : p.layout = .ok layout) :
    ∃ code, Template.renderNamed shelf "class.py.j2" f.fields = .ok code ∧
      readClass c.typeName code = some (converterOf c) := by
  obtain ⟨hne, hmargin, -⟩ := layout_margin hp hlayout
  have hfits := fits_arms hp hc
  refine readClass_source hf hne hmargin (isName_typeName hp hc) hfits ?_
  rintro ⟨name, value⟩ harm
  obtain ⟨m, hm, hname, -⟩ := Context.mem_arms.mp harm
  obtain ⟨-, -, hfree⟩ := hc.apart.fit m hm name ((hc.variant?_eq hm).symm.trans hname)
  rw [hp.memberVocabulary] at hfree
  exact not_mem_ownNames (hfits _ harm) hfree

/-- A definition that can be emitted is emitted in every state. -/
theorem single_yields {config : Config} (hp : backend.Plans config p)
    (hv : p.memberVocabulary.EndsInLetters) (he : Emittable p d) :
    ∃ code, Yields (single p d) code := by
  obtain ⟨c, hcontext⟩ := he.context
  obtain ⟨register, j, hrun⟩ := hcontext [] #[]
  obtain ⟨f, layout, hf, hlayout, hyields⟩ :=
    classText_yields hp (Plan.buildContext_ok hv hrun) he
  obtain ⟨code, hcode, -⟩ := readClass_filled hp (Plan.buildContext_ok hv hrun) hf hlayout
  have hpolicy : p.policy = .python := hp.policy
  refine ⟨code, hcontext.bind ((yields_note _ _ _).bind ?_)⟩
  rw [hpolicy]
  exact hyields code hcode

/-! ## Main result -/

/-- For every definition with distinct values and every configuration: a class is emitted, and
what the class that is emitted does to any text. -/
theorem class_round_trip {g : Generator}
    (hg : Generator.ofConfig Python.backend config none = .ok g)
    (hdistinct : (d.members.map (·.value)).Nodup) :
    (Emittable g.plan d → ∃ code, Yields (single g.plan d) code) ∧
    ∀ {code : Text} {register register' : Register} {j j' : Journal},
      (single g.plan d).run register j = ((.ok code, register'), j') →
      ∃ members cls, g.plan.namedMembers d = .ok members ∧
        (members.map bare).Perm (d.members.map bare) ∧
        readClass (g.plan.typeName d.name) code = some cls ∧
        Function.Injective cls.fromStr? ∧
        ∀ s, (∃ i, cls.fromStr? s = some i ∧ i.asStr = s) ∧
          (∀ name value, cls.fromStr? s = some (.constant name value) ↔
            value = s ∧ ∃ m ∈ members, m.value = s ∧ m.identifier = some name) ∧
          ∀ held, cls.fromStr? s = some (.unknown held) ↔
            held = s ∧ ∀ m ∈ members, m.value = s → m.identifier = none := by
  obtain ⟨-, hp⟩ := Generator.ofConfig_ok hg
  have hv : g.plan.memberVocabulary.EndsInLetters :=
    hp.memberVocabulary ▸ endsInLetters_pythonMembers
  have hpolicy : g.plan.policy = .python := hp.policy
  constructor
  · exact fun he => single_yields hp hv he
  · intro code register register' j j' hrun
    obtain ⟨c, hc, register₁, j₁, hclass⟩ := single_ok hv hpolicy hrun
    obtain ⟨f, layout, hf, hlayout, hcode⟩ := classText_ok hpolicy hp.shelf hclass
    obtain ⟨code', hcode', hread⟩ := readClass_filled hp hc hf hlayout
    obtain rfl : code = code' := Except.ok.inj (hcode.symm.trans hcode')
    rw [hc.typeName] at hread
    refine ⟨c.members, converterOf c, hc.derived, ?_, hread, fromStr?_injective hc, fun s => ?_⟩
    · rw [hc.members]
      exact (sortMembers_perm d.members).map bare
    · have hnamed : ∀ name, Table.get? s (c.arms.map Prod.swap) = some name ↔
          ∃ m ∈ c.members, m.value = s ∧ m.identifier = some name :=
        fun name => hc.get?_swap_arms hdistinct
      have hunknown := hc.get?_swap_arms_eq_none hdistinct s
      simp only [← hnamed, ← hunknown, fromStr?_converterOf hc]
      cases Table.get? s (c.arms.map Prod.swap) with
      | some name => exact ⟨⟨_, rfl, rfl⟩, by simp [and_comm, eq_comm], by simp⟩
      | none => exact ⟨⟨_, rfl, rfl⟩, by simp, by simp [eq_comm]⟩

/-- Values that need escapes, that convert alike or have no letters, and values named as the
catch-all and as a method. -/
def awkwardLevel : Definition :=
  ⟨"Level", [.ofValue "a\nb", .ofValue "a b", .ofValue "Unknown", .ofValue "parse",
    .ofValue "\"", .ofValue []], .null⟩

theorem mem_awkwardLevel {m : Member} (h : m ∈ awkwardLevel.members) :
    ∃ value, m = .ofValue value := by
  simp only [awkwardLevel, List.mem_cons, List.not_mem_nil, or_false] at h
  rcases h with rfl | rfl | rfl | rfl | rfl | rfl <;> exact ⟨_, rfl⟩

/-- Values alone can be emitted with the standard configuration, if one of them has a letter
or a digit. -/
theorem emittable_of_values {g : Generator}
    (hg : Generator.ofConfig Python.backend .standard none = .ok g)
    (hvalues : ∀ m ∈ d.members, ∃ value, m = .ofValue value)
    (hletters : ∃ m ∈ d.members, ∃ c ∈ m.source.shown, c.isAlphanum = true)
    (hdocs : d.documentation = .null) : Emittable g.plan d := by
  obtain ⟨-, hp⟩ := Generator.ofConfig_ok hg
  have hv : g.plan.memberVocabulary.EndsInLetters :=
    hp.memberVocabulary ▸ endsInLetters_pythonMembers
  have hnone : ∃ t, documentationText g.plan .null = .ok t := by
    rw [documentationText, Plan.documentation?, hp.config_eq]
    exact ⟨_, rfl⟩
  refine ⟨Plan.buildContext_yields hv ?_ hletters, ?_, ?_, hdocs ▸ hnone, ?_⟩
  · intro m hm
    obtain ⟨value, rfl⟩ := hvalues m hm
    exact ⟨value, rfl⟩
  · rw [hp.config_eq]
    exact ⟨_, rfl⟩
  · rw [Plan.module, hp.config_eq]
    exact ⟨_, rfl⟩
  · intro m hm
    obtain ⟨value, rfl⟩ := hvalues m hm
    exact hnone

theorem awkward_values_kept :
    ∃ g code cls, Generator.ofConfig Python.backend .standard none = .ok g ∧
      Yields (single g.plan awkwardLevel) code ∧
      readClass (g.plan.typeName "Level") code = some cls ∧
      ∀ s, ∃ i, cls.fromStr? s = some i ∧ i.asStr = s := by
  obtain ⟨g, hg⟩ : ∃ g, Generator.ofConfig Python.backend .standard none = .ok g := ⟨_, rfl⟩
  have hletters : ∃ m ∈ awkwardLevel.members, ∃ c ∈ m.source.shown, c.isAlphanum = true :=
    ⟨.ofValue "Unknown", by simp [awkwardLevel], 'U', by decide, rfl⟩
  have hemittable : Emittable g.plan awkwardLevel :=
    emittable_of_values hg (fun m hm => mem_awkwardLevel hm) hletters rfl
  obtain ⟨hemitted, hread⟩ := class_round_trip (d := awkwardLevel) hg (by decide)
  obtain ⟨code, hcode⟩ := hemitted hemittable
  obtain ⟨register', j', hrun⟩ := hcode [] #[]
  obtain ⟨members, cls, -, -, hcls, -, htrip⟩ := hread hrun
  exact ⟨g, code, cls, hg, hcode, hcls, fun s => (htrip s).1⟩

end CatchAll.Target.Python
