import CatchAll.Proofs.Target.PythonSource
import CatchAll.Proofs.Target.Wrapper

/-!
# Emitting a Python class

Whatever is emitted for an enum is the template of a class, filled for the
context of the enum. With texts for the documentation and the name of the module
and a unit of indentation, a class is emitted in every state.
-/

set_option autoImplicit false

namespace CatchAll.Target.Python

open scoped Text
open Naming Schema Outcome Emission

variable {p : Plan} {d : Definition} {c : Context} {layout : Layout}

/-! ## Constants -/

theorem constants_of_named {variants : List (Option Text × Member)}
    (h : variants.map Prod.snd = c.named) :
    (variants.map fun v => (v.2.identifier.getD [], v.2.value)) = c.arms := by
  rw [Context.arms_eq_map_named, ← h, List.map_map]
  rfl

theorem variants_ok {named : List Member} {items : List Json}
    (h : named.mapM (variant p) = .ok items) :
    ∃ variants : List (Option Text × Member), variants.map Prod.snd = named ∧
      items = variants.map fun v => variantFields v.1 v.2 :=
  mapM_attached h

/-! ## What is emitted -/

theorem run_python_ok {policy : Python.Policy} {register register' : Register} {j j' : Journal}
    (h : p.surroundings.python.run register j = ((.ok policy, register'), j')) :
    p.layout = .ok policy.layout ∧ policy.variantCase = p.settings.variantCase := by
  obtain ⟨layout, _, _, hlayout, h⟩ := run_bind_ok.mp h
  obtain ⟨rfl, -, -⟩ := run_pure_ok.mp h
  exact ⟨(run_ofOutside_ok.mp hlayout).1, rfl⟩

theorem fromImpl_ok {t : Text} {register register' : Register} {j j' : Journal}
    (hlayout : p.layout = .ok layout)
    (h : (Target.Policy.fromImpl p.surroundings c .python).run register j =
      ((.ok t, register'), j')) : t = fromImplText layout c := by
  obtain ⟨policy, _, _, hpolicy, h⟩ := run_bind_ok.mp h
  obtain ⟨-, _, _, -, h⟩ := run_bind_ok.mp h
  obtain ⟨rfl, -, -⟩ := run_pure_ok.mp h
  rw [Except.ok.inj (hlayout.symm.trans (run_python_ok hpolicy).1)]

theorem fromStrImpl_ok {t : Text} {register register' : Register} {j j' : Journal}
    (hlayout : p.layout = .ok layout)
    (h : (Target.Policy.fromStrImpl p.surroundings c .python).run register j =
      ((.ok t, register'), j')) : t = fromStrImplText layout c := by
  obtain ⟨policy, _, _, hpolicy, h⟩ := run_bind_ok.mp h
  obtain ⟨rfl, -, -⟩ := run_pure_ok.mp h
  rw [Except.ok.inj (hlayout.symm.trans (run_python_ok hpolicy).1)]
  rfl

/-- What does not convert: what stands above the class, its documentation and the fragment of
the policy for its members. -/
structure Filling.Describes (f : Filling) (layout : Layout) (case : Naming.Case) (c : Context) :
    Prop where
  decorated : ∀ decoration, c.decoration = some decoration → decoration.render = .ok f.metadata
  headed : ∃ documentation, f.summary = Python.summary documentation
  docs : ∃ documentation, f.docs = classDocs layout documentation (docsText layout case c)
  members : f.members = membersText layout c

theorem docs_ok {t : Text} {register register' : Register} {j j' : Journal}
    (hlayout : p.layout = .ok layout)
    (h : (Target.Policy.docs p.surroundings c .python).run register j =
      ((.ok t, register'), j')) : t = docsText layout p.settings.variantCase c := by
  obtain ⟨policy, _, _, hpolicy, h⟩ := run_bind_ok.mp h
  obtain ⟨rfl, -, -⟩ := run_pure_ok.mp h
  obtain ⟨hok, hcase⟩ := run_python_ok hpolicy
  rw [Except.ok.inj (hlayout.symm.trans hok), ← hcase]
  rfl

theorem members_ok {t : Text} {register register' : Register} {j j' : Journal}
    (hlayout : p.layout = .ok layout)
    (h : (Target.Policy.members p.surroundings c .python).run register j =
      ((.ok t, register'), j')) : t = membersText layout c := by
  obtain ⟨policy, _, _, hpolicy, h⟩ := run_bind_ok.mp h
  obtain ⟨-, _, _, -, h⟩ := run_bind_ok.mp h
  obtain ⟨rfl, -, -⟩ := run_pure_ok.mp h
  rw [Except.ok.inj (hlayout.symm.trans (run_python_ok hpolicy).1)]

theorem classText_made {code : Text} {register register' : Register} {j j' : Journal}
    (hpolicy : p.policy = .python) (hshelf : p.shelf = shelf)
    (h : (classText p d c).run register j = ((.ok code, register'), j')) :
    ∃ (f : Filling) (layout : Layout), f.Of layout c ∧
      f.Describes layout p.settings.variantCase c ∧ p.layout = .ok layout ∧
      Template.renderNamed shelf "class.py.j2" f.fields = .ok code := by
  unfold classText at h
  extract_lets filled at h
  obtain ⟨metadata, register₁, j₁, hmetadata, h⟩ : ∃ metadata register₁ j₁,
      (∀ decoration, c.decoration = some decoration → decoration.render = .ok metadata) ∧
      (filled metadata).run register₁ j₁ = ((.ok code, register'), j') := by
    split at h
    all_goals
      rename_i hdecoration
      obtain ⟨metadata, register₁, j₁, hrender, h⟩ := run_bind_ok.mp h
      refine ⟨metadata, register₁, j₁, fun decoration hsome => ?_, h⟩
      rw [hdecoration] at hsome
    · obtain rfl := Option.some.inj hsome
      exact (run_ofOutside_ok.mp hrender).1
    · cases hsome
  obtain ⟨documentation, _, _, -, h⟩ := run_bind_ok.mp h
  obtain ⟨policyDocs, _, _, hdocs, h⟩ := run_bind_ok.mp h
  obtain ⟨layout, _, _, hlayout, h⟩ := run_bind_ok.mp h
  obtain ⟨items, _, _, hitems, h⟩ := run_bind_ok.mp h
  obtain ⟨members, _, _, hmembers, h⟩ := run_bind_ok.mp h
  obtain ⟨fromImpl, _, _, hfromImpl, h⟩ := run_bind_ok.mp h
  obtain ⟨fromStrImpl, _, _, hfromStrImpl, h⟩ := run_bind_ok.mp h
  obtain ⟨arms, _, _, -, h⟩ := run_bind_ok.mp h
  obtain ⟨hcode, -, -⟩ := run_ofTemplate_ok.mp h
  replace hlayout := (run_ofOutside_ok.mp hlayout).1
  obtain ⟨variants, hvariants, rfl⟩ := variants_ok (run_ofOutside_ok.mp hitems).1
  rw [hshelf] at hcode
  rw [hpolicy] at hdocs hmembers hfromImpl hfromStrImpl
  exact ⟨⟨metadata, c.typeName, summary documentation, classDocs layout documentation policyDocs,
    variants, members, fromImpl, fromStrImpl, arms, c.values.map literal⟩, layout, ⟨rfl,
    fromImpl_ok hlayout hfromImpl, fromStrImpl_ok hlayout hfromStrImpl,
    constants_of_named hvariants, rfl⟩, ⟨hmetadata, ⟨documentation, rfl⟩,
    ⟨documentation, by rw [docs_ok hlayout hdocs]⟩, members_ok hlayout hmembers⟩, hlayout, hcode⟩

theorem classText_ok {code : Text} {register register' : Register} {j j' : Journal}
    (hpolicy : p.policy = .python) (hshelf : p.shelf = shelf)
    (h : (classText p d c).run register j = ((.ok code, register'), j')) :
    ∃ (f : Filling) (layout : Layout), f.Of layout c ∧ p.layout = .ok layout ∧
      Template.renderNamed shelf "class.py.j2" f.fields = .ok code := by
  obtain ⟨f, layout, hf, -, hmade⟩ := classText_made hpolicy hshelf h
  exact ⟨f, layout, hf, hmade⟩

/-! ## Classes that are emitted -/

/-- What emitting a class takes. -/
structure Emittable (p : Plan) (d : Definition) : Prop where
  context : ∃ c, Yields (p.buildContext d) c
  unit : ∃ unit, p.config.indentUnit = .ok unit
  module : ∃ name, p.module = .str name
  documentation : ∃ t, documentationText p d.documentation = .ok t
  members : ∀ m ∈ d.members, ∃ t, documentationText p m.documentation = .ok t

theorem decoration_renders {config : Config} (hp : Python.backend.Plans config p)
    (hc : c.Of p d) :
    ∃ decoration t, c.decoration = some decoration ∧ decoration.render = .ok t := by
  obtain ⟨decoration, hdecoration, hdone⟩ := bind_eq_ok.mp hp.decoration
  obtain ⟨t, ht⟩ := decorationOf_renders hdecoration
  exact ⟨decoration, t, hc.decoration.trans (Except.ok.inj hdone).symm, ht⟩

theorem variants_yield (hc : c.Of p d) (he : Emittable p d) :
    ∃ items, c.named.mapM (variant p) = .ok items := by
  refine mapM_ok_of_forall fun m hm => ?_
  obtain ⟨m', hm', hsame⟩ := hc.exists_member (List.mem_filter.mp hm).1
  obtain ⟨t, ht⟩ := he.members m' hm'
  have hdocumentation : (bare m').documentation = (bare m).documentation :=
    congrArg Member.documentation hsame
  have hshared : documentationText p m'.documentation = documentationText p m.documentation :=
    congrArg (documentationText p) hdocumentation
  exact ⟨_, bind_eq_ok.mpr ⟨t, hshared.symm.trans ht, rfl⟩⟩

theorem python_yields (hlayout : p.layout = .ok layout) :
    Yields p.surroundings.python ⟨p.module, layout, p.settings.variantCase⟩ :=
  (yields_ofOutside hlayout).bind (yields_pure _)

theorem request_yields {name metadata : Text} {decoration : Decoration} (layout : Layout)
    (hname : p.module = .str name) (hdecoration : c.decoration = some decoration)
    (hmetadata : decoration.render = .ok metadata) :
    Yields (Policy.request ⟨p.module, layout, p.settings.variantCase⟩ c) () := by
  have hkey : moduleKey p.module = .ok name := by
    rw [hname]
    exact moduleKey_str name
  have hsource : wrapperSource layout c = .ok (wrapperText layout metadata) := by
    rw [wrapperSource, hdecoration]
    exact bind_eq_ok.mpr ⟨metadata, hmetadata, rfl⟩
  exact requestWrapper_yields hkey hsource

theorem fromImpl_yields {config : Config} {name : Text} (hp : Python.backend.Plans config p)
    (hc : c.Of p d) (hlayout : p.layout = .ok layout) (hname : p.module = .str name) :
    Yields (p.policy.fromImpl p.surroundings c) (fromImplText layout c) := by
  obtain ⟨decoration, metadata, hdecoration, hmetadata⟩ := decoration_renders hp hc
  rw [hp.policy]
  exact (python_yields hlayout).bind
    ((request_yields layout hname hdecoration hmetadata).bind (yields_pure _))

/-- The template is filled in every state, and its text is what is emitted. -/
theorem classText_yields {config : Config} (hp : Python.backend.Plans config p) (hc : c.Of p d)
    (he : Emittable p d) :
    ∃ (f : Filling) (layout : Layout), f.Of layout c ∧ p.layout = .ok layout ∧
      ∀ code, Template.renderNamed shelf "class.py.j2" f.fields = .ok code →
        Yields (classText p d c) code := by
  obtain ⟨unit, hunit⟩ := he.unit
  obtain ⟨name, hname⟩ := he.module
  obtain ⟨documentation, hdocumentation⟩ := he.documentation
  obtain ⟨decoration, metadata, hdecoration, hmetadata⟩ := decoration_renders hp hc
  obtain ⟨items, hitems⟩ := variants_yield hc he
  obtain ⟨variants, hvariants, rfl⟩ := variants_ok hitems
  obtain ⟨layout, hlayout⟩ : ∃ layout, p.layout = .ok layout :=
    ⟨_, bind_eq_ok.mpr ⟨unit, hunit, rfl⟩⟩
  have hpython := python_yields hlayout
  have hrequest := request_yields layout hname hdecoration hmetadata
  have hdocs : Yields (Target.Policy.docs p.surroundings c .python)
      (docsText layout p.settings.variantCase c) := hpython.bind (yields_pure _)
  have hmembers : Yields (Target.Policy.members p.surroundings c .python)
      (membersText layout c) := hpython.bind (hrequest.bind (yields_pure _))
  have hfromImpl : Yields (Target.Policy.fromImpl p.surroundings c .python)
      (fromImplText layout c) := hpython.bind (hrequest.bind (yields_pure _))
  have hfromStrImpl : Yields (Target.Policy.fromStrImpl p.surroundings c .python)
      (fromStrImplText layout c) := hpython.bind (yields_pure _)
  have harms : Yields (Target.Policy.asStrArm p.surroundings c .python)
      (asStrArmText layout) := hpython.bind (hrequest.bind (yields_pure _))
  have hpolicy : p.policy = .python := hp.policy
  refine ⟨⟨metadata, c.typeName, summary documentation,
    classDocs layout documentation (docsText layout p.settings.variantCase c), variants,
    membersText layout c, fromImplText layout c, fromStrImplText layout c, asStrArmText layout,
    c.values.map literal⟩, layout, ⟨rfl, rfl, rfl, constants_of_named hvariants, rfl⟩, hlayout,
    fun code hcode => ?_⟩
  unfold classText
  rw [hdecoration, hpolicy]
  refine (yields_ofOutside hmetadata).bind <| (yields_ofOutside hdocumentation).bind <|
    hdocs.bind <| (yields_ofOutside hlayout).bind <| (yields_ofOutside hitems).bind <|
    hmembers.bind <| hfromImpl.bind <| hfromStrImpl.bind <| harms.bind ?_
  rw [Plan.fill, hp.shelf]
  dsimp only [Filling.fields] at hcode
  exact yields_ofTemplate hcode

end CatchAll.Target.Python
