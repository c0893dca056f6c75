import CatchAll.Proofs.Target.RustDeclaration
import CatchAll.Proofs.Target.RustDocumentation
import CatchAll.Proofs.Target.RustRoundTrip

/-!
# Emitting a Rust enum

Whatever is emitted for an enum is its declaration and its implementations, made
for the context of the enum. So each list of variants in the code is that of the
context. With texts for the documentation and the name of the module and a unit
of indentation, the code is emitted in every state.
-/

set_option autoImplicit false

namespace CatchAll.Target.Rust

open scoped Text
open Naming Schema Outcome Emission

variable {p : Plan} {d : Definition} {c : Context} {config : Config}

/-! ## What stands before an enum -/

theorem lineFeed_not_mem_lookUp {name path : Text} (h : lookUp traitPaths name = .ok path) :
    '\n' ∉ path := by
  have hpaths : ∀ path ∈ traitPaths.map (·.2), '\n' ∉ path := by decide +kernel
  exact hpaths path (mem_of_lookUp h)

theorem deriveLine_ok {traits head : List Text} (h : deriveLine traits = .ok head) :
    ∀ l ∈ head, l.head? = some '#' ∧ '\n' ∉ l := by
  rw [deriveLine] at h
  split at h
  · obtain rfl := Except.ok.inj h
    exact List.forall_mem_nil _
  · obtain ⟨paths, hpaths, hdone⟩ := bind_eq_ok.mp h
    obtain rfl := Except.ok.inj hdone
    have hsingle : ∀ path ∈ paths, '\n' ∉ path := by
      intro path hpath
      obtain ⟨name, -, hname⟩ := mem_of_mapM_ok hpaths hpath
      exact lineFeed_not_mem_lookUp hname
    have hcomma : '\n' ∉ (", " : Text) := by decide
    have hjoined := Text.lineFeed_not_mem_joinWith hcomma hsingle
    rw [List.forall_mem_singleton, List.mem_append, List.mem_append, not_or, not_or]
    exact ⟨rfl, ⟨by decide, hjoined⟩, by decide⟩

/-- The derived traits stand on a line of their own above the visibility. -/
theorem lines_derives {traits : List Text} {visibility metadata : Text}
    (hvisibility : visibility ∈ visibilities)
    (h : (Decoration.derives traits visibility).render = .ok metadata) :
    ∃ head, (∀ l ∈ head, l.head? = some '#') ∧ ∀ {line : Text}, '\n' ∉ line →
      Text.lines (metadata ++ line) = head ++ [visibility ++ (" " ++ line)] := by
  have hknown : ∀ visibility ∈ visibilities, visibility ≠ [] ∧ '\n' ∉ visibility := by decide
  obtain ⟨hne, hfeed⟩ := hknown visibility hvisibility
  obtain ⟨head, hhead, hdone⟩ := bind_eq_ok.mp h
  dsimp only at hdone
  rw [if_neg hne] at hdone
  obtain rfl := Except.ok.inj hdone
  refine ⟨head, fun l hl => (deriveLine_ok hhead l hl).1, fun {line} hline => ?_⟩
  rw [← Text.unlines_concat_append, List.append_assoc]
  refine Text.lines_unlines _ (by simp) (List.forall_mem_append.mpr ⟨?_, ?_⟩)
  · exact fun l hl => (deriveLine_ok hhead l hl).2
  · rw [List.forall_mem_singleton]
    simp [hfeed, hline]

theorem lines_metadata {traits : List Text} {visibility metadata : Text}
    (hvisibility : visibility ∈ visibilities)
    (h : (Decoration.derives traits visibility).render = .ok metadata) (typeName : Text)
    (hT : '\n' ∉ typeName) :
    ∃ head, (∀ l ∈ head, l.head? = some '#') ∧
      Text.lines (metadata ++ ("enum " ++ (typeName ++ " \x7b"))) =
        head ++ [enumHeader visibility typeName] := by
  obtain ⟨head, hhead, hlines⟩ := lines_derives hvisibility h
  exact ⟨head, hhead, hlines (by simp [hT])⟩

/-! ## What is emitted -/

/-- What the code of an enum is made of besides its context; each variant is a member with
its documentation. -/
structure Parts where
  layout : Layout
  documentation : Option Text
  metadata : Text
  variants : List (Option Text × Member)
  path : Text

structure Parts.Of (parts : Parts) (p : Plan) (c : Context) : Prop where
  layout : p.layout = .ok parts.layout
  metadata : ∃ decoration, c.decoration = some decoration ∧
    decoration.render = .ok parts.metadata
  variants : parts.variants.map Prod.snd = c.named

def Parts.declared (parts : Parts) (c : Context) : Text :=
  declarationText parts.layout
    (enumDocs parts.layout parts.documentation (docsText parts.layout c)) parts.metadata
    c.typeName (membersText parts.layout parts.path) parts.variants

def Parts.fields (parts : Parts) (c : Context) : Fields :=
  implFields c (c.named.any (·.deprecated)) (fromImplText parts.layout c parts.path)
    (fromStrImplText parts.layout c)

theorem variants_ok {layout : Layout} {named : List Member} {items : List Json}
    (h : named.mapM (variant p layout) = .ok items) :
    ∃ variants : List (Option Text × Member), variants.map Prod.snd = named ∧
      items = variants.map fun v => variantFields layout v.1 v.2 :=
  mapM_attached h

theorem run_rust_ok {policy : Rust.Policy} {register register' : Register} {j j' : Journal}
    (h : p.surroundings.rust.run register j = ((.ok policy, register'), j')) :
    policy.module = p.module ∧ p.layout = .ok policy.layout := by
  obtain ⟨layout, _, _, hlayout, h⟩ := run_bind_ok.mp h
  obtain ⟨rfl, -, -⟩ := run_pure_ok.mp h
  exact ⟨rfl, (run_ofOutside_ok.mp hlayout).1⟩

theorem wrapper_ok {policy : Rust.Policy} {path : Text} {register register' : Register}
    {j j' : Journal} (h : (policy.wrapper c).run register j = ((.ok path, register'), j')) :
    wrapperPath policy.module = .ok path := by
  obtain ⟨-, _, _, -, h⟩ := run_bind_ok.mp h
  exact (run_ofOutside_ok.mp h).1

theorem declaration_ok {decoration : Decoration} {code : Text}
    {register register' : Register} {j j' : Journal} (hp : Native p)
    (hdecoration : c.decoration = some decoration)
    (h : (declaration p d c).run register j = ((.ok code, register'), j')) :
    ∃ parts : Parts, parts.Of p c ∧ wrapperPath p.module = .ok parts.path ∧
      code = parts.declared c := by
  rw [declaration, hp.policy, docs_eq, hdecoration] at h
  obtain ⟨policyDocs, _, _, hdocs, h⟩ := run_bind_ok.mp h
  obtain ⟨layout, _, _, hlayout, hdone⟩ := run_bind_ok.mp hdocs
  obtain ⟨rfl, -, -⟩ := run_pure_ok.mp hdone
  replace hlayout := (run_ofOutside_ok.mp hlayout).1
  obtain ⟨layout', _, _, hlayout', h⟩ := run_bind_ok.mp h
  obtain rfl : layout = layout' :=
    Except.ok.inj (hlayout.symm.trans (run_ofOutside_ok.mp hlayout').1)
  obtain ⟨documentation, _, _, -, h⟩ := run_bind_ok.mp h
  obtain ⟨metadata, _, _, hmetadata, h⟩ := run_bind_ok.mp h
  obtain ⟨items, _, _, hitems, h⟩ := run_bind_ok.mp h
  obtain ⟨variants, hvariants, rfl⟩ := variants_ok (run_ofOutside_ok.mp hitems).1
  obtain ⟨members, _, _, hmembers, h⟩ := run_bind_ok.mp h
  obtain ⟨policy, _, _, hpolicy, hmembers⟩ := run_bind_ok.mp hmembers
  obtain ⟨hmodule, hsame⟩ := run_rust_ok hpolicy
  obtain ⟨path, _, _, hpath, hmembers⟩ := run_bind_ok.mp hmembers
  obtain ⟨rfl, -, -⟩ := run_pure_ok.mp hmembers
  obtain ⟨hcode, -, -⟩ := run_ofTemplate_ok.mp h
  rw [hp.shelf, ← Except.ok.inj (hlayout.symm.trans hsame)] at hcode
  have hmark : layout.docMark = "///" := (layout_docMark hlayout).trans hp.docMark
  have hrendered := render_declaration hmark (enumDocs_isCommentary hmark c documentation).ne_nil
    metadata c.typeName (membersText layout path) variants
  refine ⟨⟨layout, documentation, metadata, variants, path⟩,
    ⟨hlayout, ⟨decoration, hdecoration, (run_ofOutside_ok.mp hmetadata).1⟩, hvariants⟩,
    hmodule ▸ wrapper_ok hpath, Except.ok.inj (hcode.symm.trans hrendered)⟩

theorem implementations_ok {parts : Parts} {code : Text} {register register' : Register}
    {j j' : Journal} (hp : Native p) (hparts : parts.Of p c)
    (hpath : wrapperPath p.module = .ok parts.path)
    (h : (implementations p c).run register j = ((.ok code, register'), j')) :
    Template.renderNamed shelf "enum_impl.rs.j2" (parts.fields c) = .ok code := by
  rw [implementations, hp.policy] at h
  obtain ⟨fromImpl, _, _, hfromImpl, h⟩ := run_bind_ok.mp h
  obtain ⟨policy, _, _, hpolicy, hfromImpl⟩ := run_bind_ok.mp hfromImpl
  obtain ⟨hmodule, hlayout⟩ := run_rust_ok hpolicy
  obtain ⟨path, _, _, hwrapper, hfromImpl⟩ := run_bind_ok.mp hfromImpl
  obtain ⟨rfl, -, -⟩ := run_pure_ok.mp hfromImpl
  obtain ⟨fromStrImpl, _, _, hfromStrImpl, h⟩ := run_bind_ok.mp h
  obtain ⟨policy', _, _, hpolicy', hfromStrImpl⟩ := run_bind_ok.mp hfromStrImpl
  obtain ⟨rfl, -, -⟩ := run_pure_ok.mp hfromStrImpl
  obtain ⟨last, _, _, hlast, h⟩ := run_bind_ok.mp h
  obtain ⟨rfl, -, -⟩ := run_pure_ok.mp hlast
  obtain ⟨hcode, -, -⟩ := run_ofTemplate_ok.mp h
  have hsame : path = parts.path :=
    Except.ok.inj ((wrapper_ok hwrapper).symm.trans (hmodule ▸ hpath))
  have hlayout₁ : policy.layout = parts.layout :=
    Except.ok.inj (hlayout.symm.trans hparts.layout)
  have hlayout₂ : policy'.layout = parts.layout :=
    Except.ok.inj ((run_rust_ok hpolicy').2.symm.trans hparts.layout)
  rw [hp.shelf, Policy.fromStrImpl, hsame, hlayout₁, hlayout₂] at hcode
  exact hcode

theorem native_of_plans (hp : backend.Plans config p) : Native p :=
  ⟨hp.policy, hp.docMark, hp.shelf⟩

theorem decoration_some (hp : backend.Plans config p) (hc : c.Of p d) :
    ∃ decoration, c.decoration = some decoration ∧ decorationOf config = .ok decoration := by
  obtain ⟨decoration, hdecoration, hdone⟩ := bind_eq_ok.mp hp.decoration
  exact ⟨decoration, hc.decoration.trans (Except.ok.inj hdone).symm, hdecoration⟩

/-- The declaration and the implementations are made from the same parts. -/
theorem single_ok {code : Text} {register register' : Register} {j j' : Journal}
    (hp : backend.Plans config p)
    (h : (single p d).run register j = ((.ok code, register'), j')) :
    ∃ c, c.Of p d ∧ ∃ (parts : Parts) (implemented : Text), parts.Of p c ∧
      wrapperPath p.module = .ok parts.path ∧
      Template.renderNamed shelf "enum_impl.rs.j2" (parts.fields c) = .ok implemented ∧
      code = parts.declared c ++ ("\n\n" ++ implemented) := by
  have hv : p.memberVocabulary.EndsInLetters := hp.memberVocabulary ▸ endsInLetters_rust
  have hnative := native_of_plans hp
  obtain ⟨c, _, _, hcontext, h⟩ := run_bind_ok.mp h
  obtain ⟨-, _, _, -, h⟩ := run_bind_ok.mp h
  obtain ⟨declared, _, _, hdeclared, h⟩ := run_bind_ok.mp h
  obtain ⟨implemented, _, _, himplemented, h⟩ := run_bind_ok.mp h
  obtain ⟨rfl, -, -⟩ := run_pure_ok.mp h
  have hc : c.Of p d := Plan.buildContext_ok hv hcontext
  obtain ⟨decoration, hdecoration, -⟩ := decoration_some hp hc
  obtain ⟨parts, hparts, hpath, rfl⟩ := declaration_ok hnative hdecoration hdeclared
  refine ⟨c, hc, parts, implemented, hparts, hpath,
    implementations_ok hnative hparts hpath himplemented, ?_⟩
  rw [Text.joinWith_cons_cons, List.append_assoc]
  simp [Text.joinWith]

/-! ## Enums that are emitted -/

/-- What emitting an enum takes. -/
structure Emittable (p : Plan) (d : Definition) : Prop where
  context : ∃ c, Yields (p.buildContext d) c
  unit : ∃ unit, p.config.indentUnit = .ok unit
  module : ∃ name, p.module = .str name
  documentation : ∃ t, documentationText p d.documentation = .ok t
  members : ∀ m ∈ d.members, ∃ t, documentationText p m.documentation = .ok t

theorem variants_yield (hc : c.Of p d) (he : Emittable p d) (layout : Layout) :
    ∃ items, c.named.mapM (variant p layout) = .ok items := by
  refine mapM_ok_of_forall fun m hm => ?_
  obtain ⟨m', hm', hsame⟩ := hc.exists_member (List.mem_filter.mp hm).1
  obtain ⟨t, ht⟩ := he.members m' hm'
  have hdocumentation : (bare m').documentation = (bare m).documentation :=
    congrArg Member.documentation hsame
  have hshared : documentationText p m'.documentation = documentationText p m.documentation :=
    congrArg (documentationText p) hdocumentation
  exact ⟨_, bind_eq_ok.mpr ⟨t, hshared.symm.trans ht, rfl⟩⟩

/-- What is found in the code of an enum is made of one line each. -/
theorem lineFeed_not_mem_typeName (hp : backend.Plans config p) (hc : c.Of p d) :
    '\n' ∉ c.typeName := by
  refine lineFeed_not_mem_of_isName (hc.isName_typeName ?_)
  rw [hp.vocabulary]
  exact endsInLetters_rust

theorem fits_arms (hp : backend.Plans config p) (hc : c.Of p d) :
    ∀ arm ∈ c.arms, FitsVariant arm.1 := by
  refine hc.fits ?_
  rw [hp.policy]
  rfl

section

variable {parts : Parts} (hp : Native p) (hlayout : p.layout = .ok parts.layout)
  (hwrapper : Yields (Policy.wrapper ⟨p.module, parts.layout⟩ c) parts.path)
include hp hlayout hwrapper

theorem declaration_yields {decoration : Decoration} (hdecoration : c.decoration = some decoration)
    (hmetadata : decoration.render = .ok parts.metadata)
    (hdocumentation : documentationText p d.documentation = .ok parts.documentation)
    (hvariants : c.named.mapM (variant p parts.layout) =
      .ok (parts.variants.map fun v => variantFields parts.layout v.1 v.2)) :
    Yields (declaration p d c) (parts.declared c) := by
  have hmark : parts.layout.docMark = "///" := (layout_docMark hlayout).trans hp.docMark
  have hdeclared := render_declaration hmark
    (enumDocs_isCommentary hmark c parts.documentation).ne_nil parts.metadata c.typeName
    (membersText parts.layout parts.path) parts.variants
  have hdocs : Yields (Target.Policy.docs p.surroundings c .rust) (docsText parts.layout c) := by
    rw [docs_eq]
    exact (yields_ofOutside hlayout).bind (yields_pure _)
  have hmembers : Yields (Target.Policy.members p.surroundings c .rust)
      (membersText parts.layout parts.path) :=
    (rust_yields hlayout).bind (hwrapper.bind (yields_pure _))
  rw [declaration, hp.policy, hdecoration]
  refine hdocs.bind <| (yields_ofOutside hlayout).bind <| (yields_ofOutside hdocumentation).bind <|
    (yields_ofOutside hmetadata).bind <| (yields_ofOutside hvariants).bind <| hmembers.bind ?_
  rw [Plan.fill, hp.shelf]
  exact yields_ofTemplate hdeclared

theorem implementations_yields {code : Text}
    (hcode : Template.renderNamed shelf "enum_impl.rs.j2" (parts.fields c) = .ok code) :
    Yields (implementations p c) code := by
  have hfromImpl : Yields (Target.Policy.fromImpl p.surroundings c .rust)
      (fromImplText parts.layout c parts.path) :=
    (rust_yields hlayout).bind (hwrapper.bind (yields_pure _))
  have hfromStrImpl : Yields (Target.Policy.fromStrImpl p.surroundings c .rust)
      (fromStrImplText parts.layout c) := (rust_yields hlayout).bind (yields_pure _)
  have hasStrArm : Yields (Target.Policy.asStrArm p.surroundings c .rust) (asStrArmText c) :=
    yields_pure _
  rw [implementations, hp.policy]
  refine hfromImpl.bind <| hfromStrImpl.bind <| hasStrArm.bind ?_
  rw [Plan.fill, hp.shelf]
  exact yields_ofTemplate hcode

end

/-- A definition that can be emitted is emitted in every state. -/
theorem single_yields (hp : backend.Plans config p) (he : Emittable p d) :
    ∃ code, Yields (single p d) code := by
  have hv : p.memberVocabulary.EndsInLetters := hp.memberVocabulary ▸ endsInLetters_rust
  obtain ⟨c, hcontext⟩ := he.context
  obtain ⟨unit, hunit⟩ := he.unit
  obtain ⟨module, hmodule⟩ := he.module
  obtain ⟨documentation, hdocumentation⟩ := he.documentation
  obtain ⟨_, _, hrun⟩ := hcontext [] #[]
  have hc : c.Of p d := Plan.buildContext_ok hv hrun
  obtain ⟨decoration, hdecoration, hchecked⟩ := decoration_some hp hc
  obtain ⟨metadata, hmetadata⟩ := decorationOf_renders hchecked
  obtain ⟨path, hpath⟩ : ∃ path, wrapperPath p.module = .ok path := by
    rw [hmodule]
    exact wrapperPath_ok module
  obtain ⟨layout, hlayout⟩ : ∃ layout, p.layout = .ok layout :=
    ⟨_, bind_eq_ok.mpr ⟨unit, hunit, rfl⟩⟩
  obtain ⟨items, hitems⟩ := variants_yield hc he layout
  obtain ⟨variants, -, rfl⟩ := variants_ok hitems
  let parts : Parts := ⟨layout, documentation, metadata, variants, path⟩
  have hwrapper : Yields (Policy.wrapper ⟨p.module, parts.layout⟩ c) parts.path :=
    wrapper_yields hp hc hmodule hpath layout
  obtain ⟨methods, hrendered, -⟩ := render_implementations (c := c)
    (lineFeed_not_mem_typeName hp hc)
    fun arm harm => lineFeed_not_mem_of_isName (fits_arms hp hc arm harm).isName
  have hdeclared := declaration_yields (native_of_plans hp) hlayout hwrapper hdecoration hmetadata
    hdocumentation hitems
  have himplemented := implementations_yields (native_of_plans hp) hlayout hwrapper hrendered
  exact ⟨_, hcontext.bind <| Yields.bind (fun register _ => ⟨register, _, rfl⟩) <|
    hdeclared.bind <| himplemented.bind (yields_pure _)⟩

end CatchAll.Target.Rust
