import CatchAll.Generation
import CatchAll.Proofs.NormalForm
import CatchAll.Proofs.Target.Contexts
import CatchAll.Proofs.Target.RustCommentary
import CatchAll.Proofs.Target.Undocumented

/-!
# Documentation is inert

A run for a list of enums and a run for the same enums without documentation go
side by side: each step fails on both sides or gives the same code on both, and
leaves the same register and journal behind. So no documentation can put a line
outside of a comment or change a declaration.
-/

set_option autoImplicit false

namespace CatchAll

open scoped Text
open Schema Target Outcome

/-! ## Documentation in text -/

/-- A text, or nothing. -/
def Json.IsTextOrNull (v : Json) : Prop := v = .null ∨ ∃ t, v = .str t

/-- Every documentation of a definition is a text. -/
structure Schema.Definition.InText (d : Definition) : Prop where
  own : d.documentation.IsTextOrNull
  members : ∀ m ∈ d.members, m.documentation.IsTextOrNull

namespace Target.Rust

open Emission

variable {p : Plan} {d : Definition} {c : Context}

/-- The lines that a documentation stands for, where there is one. -/
def textOf (p : Plan) (documentation : Json) : Option Text :=
  (p.documentation? documentation).bind Json.text?

theorem documentationText_eq {documentation : Json} (h : documentation.IsTextOrNull) :
    documentationText p documentation = .ok (textOf p documentation) := by
  rw [documentationText, textOf, Plan.documentation?]
  rcases h with rfl | ⟨t, rfl⟩
  · rw [Json.truthy, Bool.and_false]
    rfl
  · cases p.config.addComments.truthy && (Json.str t).truthy <;> rfl

def withTexts (p : Plan) (members : List Member) : List (Option Text × Member) :=
  members.map fun m => (textOf p m.documentation, m)

theorem mapM_variant {members : List Member} (layout : Layout)
    (h : ∀ m ∈ members, m.documentation.IsTextOrNull) :
    members.mapM (variant p layout) =
      .ok ((withTexts p members).map fun v => variantFields layout v.1 v.2) := by
  rw [mapM_eq_ok, withTexts, List.map_map, List.forall₂_map_right_iff, List.forall₂_same]
  intro m hm
  rw [variant, documentationText_eq (h m hm)]
  rfl

/-! ## The context of an enum -/

theorem contextOf_inText (hv : p.memberVocabulary.EndsInLetters) (hd : d.InText)
    (h : p.contextOf d = .ok c) : ∀ m ∈ c.members, m.documentation.IsTextOrNull := by
  obtain ⟨members, hmembers, hdone⟩ := bind_eq_ok.mp h
  obtain ⟨hbare, -⟩ := Naming.deriveMembers_apart hv hmembers
  cases hdone
  intro m hm
  have hmem : Naming.bare m ∈ (sortMembers d.members).map Naming.bare :=
    hbare ▸ List.mem_map_of_mem ((sortMembers_perm members).mem_iff.mp hm)
  obtain ⟨m', hm', hsame⟩ := List.mem_map.mp hmem
  have hdocumentation : (Naming.bare m').documentation = (Naming.bare m).documentation :=
    congrArg Member.documentation hsame
  show (Naming.bare m).documentation.IsTextOrNull
  rw [← hdocumentation]
  exact hd.members m' ((sortMembers_perm d.members).mem_iff.mp hm')

/-- The same enum with and without documentation. -/
def Bared (c bared : Context) : Prop :=
  bared = c.undocumented ∧ ∀ m ∈ c.members, m.documentation.IsTextOrNull

theorem buildContext_agree (hv : p.memberVocabulary.EndsInLetters) (hd : d.InText) :
    Agree Bared (p.buildContext d) (p.undocumented.buildContext d.undocumented) := by
  rw [Plan.buildContext, Plan.buildContext, Plan.contextOf_undocumented]
  refine (agree_ofOutside (R := Bared) ?_).bind ?_
  · cases hcontext : p.contextOf d with
    | error o => exact .error o
    | ok c => exact .ok ⟨rfl, contextOf_inText hv hd hcontext⟩
  · rintro c _ ⟨rfl, htext⟩
    simp only [Context.named_undocumented, Context.unnamed_undocumented, List.isEmpty_map,
      List.forIn_map]
    split
    · exact .after _ fun _ => .after _ fun _ => agree_pure ⟨rfl, htext⟩
    · exact .after _ fun _ => agree_pure ⟨rfl, htext⟩

/-! ## One enum -/

/-- The policy makes its documentation once there is a layout. -/
theorem docs_eq (p : Plan) (c : Context) :
    Target.Policy.docs p.surroundings c .rust = (do
      let layout ← Emission.ofOutside p.layout
      return docsText layout c) := by
  show (do return (← p.surroundings.rust).docs c) = _
  rw [Surroundings.rust]
  simp only [bind_assoc, pure_bind]
  rfl

theorem docsText_undocumented (layout : Layout) (c : Context) :
    docsText layout c.undocumented = docsText layout c := by
  have hplaceholder : placeholder (c.members.map Member.undocumented) = placeholder c.members :=
    choosePlaceholder_undocumented c.members placeholderBase none
  rw [docsText, docsText, Context.variants_undocumented]
  simp only [Context.undocumented, hplaceholder]

theorem layout_docMark {layout : Layout} (h : p.layout = .ok layout) :
    layout.docMark = p.docMark := by
  obtain ⟨unit, -, hlayout⟩ := bind_eq_ok.mp h
  exact congrArg Layout.docMark (Except.ok.inj hlayout).symm

/-- What a plan must have for a declaration to be made from the template. -/
structure Native (p : Plan) : Prop where
  policy : p.policy = .rust
  docMark : p.docMark = "///"
  shelf : p.shelf = shelf

theorem fill_agree (hp : Native p) {layout : Layout} (hmark : layout.docMark = "///")
    {docs others : Text} (hdocs : IsCommentary docs) (hothers : IsCommentary others)
    (metadata typeName members : Text) {variants variants' : List (Option Text × Member)}
    (hsame : List.Forall₂ (fun v o => variantCode v.2 = variantCode o.2) variants variants') :
    Agree SameCode
      (p.fill "enum.rs.j2"
        (declarationFields layout docs metadata typeName members variants))
      (p.undocumented.fill "enum.rs.j2"
        (declarationFields layout others metadata typeName members variants')) := by
  rw [Plan.fill, Plan.fill, show p.undocumented.shelf = shelf from hp.shelf, hp.shelf,
    render_declaration hmark hdocs.ne_nil, render_declaration hmark hothers.ne_nil]
  exact agree_pure (.declarations hmark hdocs hothers metadata typeName members hsame)

theorem variantCode_withTexts (p : Plan) (members : List Member) :
    List.Forall₂ (fun v o => variantCode v.2 = variantCode o.2) (withTexts p members)
      (withTexts p.undocumented (members.map Member.undocumented)) := by
  rw [withTexts, withTexts, List.map_map, List.forall₂_map_left_iff, List.forall₂_map_right_iff,
    List.forall₂_same]
  exact fun _ _ => rfl

theorem declaration_agree (hp : Native p) (hd : d.documentation.IsTextOrNull)
    (hc : ∀ m ∈ c.members, m.documentation.IsTextOrNull) :
    Agree SameCode (declaration p d c)
      (declaration p.undocumented d.undocumented c.undocumented) := by
  have hvariants (layout : Layout) : c.named.mapM (variant p layout) =
      .ok ((withTexts p c.named).map fun v => variantFields layout v.1 v.2) :=
    mapM_variant layout fun m hm => hc m (List.mem_filter.mp hm).1
  have hbared (layout : Layout) : (c.undocumented.named).mapM (variant p.undocumented layout) =
      .ok ((withTexts p.undocumented c.undocumented.named).map
        fun v => variantFields layout v.1 v.2) := by
    refine mapM_variant layout fun m hm => ?_
    rw [Context.named_undocumented] at hm
    obtain ⟨m', -, rfl⟩ := List.mem_map.mp hm
    exact .inl rfl
  have hnull : documentationText p.undocumented d.undocumented.documentation =
      .ok (textOf p.undocumented d.undocumented.documentation) :=
    documentationText_eq (.inl rfl)
  rw [declaration, declaration, hp.policy, show p.undocumented.policy = .rust from hp.policy,
    Plan.surroundings_undocumented, docs_eq, docs_eq]
  simp only [docsText_undocumented, bind_assoc, pure_bind, documentationText_eq hd, hnull,
    hvariants, hbared]
  refine .ofOutside p.layout fun layout hlayout => ?_
  have hmark : layout.docMark = "///" := (layout_docMark hlayout).trans hp.docMark
  have hfill (metadata members : Text) := fill_agree hp hmark
    (enumDocs_isCommentary hmark c (textOf p d.documentation))
    (enumDocs_isCommentary hmark c (textOf p.undocumented d.undocumented.documentation))
    metadata c.typeName members (variantCode_withTexts p c.named)
  simp only [hlayout, show p.undocumented.layout = .ok layout from hlayout, ofOutside_ok,
    pure_bind, Context.named_undocumented]
  rw [show c.undocumented.decoration = c.decoration from rfl]
  cases c.decoration with
  | some decoration => exact .after _ fun metadata => .after _ fun members => hfill metadata members
  | none => exact .after _ fun members => hfill [] members

theorem fromImplText_undocumented (layout : Layout) (c : Context) (path : Text) :
    fromImplText layout c.undocumented path = fromImplText layout c path := by
  rw [fromImplText, fromImplText, fromArms, fromArms, Context.arms_undocumented]
  rfl

/-- The implementations are the same. -/
theorem implementations_undocumented (hp : Native p) (c : Context) :
    implementations p.undocumented c.undocumented = implementations p c := by
  have hfrom (policy : Policy) : policy.fromImpl c.undocumented = policy.fromImpl c := by
    rw [Policy.fromImpl, Policy.fromImpl]
    simp only [fromImplText_undocumented]
    rfl
  have hfromImpl : Target.Policy.fromImpl p.surroundings c.undocumented .rust =
      Target.Policy.fromImpl p.surroundings c .rust := by
    rw [Target.Policy.fromImpl, Target.Policy.fromImpl]
    simp only [hfrom]
  rw [implementations, implementations, show p.undocumented.policy = .rust from hp.policy,
    hp.policy, Plan.surroundings_undocumented, hfromImpl, Context.named_undocumented,
    Context.arms_undocumented, Context.values_undocumented, List.any_map]
  rfl

theorem single_agree (hp : Native p) (hv : p.memberVocabulary.EndsInLetters) (hd : d.InText) :
    Agree SameCode (single p d) (single p.undocumented d.undocumented) := by
  rw [single, single]
  refine (buildContext_agree hv hd).bind ?_
  rintro c _ ⟨rfl, hc⟩
  have hlength : c.undocumented.members.length = c.members.length := List.length_map _
  rw [hlength, implementations_undocumented hp]
  refine .after _ fun _ => (declaration_agree hp hd.own hc).bind fun declared bared hdeclared => ?_
  exact .after _ fun implemented =>
    agree_pure (.paragraphs (.cons hdeclared (.cons (.refl implemented) .nil)))

/-! ## The module -/

theorem setting?_undocumented (config : Config) :
    Related (fun _ found => found = none) (config.setting? "module_docs")
      (config.undocumented.setting? "module_docs") := by
  by_cases h : ∃ fields, config.custom = .obj fields
  · obtain ⟨fields, hcustom⟩ := h
    rw [Config.setting?, Config.setting?, hcustom, Config.custom_undocumented hcustom]
    exact .ok (by rw [Table.get?_erase, if_pos rfl])
  · rw [Config.undocumented_of_ne fun fields hcustom => h ⟨fields, hcustom⟩, Config.setting?]
    split
    · rename_i fields hcustom
      exact absurd ⟨fields, hcustom⟩ h
    · exact .error _

/-- The parts that a header makes. -/
def SameParts (t u : Text) : Prop :=
  List.Forall₂ SameCode (Generator.part t) (Generator.part u)

theorem sameParts_headers (docs : Json) : SameParts (headerText docs) (headerText .null) := by
  have hpart (docs : Json) : Generator.part (headerText docs) = [headerText docs] := by
    rw [Generator.part, if_neg (by simp [headerText])]
  rw [SameParts, hpart, hpart]
  exact .cons (.headers docs) .nil

theorem header_agree (hp : Native p) : Agree SameParts (header p) (header p.undocumented) := by
  have hfill (docs : Json) : p.fill "module_header.rs.j2" [("module_docs", docs)] =
      pure (headerText docs) := by
    rw [Plan.fill, hp.shelf, render_header]
    rfl
  have hfill' (docs : Json) : p.undocumented.fill "module_header.rs.j2" [("module_docs", docs)] =
      pure (headerText docs) := hfill docs
  rw [header, header, show p.undocumented.config = p.config.undocumented from rfl,
    show p.config.undocumented.addHeader = p.config.addHeader from rfl]
  split
  · simp only [Plan.moduleDocs, bind_assoc, pure_bind, hfill, hfill']
    refine (agree_ofOutside (setting?_undocumented p.config)).bind fun found bared hbared => ?_
    rw [hbared]
    exact agree_pure (sameParts_headers _)
  · exact agree_pure .nil

end Target.Rust

namespace Generator

open Emission Target.Rust

variable {g : Generator}

theorem singles_agree (hb : g.backend = Rust.backend) (hp : Native g.plan)
    (hv : g.plan.memberVocabulary.EndsInLetters) {enums : List Definition}
    (hd : ∀ d ∈ enums, d.InText) :
    Agree (List.Forall₂ SameCode) (g.singles enums)
      (g.undocumented.singles (enums.map Definition.undocumented)) := by
  induction enums with
  | nil => exact agree_pure .nil
  | cons d enums ih =>
    obtain ⟨hfirst, hrest⟩ := List.forall_mem_cons.mp hd
    rw [List.map_cons, singles, singles, show g.undocumented.backend = g.backend from rfl, hb]
    refine Agree.bind (single_agree hp hv hfirst) fun part bared hpart => ?_
    exact (ih hrest).bind fun parts bareds hparts => agree_pure (.cons hpart hparts)

theorem generate_agree (hb : g.backend = Rust.backend) (hp : Native g.plan)
    (hv : g.plan.memberVocabulary.EndsInLetters) {enums : List Definition}
    (hd : ∀ d ∈ enums, d.InText) :
    Agree SameCode (g.generate enums)
      (g.undocumented.generate (enums.map Definition.undocumented)) := by
  rw [generate, generate, List.length_map, show g.undocumented.backend = g.backend from rfl,
    show g.undocumented.module = g.module from rfl]
  refine .after _ fun _ => .after _ fun _ => ?_
  have hheader : Agree SameParts (g.backend.header g.plan)
      (g.backend.header g.undocumented.plan) := by
    rw [hb]
    exact header_agree hp
  refine hheader.bind fun header bared hparts => ?_
  refine (singles_agree hb hp hv hd).bind fun bodies bareds hbodies => ?_
  refine .after _ fun register => ?_
  have hfooter (p : Plan) (enums : List Definition) : g.backend.footer p enums = pure [] := by
    rw [hb]
    rfl
  rw [hfooter, hfooter]
  simp only [pure_bind]
  refine agree_pure (SameCode.end_line (.paragraphs ?_))
  refine List.rel_append (List.rel_append (List.rel_append hparts hbodies) ?_) .nil
  exact List.forall₂_same.mpr fun t _ => .refl t

/-! ## Results -/

theorem format_eq (h : g.plan.config.lineEnding = .str ['\n']) (code : Text) :
    g.format code = .ok (Text.unlines (tidyLines 0 (Text.lines code))) :=
  format_eq_joinWith h code

/-- The same failure, or the same code but for comment lines with the same warnings and
metadata. -/
inductive Result.SameButComments : Result → Result → Prop
  | success {code other : Text} {warnings : List Text} {metadata : Metadata}
      (h : codeLines code = codeLines other) :
      SameButComments (.success code warnings metadata) (.success other warnings metadata)
  | failed (failure : Failure) : SameButComments (.failed failure) (.failed failure)

theorem attempt_agree (hb : g.backend = Rust.backend) (hp : Native g.plan)
    (hv : g.plan.memberVocabulary.EndsInLetters)
    (hending : g.plan.config.lineEnding = .str ['\n']) {enums : List Definition}
    (hd : ∀ d ∈ enums, d.InText) :
    Agree Result.SameButComments (g.attempt enums)
      (g.undocumented.attempt (enums.map Definition.undocumented)) := by
  have hvalidate : g.undocumented.validate (enums.map Definition.undocumented) =
      g.validate enums := by
    rw [validate, validate, show g.undocumented.plan = g.plan.undocumented from rfl,
      enumsWarnings_undocumented, show g.undocumented.backend = g.backend from rfl, hb]
    rfl
  rw [attempt, attempt, hvalidate, metadata_undocumented, List.length_map]
  refine .after _ fun warnings => ?_
  refine (generate_agree hb hp hv hd).bind fun code other hcode => ?_
  rw [format_eq hending, format_eq (g := g.undocumented) hending, ofOutside_ok, ofOutside_ok,
    pure_bind, pure_bind]
  exact .after _ fun _ => agree_pure (.success hcode.codeLines_tidied)

/-- What a run makes of the outcome of its attempt: a failure is reported. -/
def conclude : (Except Failure Result × Register) × Journal → (Result × Register) × Journal
  | ((.ok result, register), j) => ((result, register), j)
  | ((.error failure, register), j) => ((.failed failure, register),
      j.push ⟨.error, Plan.speaker, Failure.headline, some failure.reason⟩)

theorem run_eq_conclude (g : Generator) (enums : List Definition) (register : Register)
    (j : Journal) :
    ((g.run enums).run register).run j = conclude ((g.attempt enums).run register j) := by
  rw [run, StateT.run_bind, StateT.run_bind]
  dsimp only [StateT.run]
  obtain ⟨⟨r, register'⟩, j'⟩ := (g.attempt enums).run register j
  cases r <;> rfl

end Generator

/-- The documentation of a schema and of the module is inert: a run without it ends alike. -/
theorem documentation_inert {config : Config} {g : Generator}
    (hg : Generator.ofConfig Rust.backend config none = .ok g)
    (hending : config.lineEnding = .str ['\n']) {enums : List Definition}
    (hd : ∀ d ∈ enums, d.InText) :
    ∃ bare, Generator.ofConfig Rust.backend config.undocumented none = .ok bare ∧
      ∀ register j, ∃ r s register' j',
        ((g.run enums).run register).run j = ((r, register'), j') ∧
        ((bare.run (enums.map Definition.undocumented)).run register).run j =
          ((s, register'), j') ∧
        r.SameButComments s := by
  obtain ⟨hb, hp⟩ := Generator.ofConfig_ok hg
  have hnative : Rust.Native g.plan := ⟨hp.policy, hp.docMark, hp.shelf⟩
  have hv : g.plan.memberVocabulary.EndsInLetters := hp.memberVocabulary ▸ Naming.endsInLetters_rust
  have hattempt := Generator.attempt_agree hb hnative hv (hp.config_eq ▸ hending) hd
  refine ⟨g.undocumented, Generator.ofConfig_undocumented hg, fun register j => ?_⟩
  obtain ⟨r, s, register', j', hwork, hother, hrelated⟩ := hattempt register j
  rw [Generator.run_eq_conclude, Generator.run_eq_conclude, hwork, hother]
  cases hrelated with
  | ok h => exact ⟨_, _, register', j', rfl, rfl, h⟩
  | error failure => exact ⟨_, _, register', _, rfl, rfl, .failed failure⟩

/-- Documentation that closes an enum and opens a function. -/
theorem injected_lines_inert :
    let config : Config := { Config.standard with
      custom := .obj [("module_docs", .str "Kinds\n\nfn main() \x7b\x7d\n")] }
    let enums : List Definition :=
      [⟨"Level", [⟨"low", .null, .str "\n  first\n\x7d\n\n\n/// last", true, none⟩],
        .str "\x7d\nfn main() \x7b\x7d\n\n#[allow(missing_docs)]"⟩]
    ∃ g, Generator.ofConfig Rust.backend config none = .ok g ∧
      config.lineEnding = .str ['\n'] ∧ (∀ d ∈ enums, d.InText) ∧
      ∃ bare, Generator.ofConfig Rust.backend config.undocumented none = .ok bare ∧
        ∀ register j, ∃ r s register' j',
          ((g.run enums).run register).run j = ((r, register'), j') ∧
          ((bare.run (enums.map Definition.undocumented)).run register).run j =
            ((s, register'), j') ∧
          r.SameButComments s := by
  intro config enums
  obtain ⟨g, hg⟩ : ∃ g, Generator.ofConfig Rust.backend config none = .ok g := ⟨_, rfl⟩
  have htext : ∀ d ∈ enums, d.InText := by
    intro d hd
    obtain rfl := List.mem_singleton.mp hd
    refine ⟨.inr ⟨_, rfl⟩, fun m hm => ?_⟩
    obtain rfl := List.mem_singleton.mp hm
    exact .inr ⟨_, rfl⟩
  exact ⟨g, hg, rfl, htext, documentation_inert hg rfl htext⟩

end CatchAll
