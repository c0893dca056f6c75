import CatchAll.Proofs.Target.PythonRoundTrip
import CatchAll.Proofs.Target.Runs

/-!
# Python modules that are generated

A run succeeds once every enum can be emitted and the texts of the configuration
are texts: the templates of the header and of the exported names give something
whatever is put into them.
-/

set_option autoImplicit false

namespace CatchAll.Target.Python

open scoped Text
open Schema Outcome Emission

open Template (Renders)

variable {config : Config} {p : Plan} {d : Definition}

/-! ## The parts of a module -/

theorem fill_succeeds {name : Text} {nodes : List Template.Node} {values : Fields}
    (hfind : p.shelf.find? (·.1 == name) = some (name, nodes))
    (hplain : Template.isMarkupName name = false)
    (hfree : Table.has Template.ownName values = false) (h : Renders values nodes) :
    Succeeds (p.fill name values) := by
  obtain ⟨t, ht⟩ := h
  exact (yields_ofTemplate (Template.renderNamed_of_render hfind hplain hfree ht)).succeeds

theorem imports_ok (hp : backend.Plans config p) : ∃ names, imports p = .ok names := by
  obtain ⟨decoration, hdecoration, hdone⟩ := bind_eq_ok.mp hp.decoration
  have hsome : p.decoration = some decoration := (Except.ok.inj hdone).symm
  obtain ⟨t, ht⟩ := decorationOf_renders hdecoration
  rw [imports, hsome]
  cases decoration with
  | derives traits visibility => exact ⟨_, rfl⟩
  | decorators names =>
    obtain ⟨written, hwritten, -⟩ := bind_eq_ok.mp ht
    have hnames : decoratorNames names = .ok (Text.sort (Text.distinct written)) :=
      bind_eq_ok.mpr ⟨written, hwritten, rfl⟩
    exact ⟨_, bind_eq_ok.mpr ⟨_, hnames, rfl⟩⟩

theorem renders_header (addHeader docs : Json) (names : List Text) :
    Renders [("add_header", addHeader), ("module_docs", docs),
      ("typing_imports", Json.strings names)] headerTemplate := by
  have hempty (values : Fields) : Renders values [] := Template.renders_nil
  exact .cond rfl (.lit _ (.put rfl (.lit _ (hempty _)))) (hempty _) <|
    .cond rfl (.lit _ (hempty _)) (hempty _) <| .lit _ <| .lit _ <| .put rfl (hempty _)

theorem renders_footer (names : List Text) :
    Renders [("exports", Json.strings names)] footerTemplate := by
  refine .lit _ (.each rfl (fun item _ => ?_) (.lit _ Template.renders_nil))
  exact .lit _ (.put rfl (.lit _ Template.renders_nil))

/-- The documentation of the module is a text or absent. -/
def HasTextDocs (config : Config) : Prop :=
  ∃ found, config.setting? "module_docs" = .ok found ∧ (found.getD .null).IsTextOrNull

theorem header_succeeds (hp : backend.Plans config p) (hdocs : HasTextDocs config) :
    Succeeds (header p) := by
  obtain ⟨found, hfound, htext⟩ := hdocs
  have hmodule : Yields p.moduleDocs (found.getD .null) := by
    rw [← hp.config_eq] at hfound
    exact (yields_ofOutside hfound).bind (yields_pure _)
  unfold header
  refine (succeeds_ofOutside (imports_ok hp)).bind fun names => ?_
  extract_lets written filled
  have hwritten (docs : Json) : Succeeds (written docs) :=
    fill_succeeds (by rw [hp.shelf]; rfl) rfl rfl (renders_header _ docs names)
  have hfilled (docs : Json) (h : docs.IsTextOrNull) : Succeeds (filled docs) := by
    dsimp only [filled]
    split
    · rcases h with rfl | ⟨t, rfl⟩
      · exact absurd ‹Json.null.truthy = true› Bool.false_ne_true
      · exact (succeeds_ofOutside ⟨_, rfl⟩).bind hwritten
    · exact (succeeds_pure _).bind hwritten
  split
  · exact hmodule.then (hfilled _ htext)
  · exact (yields_pure _).then (hfilled _ (Or.inl rfl))

theorem footer_succeeds (hp : backend.Plans config p) {name : Text} (hname : p.module = .str name)
    (enums : List Definition) : Succeeds (footer p enums) := by
  have hregister : Succeeds (getThe Register : Emission Register) :=
    fun register j => ⟨register, register, j, rfl⟩
  refine hregister.bind fun register => ?_
  rw [hname, moduleKey_str]
  refine (succeeds_pure name).bind fun key => ?_
  exact fill_succeeds (by rw [hp.shelf]; rfl) rfl rfl (renders_footer _)

end CatchAll.Target.Python

namespace CatchAll.Generator

open scoped Text
open Schema Target Outcome Emission

/-! ## Runs -/

/-- What a configuration needs for a module to be written. -/
structure Presentable (config : Config) : Prop where
  module : ∃ name, config.moduleName = .str name
  docs : Python.HasTextDocs config
  ending : ∃ t, config.lineEnding = .str t

variable {config : Config} {g : Generator}

theorem moduleWarnings_python {p : Plan} {name : Text} (h : p.module = .str name) :
    ∃ warnings, Python.backend.moduleWarnings p = .ok warnings := by
  show ∃ warnings, Python.moduleWarnings p = .ok warnings
  rw [Python.moduleWarnings, h]
  dsimp only
  split <;> exact ⟨_, rfl⟩

theorem ready_python (hg : Generator.ofConfig Python.backend config none = .ok g)
    (hconfig : Presentable config) {enums : List Definition}
    (he : ∀ d ∈ enums, Python.Emittable g.plan d) : g.Ready enums := by
  obtain ⟨hb, hp⟩ := Generator.ofConfig_ok hg
  have hv : g.plan.memberVocabulary.EndsInLetters :=
    hp.memberVocabulary ▸ Naming.endsInLetters_pythonMembers
  obtain ⟨name, hname⟩ := hconfig.module
  have hnamed : g.plan.module = .str name := by rw [Plan.module, hp.config_eq, hname]
  refine ⟨?_, fun d hd => ?_, ?_, fun d hd => ?_, ?_, ?_⟩
  · rw [hb]
    exact Python.header_succeeds hp hconfig.docs
  · rw [hb]
    obtain ⟨code, hcode⟩ := Python.single_yields hp hv (he d hd)
    exact hcode.succeeds
  · rw [hb]
    exact Python.footer_succeeds hp hnamed enums
  · obtain ⟨c, hc⟩ := (he d hd).context
    exact Plan.namedMembers_of_yields hv hc
  · rw [hb]
    exact moduleWarnings_python hnamed
  · rw [hp.config_eq]
    exact hconfig.ending

/-- A run ends with a module in every state. -/
theorem run_succeeds (hg : Generator.ofConfig Python.backend config none = .ok g)
    (hconfig : Presentable config) {enums : List Definition}
    (he : ∀ d ∈ enums, Python.Emittable g.plan d) (register : Register) (j : Journal) :
    ∃ code warnings metadata register' j', ((g.run enums).run register).run j =
      ((.success code warnings metadata, register'), j') :=
  (ready_python hg hconfig he).run_succeeds register j

theorem presentable_standard : Presentable .standard :=
  ⟨⟨_, rfl⟩, ⟨none, rfl, Or.inl rfl⟩, ⟨_, rfl⟩⟩

end CatchAll.Generator
