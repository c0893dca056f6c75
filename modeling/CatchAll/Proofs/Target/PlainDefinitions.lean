import CatchAll.Proofs.Target.PythonRuns
import CatchAll.Proofs.Target.RustEmission

/-!
# Definitions in plain text

Names and documentation of members are mostly texts, or absent. Of such members, a
module is generated in both languages if and only if each enum has one with a letter
or digit to make a name of: no documentation, sanitizer or template gets in the way.
-/

set_option autoImplicit false

namespace CatchAll

open scoped Text
open Schema Target Outcome Emission Naming

namespace Schema

/-- Whether there is a letter or digit to make a name of. -/
def Member.hasLetter (m : Member) : Bool := m.source.shown.any Char.isAlphanum

/-- Names and documentation are texts or absent. -/
structure Definition.IsPlain (d : Definition) : Prop where
  inText : d.InText
  names : ∀ m ∈ d.members, m.name.IsTextOrNull

theorem Member.source_eq_str {m : Member} (h : m.name.IsTextOrNull) : ∃ t, m.source = .str t := by
  rw [source]
  rcases h with hname | ⟨t, hname⟩
  · rw [hname]
    exact ⟨m.value, rfl⟩
  · rw [hname]
    split
    · exact ⟨t, rfl⟩
    · exact ⟨m.value, rfl⟩

theorem Definition.isPlain_of_values {d : Definition}
    (hvalues : ∀ m ∈ d.members, ∃ value, m = .ofValue value) (hdocs : d.documentation = .null) :
    d.IsPlain := by
  refine ⟨⟨.inl hdocs, fun m hm => ?_⟩, fun m hm => ?_⟩
  all_goals
    obtain ⟨value, rfl⟩ := hvalues m hm
    exact .inl rfl

end Schema

variable {config : Config} {p : Plan} {d : Definition} {c : Context}

/-! ## Enums -/

namespace Target

theorem Plan.buildContext_yields_of_isPlain (hv : p.memberVocabulary.EndsInLetters)
    (hd : d.IsPlain) (hletter : ∃ m ∈ d.members, m.hasLetter = true) :
    ∃ c, Yields (p.buildContext d) c := by
  obtain ⟨m, hm, hletter⟩ := hletter
  exact Plan.buildContext_yields hv (fun m hm => Member.source_eq_str (hd.names m hm))
    ⟨m, hm, List.any_eq_true.mp hletter⟩

namespace Context.Of

/-- The members with a variant of their own are those with something to make a name of. -/
theorem isNamed_eq (h : c.Of p d) {m : Member} (hm : m ∈ c.members) :
    m.isNamed = m.hasLetter := by
  have hunnamed := h.apart.unnamed m hm
  rw [Member.isNamed, h.variant?_eq hm, Member.hasLetter]
  cases hidentifier : m.identifier with
  | none =>
    refine (List.any_eq_false.mpr fun x hx => ?_).symm
    rw [hunnamed.mp hidentifier x hx]
    exact Bool.false_ne_true
  | some name =>
    symm
    by_contra hno
    have hnone : m.identifier = none := by
      refine hunnamed.mpr fun x hx => eq_false_of_ne_true fun hx' => hno ?_
      exact List.any_eq_true.mpr ⟨x, hx, hx'⟩
    rw [hidentifier] at hnone
    cases hnone

theorem exists_hasLetter (h : c.Of p d) : ∃ m ∈ d.members, m.hasLetter = true := by
  obtain ⟨m, hm⟩ := List.exists_mem_of_ne_nil _ h.named
  obtain ⟨hm, hnamed⟩ := List.mem_filter.mp hm
  obtain ⟨m', hm', hsame⟩ := h.exists_member hm
  have hletter : (bare m').hasLetter = (bare m).hasLetter := congrArg Member.hasLetter hsame
  refine ⟨m', hm', hletter.trans ?_⟩
  exact (h.isNamed_eq hm).symm.trans hnamed

end Context.Of

end Target

/-- What both languages need of a configuration to write an enum. -/
structure Config.CanWrite (config : Config) : Prop where
  unit : ∃ unit, config.indentUnit = .ok unit
  module : ∃ name, config.moduleName = .str name

theorem Config.canWrite_standard : Config.standard.CanWrite := ⟨⟨_, rfl⟩, ⟨_, rfl⟩⟩

theorem Config.CanWrite.of_plans {b : Backend} (h : config.CanWrite) (hp : b.Plans config p) :
    (∃ unit, p.config.indentUnit = .ok unit) ∧ ∃ name, p.module = .str name := by
  rw [Plan.module, hp.config_eq]
  exact ⟨h.unit, h.module⟩

theorem Target.Rust.emittable_of_isPlain (hp : Rust.backend.Plans config p)
    (hconfig : config.CanWrite) (hd : d.IsPlain)
    (hletter : ∃ m ∈ d.members, m.hasLetter = true) : Rust.Emittable p d := by
  have hv : p.memberVocabulary.EndsInLetters := hp.memberVocabulary ▸ endsInLetters_rust
  obtain ⟨hunit, hmodule⟩ := hconfig.of_plans hp
  exact ⟨Plan.buildContext_yields_of_isPlain hv hd hletter, hunit, hmodule,
    ⟨_, Rust.documentationText_eq hd.inText.own⟩,
    fun m hm => ⟨_, Rust.documentationText_eq (hd.inText.members m hm)⟩⟩

theorem Target.Python.documentationText_ok {documentation : Json}
    (h : documentation.IsTextOrNull) : ∃ t, Python.documentationText p documentation = .ok t := by
  rw [Python.documentationText, Plan.documentation?]
  rcases h with rfl | ⟨t, rfl⟩
  · rw [Json.truthy, Bool.and_false]
    exact ⟨none, rfl⟩
  · cases p.config.addComments.truthy && (Json.str t).truthy
    · exact ⟨none, rfl⟩
    · exact ⟨some t, rfl⟩

theorem Target.Python.emittable_of_isPlain (hp : Python.backend.Plans config p)
    (hconfig : config.CanWrite) (hd : d.IsPlain)
    (hletter : ∃ m ∈ d.members, m.hasLetter = true) : Python.Emittable p d := by
  have hv : p.memberVocabulary.EndsInLetters := hp.memberVocabulary ▸ endsInLetters_pythonMembers
  obtain ⟨hunit, hmodule⟩ := hconfig.of_plans hp
  exact ⟨Plan.buildContext_yields_of_isPlain hv hd hletter, hunit, hmodule,
    Python.documentationText_ok hd.inText.own,
    fun m hm => Python.documentationText_ok (hd.inText.members m hm)⟩

/-! ## Modules -/

theorem Target.Rust.header_succeeds (hp : Rust.backend.Plans config p)
    (hdocs : ∃ found, config.setting? "module_docs" = .ok found) : Succeeds (Rust.header p) := by
  have hfill (docs : Json) : Succeeds (p.fill "module_header.rs.j2" [("module_docs", docs)]) := by
    rw [Plan.fill, hp.shelf]
    exact (yields_ofTemplate (Rust.render_header docs)).succeeds
  have hmodule : Succeeds p.moduleDocs := by
    rw [← hp.config_eq] at hdocs
    exact (succeeds_ofOutside hdocs).bind fun _ => succeeds_pure _
  rw [Rust.header]
  split
  · exact hmodule.bind hfill
  · exact succeeds_pure _

namespace Generator

variable {g : Generator} {enums : List Definition}

theorem moduleWarnings_rust {p : Plan} {name : Text} (h : p.module = .str name) :
    ∃ warnings, Rust.backend.moduleWarnings p = .ok warnings := by
  show ∃ warnings, Rust.moduleWarnings p = .ok warnings
  rw [Rust.moduleWarnings, h]
  dsimp only
  split <;> exact ⟨_, rfl⟩

theorem ready_rust (hg : Generator.ofConfig Rust.backend config none = .ok g)
    (hconfig : Presentable config) (he : ∀ d ∈ enums, Rust.Emittable g.plan d) :
    g.Ready enums := by
  obtain ⟨hb, hp⟩ := Generator.ofConfig_ok hg
  have hv : g.plan.memberVocabulary.EndsInLetters := hp.memberVocabulary ▸ endsInLetters_rust
  obtain ⟨name, hname⟩ := hconfig.module
  have hnamed : g.plan.module = .str name := by rw [Plan.module, hp.config_eq, hname]
  obtain ⟨found, hfound, -⟩ := hconfig.docs
  refine ⟨?_, fun d hd => ?_, ?_, fun d hd => ?_, ?_, ?_⟩
  · rw [hb]
    exact Rust.header_succeeds hp ⟨found, hfound⟩
  · rw [hb]
    obtain ⟨code, hcode⟩ := Rust.single_yields hp (he d hd)
    exact hcode.succeeds
  · rw [hb]
    exact succeeds_pure _
  · obtain ⟨c, hc⟩ := (he d hd).context
    exact Plan.namedMembers_of_yields hv hc
  · rw [hb]
    exact moduleWarnings_rust hnamed
  · rw [hp.config_eq]
    exact hconfig.ending

end Generator

end CatchAll
