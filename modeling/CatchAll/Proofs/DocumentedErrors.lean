import CatchAll.Generation
import CatchAll.Proofs.Config.Stages
import CatchAll.Proofs.Schema.Acceptance
import CatchAll.Proofs.Target.Runs

/-!
# Documented errors

Generation from a document ends in one of three ways. The error of a document is
the one that loading it gives, whatever was asked for. The error of a language or a
configuration is for a document that loads, when no generator can be made. In every
other case there is a result, and a failed one has no code but the failure that
the generator met.
-/

set_option autoImplicit false

namespace CatchAll

open scoped Text
open Schema Target Outcome

/-! ## Configurations and generators -/

theorem Config.settled_loadFile (tree : Files.Tree) (file : Text) :
    ∃ outcome, Settled (Config.loadFile tree file) outcome := by
  refine exists_settled_bind ⟨_, settled_lift _⟩ fun value => ?_
  cases value with
  | obj fields => exact ⟨_, (settled_note _ _ _).bind fun _ _ => settled_pure fields⟩
  | _ => exact ⟨_, settled_throw _⟩

theorem Config.settled_resolve (tree : Files.Tree) (language : Text) (overrides : Fields)
    (file : Text) : ∃ outcome, Settled (Config.resolve tree language overrides file) outcome := by
  rw [resolve_eq]
  refine exists_settled_bind ?_ fun base => ⟨_, settled_lift _⟩
  rw [underlying]
  split_ifs
  · exact ⟨_, settled_pure _⟩
  · exact exists_settled_bind (settled_loadFile tree file) fun _ => ⟨_, settled_lift _⟩

/-- Why there is no generator for a language and a configuration. -/
inductive Registry.Refuses (r : Registry) (tree : Files.Tree) (language : Text)
    (source : ConfigSource) : RegistryError → Prop
  | unknownLanguage (hb : r.backend? language = none) :
      Refuses r tree language source (.unknownLanguage language r.languages)
  | unusableConfig {b : Backend} {kind : Text} (hb : r.backend? language = some b)
      (hsource : source = .unusable kind) : Refuses r tree language source (.unusableConfig kind)
  | notLoaded {b : Backend} {why : SetupError} (hb : r.backend? language = some b)
      (hsource : ∀ kind, source ≠ .unusable kind)
      (hload : (Registry.configOf tree (r.resolve language) source).run.1 = .error why) :
      Refuses r tree language source (.creation language why)
  | rejected {b : Backend} {config : Config} {why : SetupError}
      (hb : r.backend? language = some b) (hsource : ∀ kind, source ≠ .unusable kind)
      (hload : (Registry.configOf tree (r.resolve language) source).run.1 = .ok config)
      (hg : Generator.ofConfig b config none = .error why) :
      Refuses r tree language source (.creation language why)

section

variable {r : Registry} {tree : Files.Tree} {language : Text} {source : ConfigSource}

theorem Registry.settled_configOf (tree : Files.Tree) (language : Text) (source : ConfigSource) :
    Settled (Registry.configOf tree language source)
      (Registry.configOf tree language source).run.1 := by
  have hsettled : ∃ outcome, Settled (Registry.configOf tree language source) outcome := by
    cases source with
    | ready config => exact ⟨_, settled_pure config⟩
    | _ => exact Config.settled_resolve _ _ _ _
  obtain ⟨outcome, h⟩ := hsettled
  exact h.eq_run ▸ h

theorem Registry.settled_create (r : Registry) (tree : Files.Tree) (language : Text)
    (source : ConfigSource) :
    Settled (r.create tree language source) (r.create tree language source).run.1 := by
  have hsettled : ∃ outcome, Settled (r.create tree language source) outcome := by
    refine exists_settled_bind ⟨_, settled_lift _⟩ fun b => ?_
    have hmake := exists_settled_bind
      ⟨_, (settled_configOf tree (r.resolve language) source).adapt (.creation language)⟩
      fun config => ⟨_, settled_lift
        ((Generator.ofConfig b config none).mapError (RegistryError.creation language))⟩
    cases source with
    | unusable kind => exact ⟨_, settled_throw (RegistryError.unusableConfig kind)⟩
    | _ => exact hmake
  obtain ⟨outcome, h⟩ := hsettled
  exact h.eq_run ▸ h

theorem Registry.create_of_backend? {b : Backend} (hb : r.backend? language = some b)
    (hsource : ∀ kind, source ≠ .unusable kind) :
    Settled (r.create tree language source)
      ((Registry.configOf tree (r.resolve language) source).run.1.mapError (.creation language) >>=
        fun config => (Generator.ofConfig b config none).mapError (.creation language)) := by
  have hmake := ((settled_configOf tree (r.resolve language) source).adapt
    (RegistryError.creation language)).bind fun config _ =>
      settled_lift ((Generator.ofConfig b config none).mapError (RegistryError.creation language))
  rw [create, backend, hb]
  cases source with
  | unusable kind => exact absurd rfl (hsource kind)
  | _ => exact hmake

/-- A generator is made unless one of the reasons against it holds. -/
theorem Registry.create_error_iff (j : Journal) (e : RegistryError) :
    ((ExceptT.run (r.create tree language source)).run j).1 = .error e ↔
      r.Refuses tree language source e := by
  constructor
  · intro h
    cases hb : r.backend? language with
    | none =>
      rw [create, backend, hb] at h
      cases h
      exact .unknownLanguage hb
    | some b =>
      by_cases hsource : ∃ kind, source = .unusable kind
      · obtain ⟨kind, rfl⟩ := hsource
        rw [create, backend, hb] at h
        cases h
        exact .unusableConfig hb rfl
      · have hsource : ∀ kind, source ≠ .unusable kind := not_exists.mp hsource
        rw [create_of_backend? hb hsource] at h
        obtain hload | ⟨config, hload, hmake⟩ := bind_eq_error.mp h
        · obtain ⟨why, hwhy, rfl⟩ := mapError_eq_error.mp hload
          exact .notLoaded hb hsource hwhy
        · obtain ⟨why, hwhy, rfl⟩ := mapError_eq_error.mp hmake
          exact .rejected hb hsource (mapError_eq_ok.mp hload) hwhy
  · intro h
    cases h with
    | unknownLanguage hb =>
      rw [create, backend, hb]
      rfl
    | unusableConfig hb hsource =>
      subst hsource
      rw [create, backend, hb]
      rfl
    | notLoaded hb hsource hload =>
      rw [create_of_backend? hb hsource, hload]
      rfl
    | rejected hb hsource hload hmake =>
      rw [create_of_backend? hb hsource, hload]
      exact mapError_eq_error.mpr ⟨_, hmake, rfl⟩

end

/-! ## Results -/

/-- The three steps, each with its own errors. -/
theorem Generation.ofDocument_outcome (r : Registry) (tree : Files.Tree) (document : Json)
    (language : Text) (source : ConfigSource) :
    ∃ j, (Generation.ofDocument r tree document language source).run.1 =
      (Schema.load document).run.1.mapError .schema >>= fun enums =>
        (r.create tree language source).run.1.mapError .registry >>= fun g =>
          .ok (((g.run enums).run []).run j).1.1 := by
  have hrun : (Generation.ofDocument r tree document language source).run.1 =
      ((ExceptT.run (Generation.ofDocument r tree document language source)).run #[]).1 := rfl
  rw [hrun, Generation.ofDocument, journaled_bind, journaled_adapt]
  rcases hload : (ExceptT.run (Schema.load document)).run #[] with ⟨loaded, j⟩
  rw [show (Schema.load document).run.1 = loaded from congrArg Prod.fst hload]
  cases loaded with
  | error e => exact ⟨#[], rfl⟩
  | ok enums =>
    dsimp only [Except.mapError]
    rw [journaled_bind, journaled_adapt]
    rcases hcreate : (ExceptT.run (r.create tree language source)).run j with ⟨created, j'⟩
    rw [← Registry.settled_create r tree language source j, hcreate]
    cases created with
    | error e => exact ⟨#[], rfl⟩
    | ok g => exact ⟨j', rfl⟩

end CatchAll
