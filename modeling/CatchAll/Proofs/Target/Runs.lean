import CatchAll.Proofs.Target.RustDocumentation

/-!
# Runs of a generator

A run succeeds once each part of the module can be written in every state. A run
that succeeded has written the code of each enum, and the module is those codes
in the order of the enums, with what is shared around them.
-/

set_option autoImplicit false

namespace CatchAll.Target

open scoped Text
open Schema Outcome Emission

namespace Emission

variable {α β : Type}

/-- An emission that gives something in every state. -/
def Succeeds (work : Emission α) : Prop :=
  ∀ register j, ∃ a register' j', work.run register j = ((.ok a, register'), j')

theorem Succeeds.bind {work : Emission α} {next : α → Emission β} (h : Succeeds work)
    (hnext : ∀ a, Succeeds (next a)) : Succeeds (work >>= next) := by
  intro register j
  obtain ⟨a, register₁, j₁, hwork⟩ := h register j
  obtain ⟨b, register', j', hrest⟩ := hnext a register₁ j₁
  exact ⟨b, register', j', run_bind_ok.mpr ⟨a, register₁, j₁, hwork, hrest⟩⟩

theorem Yields.then {work : Emission α} {next : α → Emission β} {a : α} (h : Yields work a)
    (hnext : Succeeds (next a)) : Succeeds (work >>= next) := by
  intro register j
  obtain ⟨register₁, j₁, hwork⟩ := h register j
  obtain ⟨b, register', j', hrest⟩ := hnext register₁ j₁
  exact ⟨b, register', j', run_bind_ok.mpr ⟨a, register₁, j₁, hwork, hrest⟩⟩

theorem Yields.succeeds {work : Emission α} {a : α} (h : Yields work a) : Succeeds work :=
  fun register j => ⟨a, h register j⟩

theorem succeeds_pure (a : α) : Succeeds (pure a : Emission α) := (yields_pure a).succeeds

theorem succeeds_ofOutside {work : Except Outside α} (h : ∃ a, work = .ok a) :
    Succeeds (ofOutside work) := by
  obtain ⟨a, ha⟩ := h
  exact (yields_ofOutside ha).succeeds

end Emission

theorem Plan.namedMembers_of_yields {p : Plan} {d : Definition} {c : Context}
    (hv : p.memberVocabulary.EndsInLetters) (h : Yields (p.buildContext d) c) :
    ∃ members, p.namedMembers d = .ok members := by
  obtain ⟨register, j, hrun⟩ := h [] #[]
  exact ⟨c.members, (Plan.buildContext_ok hv hrun).derived⟩

end CatchAll.Target

namespace CatchAll.Generator

open scoped Text
open Schema Target Outcome Emission

variable {g : Generator} {enums : List Definition}

/-! ## The steps of a run -/

theorem attempt_ok {result : Result} {register register' : Register} {j j' : Journal}
    (h : (g.attempt enums).run register j = ((.ok result, register'), j')) :
    ∃ warnings code tidy j₁, g.validate enums = .ok warnings ∧
      (g.generate enums).run register j = ((.ok code, register'), j₁) ∧
      g.format code = .ok tidy ∧ result = .success tidy warnings (g.metadata enums) := by
  obtain ⟨warnings, _, _, hvalidated, h⟩ := run_bind_ok.mp h
  obtain ⟨hvalid, rfl, rfl⟩ := run_ofOutside_ok.mp hvalidated
  obtain ⟨code, register₁, j₁, hgenerate, h⟩ := run_bind_ok.mp h
  obtain ⟨tidy, _, _, hformatted, h⟩ := run_bind_ok.mp h
  obtain ⟨hformat, rfl, rfl⟩ := run_ofOutside_ok.mp hformatted
  obtain ⟨_, _, _, hnote, h⟩ := run_bind_ok.mp h
  cases hnote
  cases h
  exact ⟨warnings, code, tidy, j₁, hvalid, hgenerate, hformat, rfl⟩

theorem attempt_of_success {code : Text} {warnings : List Text} {metadata : Metadata}
    {register register' : Register} {j j' : Journal}
    (h : ((g.run enums).run register).run j =
      ((.success code warnings metadata, register'), j')) :
    (g.attempt enums).run register j =
      ((.ok (.success code warnings metadata), register'), j') := by
  rw [run_eq_conclude] at h
  rcases hdone : (g.attempt enums).run register j with ⟨⟨result | result, after⟩, journal⟩
  · rw [hdone] at h
    cases h
  · rw [hdone] at h
    cases h
    rfl

/-- The code of a module has these texts in it, one after the other. -/
def Contains (g : Generator) (code : Text) (bodies : List Text) : Prop :=
  ∃ before after,
    g.format (Text.joinWith "\n\n" (before ++ bodies ++ after) ++ "\n") = .ok code

theorem singles_ok {bodies : List Text} {register register' : Register} {j j' : Journal}
    (h : (g.singles enums).run register j = ((.ok bodies, register'), j')) :
    List.Forall₂ (fun d body => ∃ register j register' j',
      (g.backend.single g.plan d).run register j = ((.ok body, register'), j')) enums bodies := by
  induction enums generalizing bodies register j register' j' with
  | nil =>
    obtain ⟨rfl, -, -⟩ := run_pure_ok.mp h
    exact .nil
  | cons d enums ih =>
    obtain ⟨body, register₁, j₁, hbody, h⟩ := run_bind_ok.mp h
    obtain ⟨rest, register₂, j₂, hrest, h⟩ := run_bind_ok.mp h
    obtain ⟨rfl, -, -⟩ := run_pure_ok.mp h
    exact .cons ⟨register, j, register₁, j₁, hbody⟩ (ih hrest)

theorem generate_ok {code : Text} {register register' : Register} {j j' : Journal}
    (h : (g.generate enums).run register j = ((.ok code, register'), j')) :
    ∃ before bodies after,
      code = Text.joinWith "\n\n" (before ++ bodies ++ after) ++ "\n" ∧
      List.Forall₂ (fun d body => ∃ register j register' j',
        (g.backend.single g.plan d).run register j = ((.ok body, register'), j')) enums bodies := by
  obtain ⟨-, _, _, -, h⟩ := run_bind_ok.mp h
  obtain ⟨-, _, _, -, h⟩ := run_bind_ok.mp h
  obtain ⟨header, _, _, -, h⟩ := run_bind_ok.mp h
  obtain ⟨bodies, _, _, hbodies, h⟩ := run_bind_ok.mp h
  obtain ⟨shared, _, _, -, h⟩ := run_bind_ok.mp h
  obtain ⟨footer, _, _, -, h⟩ := run_bind_ok.mp h
  obtain ⟨rfl, -, -⟩ := run_pure_ok.mp h
  refine ⟨part header, bodies, shared.definitions g.module.shown ++ part footer, ?_,
    singles_ok hbodies⟩
  rw [List.append_assoc]

/-- A run that succeeded has written each enum, and the module has what was written. -/
theorem bodies_of_success {code : Text} {warnings : List Text} {metadata : Metadata}
    {register register' : Register} {j j' : Journal}
    (h : ((g.run enums).run register).run j =
      ((.success code warnings metadata, register'), j')) :
    ∃ bodies, g.Contains code bodies ∧
      List.Forall₂ (fun d body => ∃ register j register' j',
        (g.backend.single g.plan d).run register j = ((.ok body, register'), j')) enums bodies := by
  obtain ⟨found, written, tidy, j₁, -, hgenerate, hformat, hresult⟩ :=
    attempt_ok (attempt_of_success h)
  cases hresult
  obtain ⟨before, bodies, after, rfl, hbodies⟩ := generate_ok hgenerate
  exact ⟨bodies, ⟨before, after, hformat⟩, hbodies⟩

/-! ## Runs that succeed -/

/-- What a run needs of its parts. -/
structure Ready (g : Generator) (enums : List Definition) : Prop where
  header : Succeeds (g.backend.header g.plan)
  singles : ∀ d ∈ enums, Succeeds (g.backend.single g.plan d)
  footer : Succeeds (g.backend.footer g.plan enums)
  members : ∀ d ∈ enums, ∃ members, g.plan.namedMembers d = .ok members
  warnings : ∃ warnings, g.backend.moduleWarnings g.plan = .ok warnings
  ending : ∃ t, g.plan.config.lineEnding = .str t

theorem singles_succeed (h : ∀ d ∈ enums, Succeeds (g.backend.single g.plan d)) :
    Succeeds (g.singles enums) := by
  induction enums with
  | nil => exact succeeds_pure _
  | cons d enums ih =>
    obtain ⟨hfirst, hrest⟩ := List.forall_mem_cons.mp h
    rw [singles]
    exact hfirst.bind fun _ => (ih hrest).bind fun _ => succeeds_pure _

theorem enumsWarnings_ok {p : Plan} (before : List (Text × Text))
    (h : ∀ d ∈ enums, ∃ members, p.namedMembers d = .ok members) :
    ∃ warnings, enumsWarnings p before enums = .ok warnings := by
  induction enums generalizing before with
  | nil => exact ⟨[], rfl⟩
  | cons d enums ih =>
    obtain ⟨⟨members, hmembers⟩, hrest⟩ := List.forall_mem_cons.mp h
    obtain ⟨rest, hrest⟩ := ih (before ++ [(p.typeName d.name, d.name)]) hrest
    have hhere : ∃ here, enumWarnings p before d = .ok here :=
      ⟨_, bind_eq_ok.mpr ⟨members, hmembers, rfl⟩⟩
    obtain ⟨here, hhere⟩ := hhere
    exact ⟨_, bind_eq_ok.mpr ⟨_, hhere, bind_eq_ok.mpr ⟨rest, hrest, rfl⟩⟩⟩

namespace Ready

theorem generate (h : g.Ready enums) : Succeeds (g.generate enums) := by
  have hset : Succeeds (set ([] : Register) : Emission PUnit) :=
    fun register j => ⟨⟨⟩, [], j, rfl⟩
  have hget : Succeeds (getThe Register : Emission Register) :=
    fun register j => ⟨register, register, j, rfl⟩
  rw [Generator.generate]
  exact hset.bind fun _ => (yields_note _ _ _).succeeds.bind fun _ => h.header.bind fun _ =>
    (singles_succeed h.singles).bind fun _ => hget.bind fun _ => h.footer.bind fun _ =>
    succeeds_pure _

theorem validate (h : g.Ready enums) : ∃ warnings, g.validate enums = .ok warnings := by
  obtain ⟨warnings, hwarnings⟩ := enumsWarnings_ok [] h.members
  obtain ⟨others, hothers⟩ := h.warnings
  exact ⟨_, bind_eq_ok.mpr ⟨warnings, hwarnings, bind_eq_ok.mpr ⟨others, hothers, rfl⟩⟩⟩

theorem format (h : g.Ready enums) (code : Text) : ∃ tidy, g.format code = .ok tidy := by
  obtain ⟨ending, hending⟩ := h.ending
  rw [Generator.format, hending]
  exact ⟨_, rfl⟩

/-- A run ends with a module in every state. -/
theorem run_succeeds (h : g.Ready enums) (register : Register) (j : Journal) :
    ∃ code warnings metadata register' j', ((g.run enums).run register).run j =
      ((.success code warnings metadata, register'), j') := by
  obtain ⟨warnings, hwarnings⟩ := h.validate
  have hattempt : Succeeds (g.attempt enums) :=
    (yields_ofOutside hwarnings).then <| h.generate.bind fun code =>
      (succeeds_ofOutside (h.format code)).bind fun tidy =>
      (yields_note _ _ _).succeeds.bind fun _ => succeeds_pure _
  obtain ⟨result, register', j', hresult⟩ := hattempt register j
  obtain ⟨warnings, code, tidy, j₁, -, -, -, rfl⟩ := attempt_ok hresult
  rw [run_eq_conclude, hresult]
  exact ⟨tidy, warnings, g.metadata enums, register', j', rfl⟩

end Ready

end CatchAll.Generator
