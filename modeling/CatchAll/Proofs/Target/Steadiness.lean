import CatchAll.Proofs.Target.Sharing
import CatchAll.Proofs.Target.Wrapper

/-!
# Emissions that the register does not sway

The register is looked at in two places: a request looks whether the wrapper is
there, and a module reads the definitions that it adds. What a request gives does
not depend on what it finds, since the source of the wrapper can always be written
for a checked decoration. So two runs of a step end alike, whatever was noted before,
and registers that were related stay so.
-/

set_option autoImplicit false

namespace CatchAll.Target

open scoped Text
open Schema Outcome

namespace Emission

variable {α β : Type} {ρ σ τ : Register → Register → Prop} {work : Emission α}

/-- Two ends of one emission: the same failure, or the same value with related registers. -/
inductive EndAlike (σ : Register → Register → Prop) :
    Except Failure α × Register → Except Failure α × Register → Prop
  | ok (a : α) {register other : Register} (h : σ register other) :
      EndAlike σ (.ok a, register) (.ok a, other)
  | error (failure : Failure) (register other : Register) :
      EndAlike σ (.error failure, register) (.error failure, other)

theorem EndAlike.eq {r s : Except Failure α × Register} (h : EndAlike σ r s) : r.1 = s.1 := by
  cases h <;> rfl

/-- From registers that `ρ` relates an emission ends alike, whatever the journals hold. -/
def Steady (ρ : Register → Register → Prop) (work : Emission α)
    (σ : Register → Register → Prop) : Prop :=
  ∀ register other j k, ρ register other →
    EndAlike σ (work.run register j).1 (work.run other k).1

theorem Steady.bind {next : α → Emission β} (h : Steady ρ work σ)
    (hnext : ∀ a, Gives work a → Steady σ (next a) τ) : Steady ρ (work >>= next) τ := by
  intro register other j k hρ
  have halike := h register other j k hρ
  rw [run_bind, run_bind]
  rcases hwork : work.run register j with ⟨⟨r, register₁⟩, j₁⟩
  rcases hother : work.run other k with ⟨⟨s, other₁⟩, k₁⟩
  rw [hwork, hother] at halike
  cases halike with
  | ok a hσ => exact hnext a ⟨_, _, _, _, hwork⟩ _ _ _ _ hσ
  | error failure => exact .error failure _ _

/-! ## Steps that define nothing -/

theorem steady_pure (a : α) : Steady ρ (pure a) ρ := fun _ _ _ _ hρ => .ok a hρ

theorem steady_throw (failure : Failure) (next : α → Emission β) :
    Steady ρ ((throw failure : Emission α) >>= next) σ :=
  fun _ _ _ _ _ => .error failure _ _

theorem steady_ofOutside (outcome : Except Outside α) : Steady ρ (ofOutside outcome) ρ := by
  cases outcome with
  | ok a => exact steady_pure a
  | error o => exact fun _ _ _ _ _ => .error _ _ _

theorem steady_note (level : Level) (speaker message : Text) :
    Steady ρ (note level speaker message : Emission Unit) ρ :=
  fun _ _ _ _ hρ => .ok () hρ

/-- What is read is the same only if the registers are. -/
theorem steady_getRegister : Steady Eq (getThe Register : Emission Register) Eq := by
  rintro register _ _ _ rfl
  exact .ok register rfl

theorem steady_fill (p : Plan) (name : Text) (values : Fields) :
    Steady ρ (p.fill name values) ρ := by
  rw [Plan.fill]
  cases Template.renderNamed p.shelf name values with
  | ok t => exact steady_pure t
  | error e => exact fun _ _ _ _ _ => .error _ _ _

theorem steady_notes (typeName : Text) (members : List Member) :
    Steady ρ
      (forIn members PUnit.unit fun m _ => do
        note .warning Plan.speaker (Plan.unnamedNote typeName m.value)
        pure (ForInStep.yield PUnit.unit)) ρ := by
  induction members with
  | nil => exact steady_pure _
  | cons m members ih =>
    rw [List.forIn_cons]
    refine ((steady_note _ _ _).bind fun _ _ => steady_pure _).bind fun step _ => ?_
    cases step with
    | done _ => exact steady_pure _
    | yield _ => exact ih

theorem steady_buildContext (p : Plan) (d : Definition) : Steady ρ (p.buildContext d) ρ := by
  refine (steady_ofOutside _).bind fun c _ => ?_
  split
  · exact steady_throw _ _
  · exact (steady_notes _ _).bind fun _ _ => steady_pure _

end Emission

open Emission

/-! ## Requests -/

/-- A relation that holds on when both registers get the same definition. -/
def KeptByDefining (ρ : Register → Register → Prop) : Prop :=
  ∀ (d : Shared) {register other : Register}, ρ register other →
    ρ (register.define d) (other.define d)

theorem keptByDefining_any : KeptByDefining fun _ _ => True := fun _ _ _ _ => trivial

theorem keptByDefining_eq : KeptByDefining Eq := fun d _ _ h => congrArg (Register.define · d) h

/-- A request with a source that can be written defines the wrapper. -/
theorem requestWrapper_run {module : Json} {key t : Text} {source : Unit → Except Outside Text}
    (hkey : moduleKey module = .ok key) (hsource : source () = .ok t) (register : Register)
    (j : Journal) :
    ∃ j', (requestWrapper module source).run register j =
      ((.ok (), register.define ⟨key, wrapperName, t⟩), j') := by
  have hkeyed : (ofOutside (moduleKey module)).run register j = ((.ok key, register), j) :=
    run_ofOutside_ok.mpr ⟨hkey, rfl, rfl⟩
  by_cases hdefined : register.isDefined key wrapperName = true
  · have hfound : register.getOrDefine key wrapperName source = .ok (register, false) :=
      if_pos hdefined
    have hkept : register.define ⟨key, wrapperName, t⟩ = register := if_pos hdefined
    rw [hkept]
    exact ⟨j, run_bind_ok.mpr ⟨key, _, _, hkeyed, run_bind_ok.mpr ⟨register, _, _, rfl,
      run_bind_ok.mpr ⟨_, _, _, run_ofOutside_ok.mpr ⟨hfound, rfl, rfl⟩, rfl⟩⟩⟩⟩
  · have hmade : register.getOrDefine key wrapperName source =
        .ok (register.define ⟨key, wrapperName, t⟩, true) := by
      rw [Register.getOrDefine, if_neg hdefined]
      exact bind_eq_ok.mpr ⟨t, hsource, rfl⟩
    exact ⟨_, run_bind_ok.mpr ⟨key, _, _, hkeyed, run_bind_ok.mpr ⟨register, _, _, rfl,
      run_bind_ok.mpr ⟨_, _, _, run_ofOutside_ok.mpr ⟨hmade, rfl, rfl⟩, rfl⟩⟩⟩⟩

variable {ρ σ : Register → Register → Prop} {α : Type}

theorem steady_requestWrapper (hρ : KeptByDefining ρ) (module : Json)
    {source : Unit → Except Outside Text} (h : ∃ t, source () = .ok t) :
    Steady ρ (requestWrapper module source) ρ := by
  obtain ⟨t, ht⟩ := h
  cases hkey : moduleKey module with
  | ok key =>
    intro register other j k hrelated
    obtain ⟨j', hrun⟩ := requestWrapper_run hkey ht register j
    obtain ⟨k', hother⟩ := requestWrapper_run hkey ht other k
    rw [hrun, hother]
    exact .ok () (hρ _ hrelated)
  | error o =>
    rw [requestWrapper, hkey]
    exact fun _ _ _ _ _ => .error _ _ _

/-- The decoration of the types of a context can be written. -/
def Context.Decorated (c : Context) : Prop := ∀ d, c.decoration = some d → ∃ t, d.render = .ok t

theorem Rust.wrapperSource_ok {c : Context} (hc : c.Decorated) (layout : Layout) :
    ∃ t, Rust.wrapperSource layout c = .ok t := by
  rw [Rust.wrapperSource]
  split
  · obtain ⟨t, ht⟩ := hc _ ‹_›
    exact ⟨_, bind_eq_ok.mpr ⟨t, ht, rfl⟩⟩
  · exact ⟨_, rfl⟩

theorem Python.wrapperSource_ok {c : Context} (hc : c.Decorated) (layout : Layout) :
    ∃ t, Python.wrapperSource layout c = .ok t := by
  rw [Python.wrapperSource]
  split
  · obtain ⟨t, ht⟩ := hc _ ‹_›
    exact ⟨_, bind_eq_ok.mpr ⟨t, ht, rfl⟩⟩
  · exact ⟨_, rfl⟩

theorem Rust.steady_wrapper (hρ : KeptByDefining ρ) {c : Context} (hc : c.Decorated)
    (p : Rust.Policy) : Steady ρ (p.wrapper c) ρ :=
  (steady_requestWrapper hρ _ (Rust.wrapperSource_ok hc p.layout)).bind fun _ _ =>
    steady_ofOutside _

theorem Python.steady_request (hρ : KeptByDefining ρ) {c : Context} (hc : c.Decorated)
    (p : Python.Policy) : Steady ρ (p.request c) ρ :=
  steady_requestWrapper hρ _ (Python.wrapperSource_ok hc p.layout)

/-! ## The fragments of a policy -/

theorem steady_rust {s : Surroundings} {next : Rust.Policy → Emission α}
    (h : ∀ layout, Steady ρ (next ⟨s.module, layout⟩) σ) : Steady ρ (s.rust >>= next) σ := by
  rw [Surroundings.rust, bind_assoc]
  simp only [pure_bind]
  exact (steady_ofOutside _).bind fun layout _ => h layout

theorem steady_python {s : Surroundings} {next : Python.Policy → Emission α}
    (h : ∀ layout, Steady ρ (next ⟨s.module, layout, s.variantCase⟩) σ) :
    Steady ρ (s.python >>= next) σ := by
  rw [Surroundings.python, bind_assoc]
  simp only [pure_bind]
  exact (steady_ofOutside _).bind fun layout _ => h layout

namespace Policy

variable {policy : Policy} (s : Surroundings) (c : Context) (h : policy.IsNative)
include h

section

variable (hρ : KeptByDefining ρ) (hc : c.Decorated)
include hρ hc

theorem steady_members : Steady ρ (policy.members s c) ρ := by
  rcases h with rfl | rfl
  · exact steady_rust fun _ => (Rust.steady_wrapper hρ hc _).bind fun _ _ => steady_pure _
  · exact steady_python fun _ => (Python.steady_request hρ hc _).bind fun _ _ => steady_pure _

theorem steady_fromImpl : Steady ρ (policy.fromImpl s c) ρ := by
  rcases h with rfl | rfl
  · exact steady_rust fun _ => (Rust.steady_wrapper hρ hc _).bind fun _ _ => steady_pure _
  · exact steady_python fun _ => (Python.steady_request hρ hc _).bind fun _ _ => steady_pure _

theorem steady_asStrArm : Steady ρ (policy.asStrArm s c) ρ := by
  rcases h with rfl | rfl
  · exact steady_pure _
  · exact steady_python fun _ => (Python.steady_request hρ hc _).bind fun _ _ => steady_pure _

end

theorem steady_fromStrImpl : Steady ρ (policy.fromStrImpl s c) ρ := by
  rcases h with rfl | rfl
  · exact steady_rust fun _ => steady_pure _
  · exact steady_python fun _ => steady_pure _

theorem steady_docs : Steady ρ (policy.docs s c) ρ := by
  rcases h with rfl | rfl
  · exact steady_rust fun _ => steady_pure _
  · exact steady_python fun _ => steady_pure _

end Policy

/-! ## One enum -/

variable {p : Plan} {c : Context} (d : Definition)

namespace Rust

variable (h : p.policy.IsNative) (hρ : KeptByDefining ρ) (hc : c.Decorated)
include h hρ hc

theorem steady_declaration : Steady ρ (declaration p d c) ρ := by
  unfold declaration
  refine (Policy.steady_docs _ c h).bind fun docs _ => (steady_ofOutside _).bind fun layout _ =>
    (steady_ofOutside _).bind fun documentation _ => ?_
  extract_lets filled
  have hfilled (metadata : Text) : Steady ρ (filled metadata) ρ :=
    (steady_ofOutside _).bind fun _ _ =>
      (Policy.steady_members p.surroundings c h hρ hc).bind fun _ _ => steady_fill p _ _
  split
  · exact (steady_ofOutside _).bind fun metadata _ => hfilled metadata
  · exact (steady_pure _).bind fun metadata _ => hfilled metadata

theorem steady_implementations : Steady ρ (implementations p c) ρ :=
  (Policy.steady_fromImpl p.surroundings c h hρ hc).bind fun _ _ =>
    (Policy.steady_fromStrImpl _ c h).bind fun _ _ =>
      (Policy.steady_asStrArm p.surroundings c h hρ hc).bind fun _ _ => steady_fill p _ _

end Rust

namespace Python

theorem steady_classText (h : p.policy.IsNative) (hρ : KeptByDefining ρ) (hc : c.Decorated) :
    Steady ρ (classText p d c) ρ := by
  unfold classText
  extract_lets filled
  have hfilled (metadata : Text) : Steady ρ (filled metadata) ρ :=
    (steady_ofOutside _).bind fun _ _ => (Policy.steady_docs _ c h).bind fun _ _ =>
      (steady_ofOutside _).bind fun _ _ => (steady_ofOutside _).bind fun _ _ =>
      (Policy.steady_members p.surroundings c h hρ hc).bind fun _ _ =>
      (Policy.steady_fromImpl p.surroundings c h hρ hc).bind fun _ _ =>
      (Policy.steady_fromStrImpl _ c h).bind fun _ _ =>
      (Policy.steady_asStrArm p.surroundings c h hρ hc).bind fun _ _ => steady_fill p _ _
  split
  · exact (steady_ofOutside _).bind fun metadata _ => hfilled metadata
  · exact (steady_pure _).bind fun metadata _ => hfilled metadata

end Python

/-! ## Headers and footers -/

theorem steady_moduleDocs (p : Plan) : Steady ρ p.moduleDocs ρ :=
  (steady_ofOutside _).bind fun _ _ => steady_pure _

theorem Rust.steady_header (p : Plan) : Steady ρ (Rust.header p) ρ := by
  rw [Rust.header]
  split
  · exact (steady_moduleDocs p).bind fun _ _ => steady_fill p _ _
  · exact steady_pure _

theorem Python.steady_header (p : Plan) : Steady ρ (Python.header p) ρ := by
  unfold Python.header
  refine (steady_ofOutside _).bind fun names _ => ?_
  extract_lets written filled
  have hwritten (docs : Json) : Steady ρ (written docs) ρ := steady_fill p _ _
  have hfilled (docs : Json) : Steady ρ (filled docs) ρ := by
    dsimp only [filled]
    split
    · exact (steady_ofOutside _).bind fun docs _ => hwritten docs
    · exact (steady_pure _).bind fun docs _ => hwritten docs
  split
  · exact (steady_moduleDocs p).bind fun docs _ => hfilled docs
  · exact (steady_pure _).bind fun docs _ => hfilled docs

theorem Python.steady_footer (p : Plan) (enums : List Definition) :
    Steady Eq (Python.footer p enums) Eq :=
  steady_getRegister.bind fun _ _ => (steady_ofOutside _).bind fun _ _ => steady_fill p _ _

/-! ## The languages -/

namespace Backend

variable {b : Backend} {config : Config}

theorem steady_header (h : b.IsNative) (p : Plan) : Steady ρ (b.header p) ρ := by
  rcases h with rfl | rfl
  · exact Rust.steady_header p
  · exact Python.steady_header p

theorem steady_footer (h : b.IsNative) (p : Plan) (enums : List Definition) :
    Steady Eq (b.footer p enums) Eq := by
  rcases h with rfl | rfl
  · exact steady_pure _
  · exact Python.steady_footer p enums

theorem Plans.endsInLetters (h : b.IsNative) (hp : b.Plans config p) :
    p.memberVocabulary.EndsInLetters := by
  rcases h with rfl | rfl
  · exact hp.memberVocabulary ▸ Naming.endsInLetters_rust
  · exact hp.memberVocabulary ▸ Naming.endsInLetters_pythonMembers

/-- A context has the decoration that the plan has checked. -/
theorem Plans.decorated (h : b.IsNative) (hp : b.Plans config p)
    (hc : Gives (p.buildContext d) c) : c.Decorated := by
  obtain ⟨register, j, register', j', hrun⟩ := hc
  intro decoration hsome
  rw [(Plan.buildContext_ok (hp.endsInLetters h) hrun).decoration] at hsome
  rcases h with rfl | rfl
  · obtain ⟨checked, hchecked, hdone⟩ := bind_eq_ok.mp hp.decoration
    obtain rfl : checked = decoration := Option.some.inj ((Except.ok.inj hdone).trans hsome)
    exact Rust.decorationOf_renders hchecked
  · obtain ⟨checked, hchecked, hdone⟩ := bind_eq_ok.mp hp.decoration
    obtain rfl : checked = decoration := Option.some.inj ((Except.ok.inj hdone).trans hsome)
    exact Python.decorationOf_renders hchecked

theorem steady_single (h : b.IsNative) (hp : b.Plans config p) (hρ : KeptByDefining ρ) :
    Steady ρ (b.single p d) ρ := by
  have hdecorated (c : Context) := hp.decorated d (c := c) h
  rcases h with rfl | rfl
  · have hpolicy : p.policy.IsNative := Or.inl hp.policy
    exact (steady_buildContext p d).bind fun c hc => (steady_note _ _ _).bind fun _ _ =>
      (Rust.steady_declaration d hpolicy hρ (hdecorated c hc)).bind fun _ _ =>
      (Rust.steady_implementations hpolicy hρ (hdecorated c hc)).bind fun _ _ => steady_pure _
  · show Steady ρ (Python.single p d) ρ
    rw [Python.single, hp.policy]
    exact (steady_buildContext p d).bind fun c hc => (steady_note _ _ _).bind fun _ _ =>
      Python.steady_classText d (Or.inr hp.policy) hρ (hdecorated c hc)

end Backend

end CatchAll.Target
