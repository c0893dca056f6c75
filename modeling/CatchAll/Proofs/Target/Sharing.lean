import CatchAll.Generator
import CatchAll.Proofs.Target.Runs

/-!
# What a module shares

A run begins with an empty register. Each enum asks for the wrapper when it writes
its members, and asks again for some of its other fragments; nothing else is ever
defined. So the register holds the wrapper once if there is an enum, and nothing
if there is none. The steps between are taken one at a time: what holds of the
register before a step, and what after it. The text of the wrapper is one that the
policy writes for an enum with the decoration of the plan.
-/

set_option autoImplicit false

namespace CatchAll.Target

open scoped Text
open Schema

namespace Emission

variable {α β : Type} {P Q R : Register → Prop} {work : Emission α}

/-- A value that an emission can give. -/
def Gives (work : Emission α) (a : α) : Prop :=
  ∃ register j register' j', work.run register j = ((.ok a, register'), j')

theorem gives_ofOutside {outcome : Except Outside α} {a : α} (h : Gives (ofOutside outcome) a) :
    outcome = .ok a := by
  obtain ⟨_, _, _, _, hrun⟩ := h
  exact (run_ofOutside_ok.mp hrun).1

/-- An emission that gives something takes a register with `P` to one with `Q`. -/
def Leaves (P : Register → Prop) (work : Emission α) (Q : Register → Prop) : Prop :=
  ∀ register j a register' j', P register → work.run register j = ((.ok a, register'), j') →
    Q register'

theorem Leaves.bind {next : α → Emission β} (h : Leaves P work Q)
    (hnext : ∀ a, Gives work a → Leaves Q (next a) R) : Leaves P (work >>= next) R := by
  intro register j b register' j' hP hrun
  obtain ⟨a, register₁, j₁, hwork, hrest⟩ := run_bind_ok.mp hrun
  exact hnext a ⟨_, _, _, _, hwork⟩ register₁ j₁ b register' j'
    (h register j a register₁ j₁ hP hwork) hrest

theorem Leaves.from (h : Leaves Q work R) (hP : ∀ register, P register → Q register) :
    Leaves P work R :=
  fun register j a register' j' hregister => h register j a register' j' (hP register hregister)

theorem Leaves.into (h : Leaves P work Q) (hQ : ∀ register, Q register → R register) :
    Leaves P work R :=
  fun register j a register' j' hregister hrun =>
    hQ register' (h register j a register' j' hregister hrun)

/-! ## Steps that define nothing -/

theorem leaves_pure (a : α) : Leaves P (pure a) P := by
  intro register j b register' j' hP hrun
  obtain ⟨-, rfl, -⟩ := run_pure_ok.mp hrun
  exact hP

theorem leaves_throw (failure : Failure) (next : α → Emission β) :
    Leaves P ((throw failure : Emission α) >>= next) Q := by
  intro register j b register' j' _ hrun
  cases hrun

theorem leaves_ofOutside (outcome : Except Outside α) : Leaves P (ofOutside outcome) P := by
  intro register j a register' j' hP hrun
  obtain ⟨-, rfl, -⟩ := run_ofOutside_ok.mp hrun
  exact hP

theorem leaves_note (level : Level) (speaker message : Text) :
    Leaves P (note level speaker message : Emission Unit) P := by
  intro register j a register' j' hP hrun
  cases hrun
  exact hP

theorem leaves_getRegister : Leaves P (getThe Register : Emission Register) P := by
  intro register j a register' j' hP hrun
  cases hrun
  exact hP

theorem leaves_fill (p : Plan) (name : Text) (values : Fields) :
    Leaves P (p.fill name values) P := by
  intro register j a register' j' hP hrun
  obtain ⟨-, rfl, -⟩ := run_ofTemplate_ok.mp hrun
  exact hP

theorem leaves_notes (typeName : Text) (members : List Member) :
    Leaves P
      (forIn members PUnit.unit fun m _ => do
        note .warning Plan.speaker (Plan.unnamedNote typeName m.value)
        pure (ForInStep.yield PUnit.unit)) P := by
  induction members with
  | nil => exact leaves_pure _
  | cons m members ih =>
    rw [List.forIn_cons]
    refine ((leaves_note _ _ _).bind fun _ _ => leaves_pure _).bind fun step _ => ?_
    cases step with
    | done _ => exact leaves_pure _
    | yield _ => exact ih

theorem leaves_buildContext (p : Plan) (d : Definition) : Leaves P (p.buildContext d) P := by
  refine (leaves_ofOutside _).bind fun c _ => ?_
  split
  · exact leaves_throw _ _
  · exact (leaves_notes _ _).bind fun _ _ => leaves_pure _

end Emission

open Emission

/-! ## Requests -/

/-- The register holds the wrapper of a module and nothing else. -/
def HoldsWrapper (module : Text) (register : Register) : Prop :=
  ∃ source, register = [⟨module, wrapperName, source⟩]

/-- The register holds the wrapper as one of some texts, and nothing else. -/
def Holds (texts : Text → Prop) (module : Text) (register : Register) : Prop :=
  ∃ source, texts source ∧ register = [⟨module, wrapperName, source⟩]

/-- The register holds nothing else than the wrapper as one of some texts. -/
def AtMost (texts : Text → Prop) (module : Text) (register : Register) : Prop :=
  register = [] ∨ Holds texts module register

theorem Holds.wrapper {texts : Text → Prop} {module : Text} (register : Register)
    (h : Holds texts module register) : HoldsWrapper module register := by
  obtain ⟨source, -, hregister⟩ := h
  exact ⟨source, hregister⟩

theorem Holds.atMost {texts : Text → Prop} {module : Text} (register : Register)
    (h : Holds texts module register) : AtMost texts module register := Or.inr h

theorem moduleKey_ok {module : Json} {key : Text} (h : moduleKey module = .ok key) :
    key = module.shown := by
  cases module with
  | arr _ => cases h
  | obj _ => cases h
  | _ => exact (Except.ok.inj h).symm

/-- A request defines the wrapper if it is not there, and nothing else. -/
theorem leaves_requestWrapper {texts : Text → Prop} (module : Json)
    {source : Unit → Except Outside Text} (h : ∀ t, source () = .ok t → texts t) :
    Leaves (AtMost texts module.shown) (requestWrapper module source)
      (Holds texts module.shown) := by
  intro register j a register' j' hregister hrun
  obtain ⟨key, _, _, hkeyed, hrun⟩ := run_bind_ok.mp hrun
  obtain ⟨hkey, rfl, rfl⟩ := run_ofOutside_ok.mp hkeyed
  obtain rfl := moduleKey_ok hkey
  obtain ⟨_, _, _, hget, hrun⟩ := run_bind_ok.mp hrun
  cases hget
  obtain ⟨⟨defined, isNew⟩, _, _, hdefined, hrun⟩ := run_bind_ok.mp hrun
  obtain ⟨hdefine, rfl, rfl⟩ := run_ofOutside_ok.mp hdefined
  rcases hregister with rfl | ⟨held, hheld, rfl⟩
  · obtain ⟨text, htext, hdone⟩ := Outcome.bind_eq_ok.mp hdefine
    obtain ⟨rfl, rfl⟩ := Prod.mk.inj (Except.ok.inj hdone)
    cases hrun
    exact ⟨text, h text htext, rfl⟩
  · have hdefined : Register.isDefined [⟨module.shown, wrapperName, held⟩] module.shown
        wrapperName = true := by simp [Register.isDefined]
    rw [Register.getOrDefine, if_pos hdefined] at hdefine
    obtain ⟨rfl, rfl⟩ := Prod.mk.inj (Except.ok.inj hdefine)
    cases hrun
    exact ⟨held, hheld, rfl⟩

theorem Rust.leaves_wrapper {texts : Text → Prop} {c : Context} (p : Rust.Policy)
    (h : ∀ t, wrapperSource p.layout c = .ok t → texts t) :
    Leaves (AtMost texts p.module.shown) (p.wrapper c) (Holds texts p.module.shown) :=
  (leaves_requestWrapper p.module h).bind fun _ _ => leaves_ofOutside _

/-! ## The fragments of a policy -/

/-- A text that a policy writes the wrapper as for an enum. -/
def Policy.Wraps (s : Surroundings) (c : Context) (source : Text) : Policy → Prop
  | .rust => ∃ layout, s.layout = .ok layout ∧ Rust.wrapperSource layout c = .ok source
  | .python => ∃ layout, s.layout = .ok layout ∧ Python.wrapperSource layout c = .ok source
  | .fixed _ => False

variable {P Q : Register → Prop} {α : Type}

theorem leaves_rust {s : Surroundings} {next : Rust.Policy → Emission α}
    (h : ∀ layout, s.layout = .ok layout → Leaves P (next ⟨s.module, layout⟩) Q) :
    Leaves P (s.rust >>= next) Q := by
  rw [Surroundings.rust, bind_assoc]
  simp only [pure_bind]
  exact (leaves_ofOutside _).bind fun layout hlayout => h layout (gives_ofOutside hlayout)

theorem leaves_python {s : Surroundings} {next : Python.Policy → Emission α}
    (h : ∀ layout, s.layout = .ok layout → Leaves P (next ⟨s.module, layout, s.variantCase⟩) Q) :
    Leaves P (s.python >>= next) Q := by
  rw [Surroundings.python, bind_assoc]
  simp only [pure_bind]
  exact (leaves_ofOutside _).bind fun layout hlayout => h layout (gives_ofOutside hlayout)

namespace Policy

/-- A policy that sends unknown values to the wrapper. -/
def IsNative (policy : Policy) : Prop := policy = .rust ∨ policy = .python

variable {policy : Policy} (s : Surroundings) {c : Context}

section

variable {texts : Text → Prop} (h : policy.IsNative)
  (htexts : ∀ source, policy.Wraps s c source → texts source)
include h htexts

theorem leaves_members :
    Leaves (AtMost texts s.module.shown) (policy.members s c) (Holds texts s.module.shown) := by
  rcases h with rfl | rfl
  · exact leaves_rust fun layout hlayout =>
      (Rust.leaves_wrapper ⟨s.module, layout⟩ fun t ht => htexts t ⟨layout, hlayout, ht⟩).bind
        fun _ _ => leaves_pure _
  · exact leaves_python fun layout hlayout =>
      (leaves_requestWrapper _ fun t ht => htexts t ⟨layout, hlayout, ht⟩).bind fun _ _ =>
        leaves_pure _

theorem leaves_fromImpl :
    Leaves (AtMost texts s.module.shown) (policy.fromImpl s c) (Holds texts s.module.shown) := by
  rcases h with rfl | rfl
  · exact leaves_rust fun layout hlayout =>
      (Rust.leaves_wrapper ⟨s.module, layout⟩ fun t ht => htexts t ⟨layout, hlayout, ht⟩).bind
        fun _ _ => leaves_pure _
  · exact leaves_python fun layout hlayout =>
      (leaves_requestWrapper _ fun t ht => htexts t ⟨layout, hlayout, ht⟩).bind fun _ _ =>
        leaves_pure _

theorem leaves_asStrArm :
    Leaves (Holds texts s.module.shown) (policy.asStrArm s c) (Holds texts s.module.shown) := by
  rcases h with rfl | rfl
  · exact leaves_pure _
  · exact leaves_python fun layout hlayout =>
      ((leaves_requestWrapper _ fun t ht => htexts t ⟨layout, hlayout, ht⟩).from
        Holds.atMost).bind fun _ _ => leaves_pure _

end

variable (c)

theorem leaves_fromStrImpl (h : policy.IsNative) : Leaves P (policy.fromStrImpl s c) P := by
  rcases h with rfl | rfl
  · exact leaves_rust fun _ _ => leaves_pure _
  · exact leaves_python fun _ _ => leaves_pure _

theorem leaves_docs (h : policy.IsNative) : Leaves P (policy.docs s c) P := by
  rcases h with rfl | rfl
  · exact leaves_rust fun _ _ => leaves_pure _
  · exact leaves_python fun _ _ => leaves_pure _

end Policy

/-! ## One enum -/

/-- A text that the wrapper has under a plan: what it is for an enum that has the decoration
of the plan. -/
def Plan.Wraps (p : Plan) (source : Text) : Prop :=
  ∃ c : Context, c.decoration = p.decoration ∧ p.policy.Wraps p.surroundings c source

theorem Plan.decoration_of_gives {p : Plan} {d : Definition} {c : Context}
    (h : Gives (p.buildContext d) c) : c.decoration = p.decoration := by
  obtain ⟨_, _, _, _, hrun⟩ := h
  obtain ⟨context, _, _, hcontext, hrun⟩ := run_bind_ok.mp hrun
  obtain ⟨members, -, hdone⟩ := Outcome.bind_eq_ok.mp (run_ofOutside_ok.mp hcontext).1
  obtain rfl := Except.ok.inj hdone
  split at hrun
  · cases hrun
  · obtain ⟨-, _, _, -, hrun⟩ := run_bind_ok.mp hrun
    obtain ⟨rfl, -, -⟩ := run_pure_ok.mp hrun
    rfl

variable {p : Plan} (d : Definition)

section

variable {texts : Text → Prop} {c : Context} (h : p.policy.IsNative)
  (htexts : ∀ source, p.policy.Wraps p.surroundings c source → texts source)
include h htexts

namespace Rust

theorem leaves_declaration : Leaves (AtMost texts p.module.shown) (declaration p d c)
    (Holds texts p.module.shown) := by
  have hfilled (docs : Text) (layout : Layout) (documentation : Option Text) (metadata : Text) :
      Leaves (AtMost texts p.module.shown) (do
        let variants ← Emission.ofOutside (c.named.mapM (variant p layout))
        let members ← p.policy.members p.surroundings c
        p.fill "enum.rs.j2"
          [("docs", .str (enumDocs layout documentation docs)),
           ("metadata", .str metadata),
           ("enum_name", .str c.typeName),
           ("variants", .arr variants),
           ("additional_members", .str members)]) (Holds texts p.module.shown) :=
    (leaves_ofOutside _).bind fun _ _ =>
      (Policy.leaves_members p.surroundings h htexts).bind fun _ _ => leaves_fill p _ _
  refine (Policy.leaves_docs _ c h).bind fun docs _ => (leaves_ofOutside _).bind fun layout _ =>
    (leaves_ofOutside _).bind fun documentation _ => ?_
  split
  · exact (leaves_ofOutside _).bind fun metadata _ => hfilled docs layout documentation metadata
  · exact (leaves_pure _).bind fun metadata _ => hfilled docs layout documentation metadata

theorem leaves_implementations : Leaves (Holds texts p.module.shown) (implementations p c)
    (Holds texts p.module.shown) :=
  ((Policy.leaves_fromImpl p.surroundings h htexts).from Holds.atMost).bind fun _ _ =>
    (Policy.leaves_fromStrImpl _ c h).bind fun _ _ =>
      (Policy.leaves_asStrArm p.surroundings h htexts).bind fun _ _ => leaves_fill p _ _

end Rust

namespace Python

theorem leaves_classText : Leaves (AtMost texts p.module.shown) (classText p d c)
    (Holds texts p.module.shown) := by
  unfold classText
  extract_lets filled
  have hfilled (metadata : Text) : Leaves (AtMost texts p.module.shown) (filled metadata)
      (Holds texts p.module.shown) :=
    (leaves_ofOutside _).bind fun _ _ => (Policy.leaves_docs _ c h).bind fun _ _ =>
      (leaves_ofOutside _).bind fun _ _ => (leaves_ofOutside _).bind fun _ _ =>
      (Policy.leaves_members p.surroundings h htexts).bind fun _ _ =>
      ((Policy.leaves_fromImpl p.surroundings h htexts).from Holds.atMost).bind fun _ _ =>
      (Policy.leaves_fromStrImpl _ c h).bind fun _ _ =>
      (Policy.leaves_asStrArm p.surroundings h htexts).bind fun _ _ => leaves_fill p _ _
  split
  · exact (leaves_ofOutside _).bind fun metadata _ => hfilled metadata
  · exact (leaves_pure _).bind fun metadata _ => hfilled metadata

end Python

end

section

variable {texts : Text → Prop} (htexts : ∀ source, p.Wraps source → texts source)
include htexts

theorem Rust.holds_single (h : p.policy.IsNative) :
    Leaves (AtMost texts p.module.shown) (single p d) (Holds texts p.module.shown) := by
  refine (leaves_buildContext p d).bind fun c hc => (leaves_note _ _ _).bind fun _ _ => ?_
  have hown (source : Text) (hsource : p.policy.Wraps p.surroundings c source) : texts source :=
    htexts source ⟨c, Plan.decoration_of_gives hc, hsource⟩
  exact (leaves_declaration d h hown).bind fun _ _ =>
    (leaves_implementations h hown).bind fun _ _ => leaves_pure _

theorem Python.holds_single (h : p.policy = .python) :
    Leaves (AtMost texts p.module.shown) (single p d) (Holds texts p.module.shown) := by
  rw [single]
  refine (leaves_buildContext p d).bind fun c hc => (leaves_note _ _ _).bind fun _ _ => ?_
  have hown (source : Text) (hsource : p.policy.Wraps p.surroundings c source) : texts source :=
    htexts source ⟨c, Plan.decoration_of_gives hc, hsource⟩
  rw [h]
  exact leaves_classText d (Or.inr h) hown

end

/-! ## Headers and footers -/

theorem leaves_moduleDocs (p : Plan) : Leaves P p.moduleDocs P :=
  (leaves_ofOutside _).bind fun _ _ => leaves_pure _

theorem Rust.leaves_header (p : Plan) : Leaves P (Rust.header p) P := by
  rw [Rust.header]
  split
  · exact (leaves_moduleDocs p).bind fun _ _ => leaves_fill p _ _
  · exact leaves_pure _

theorem Python.leaves_header (p : Plan) : Leaves P (Python.header p) P := by
  unfold Python.header
  refine (leaves_ofOutside _).bind fun names _ => ?_
  extract_lets written filled
  have hwritten (docs : Json) : Leaves P (written docs) P := leaves_fill p _ _
  have hfilled (docs : Json) : Leaves P (filled docs) P := by
    dsimp only [filled]
    split
    · exact (leaves_ofOutside _).bind fun docs _ => hwritten docs
    · exact (leaves_pure _).bind fun docs _ => hwritten docs
  split
  · exact (leaves_moduleDocs p).bind fun docs _ => hfilled docs
  · exact (leaves_pure _).bind fun docs _ => hfilled docs

theorem Python.leaves_footer (p : Plan) (enums : List Definition) :
    Leaves P (Python.footer p enums) P :=
  leaves_getRegister.bind fun _ _ => (leaves_ofOutside _).bind fun _ _ => leaves_fill p _ _

/-! ## The languages -/

/-- A language that comes with the library. -/
def Backend.IsNative (b : Backend) : Prop := b = Rust.backend ∨ b = Python.backend

namespace Backend

variable {b : Backend} {config : Config}

theorem leaves_header (h : b.IsNative) (p : Plan) : Leaves P (b.header p) P := by
  rcases h with rfl | rfl
  · exact Rust.leaves_header p
  · exact Python.leaves_header p

theorem leaves_footer (h : b.IsNative) (p : Plan) (enums : List Definition) :
    Leaves P (b.footer p enums) P := by
  rcases h with rfl | rfl
  · exact leaves_pure _
  · exact Python.leaves_footer p enums

/-- The wrapper that an enum asks for is one that the plan gives, unless it was there. -/
theorem holds_single {texts : Text → Prop} (htexts : ∀ source, p.Wraps source → texts source)
    (h : b.IsNative) (hp : b.Plans config p) :
    Leaves (AtMost texts p.module.shown) (b.single p d) (Holds texts p.module.shown) := by
  rcases h with rfl | rfl
  · exact Rust.holds_single d htexts (Or.inl hp.policy)
  · exact Python.holds_single d htexts hp.policy

theorem leaves_single (h : b.IsNative) (hp : b.Plans config p) :
    Leaves (fun register => register = [] ∨ HoldsWrapper p.module.shown register) (b.single p d)
      (HoldsWrapper p.module.shown) := by
  have hany : Leaves (AtMost (fun _ => True) p.module.shown) (b.single p d)
      (Holds (fun _ => True) p.module.shown) := holds_single d (fun _ _ => trivial) h hp
  refine (hany.from ?_).into Holds.wrapper
  rintro register (hnone | ⟨source, hsource⟩)
  · exact Or.inl hnone
  · exact Or.inr ⟨source, trivial, hsource⟩

end Backend

end CatchAll.Target

namespace CatchAll.Generator

open scoped Text
open Schema Target Emission

variable {config : Config} {g : Generator}

/-! ## The module -/

/-- What the enums of a module share: the wrapper, if there is an enum. -/
def Shares (module : Text) (enums : List Definition) (register : Register) : Prop :=
  if enums = [] then register = [] else HoldsWrapper module register

/-- What they share is one of the texts that the plan gives. -/
def SharesOwn (g : Generator) (enums : List Definition) (register : Register) : Prop :=
  if enums = [] then register = [] else Holds g.plan.Wraps g.module.shown register

theorem SharesOwn.shares {enums : List Definition} (register : Register)
    (h : g.SharesOwn enums register) : Shares g.module.shown enums register := by
  rw [SharesOwn] at h
  rw [Shares]
  split at h
  · exact (if_pos ‹_›).mpr h
  · exact (if_neg ‹_›).mpr (Holds.wrapper register h)

/-- Once the wrapper is there, more enums change nothing. -/
theorem leaves_more (h : g.backend.IsNative) (hp : g.backend.Plans config g.plan)
    (enums : List Definition) :
    Leaves (Holds g.plan.Wraps g.module.shown) (g.singles enums)
      (Holds g.plan.Wraps g.module.shown) := by
  induction enums with
  | nil => exact leaves_pure _
  | cons d enums ih =>
    exact ((Backend.holds_single d (fun _ => id) h hp).from Holds.atMost).bind fun _ _ =>
      ih.bind fun _ _ => leaves_pure _

theorem leaves_singles (h : g.backend.IsNative) (hp : g.backend.Plans config g.plan)
    (enums : List Definition) : Leaves (· = []) (g.singles enums) (g.SharesOwn enums) := by
  cases enums with
  | nil => exact leaves_pure _
  | cons d enums =>
    exact ((Backend.holds_single d (fun _ => id) h hp).from fun _ => Or.inl).bind fun _ _ =>
      (leaves_more h hp enums).bind fun _ _ => leaves_pure _

theorem leaves_generate (h : g.backend.IsNative) (hp : g.backend.Plans config g.plan)
    (enums : List Definition) :
    Leaves (fun _ => True) (g.generate enums) (g.SharesOwn enums) := by
  have hset : Leaves (fun _ => True) (set ([] : Register) : Emission PUnit) (· = []) := by
    intro register j a register' j' _ hrun
    cases hrun
    rfl
  exact hset.bind fun _ _ => (leaves_note _ _ _).bind fun _ _ =>
    (Backend.leaves_header h g.plan).bind fun _ _ => (leaves_singles h hp enums).bind fun _ _ =>
    leaves_getRegister.bind fun _ _ => (Backend.leaves_footer h g.plan enums).bind fun _ _ =>
    leaves_pure _

/-- A run that succeeds has the warnings of the enums, and leaves behind what they share. -/
theorem run_success (h : g.backend.IsNative) (hp : g.backend.Plans config g.plan)
    {enums : List Definition} {register register' : Register} {j j' : Journal} {code : Text}
    {warnings : List Text} {metadata : Metadata}
    (hrun : ((g.run enums).run register).run j =
      ((.success code warnings metadata, register'), j')) :
    g.validate enums = .ok warnings ∧ Shares g.module.shown enums register' := by
  obtain ⟨found, written, tidy, j₁, hvalid, hgenerate, -, hresult⟩ :=
    attempt_ok (attempt_of_success hrun)
  cases hresult
  have hshares := leaves_generate h hp enums _ _ _ _ _ trivial hgenerate
  exact ⟨hvalid, hshares.shares⟩

end CatchAll.Generator
