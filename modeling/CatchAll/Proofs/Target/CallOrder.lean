import CatchAll.Proofs.Target.RustRoundTrip
import CatchAll.Proofs.Target.Steadiness

/-!
# Fragments in any order

The fragments of a policy can be asked for in any order and any number of times. A
fragment does not look at the register beyond asking for the wrapper, so each one is
the same in every state. The wrapper is defined by the first call that asks for it,
from the context of that call; all later requests find it there.
-/

set_option autoImplicit false

namespace CatchAll.Target

open scoped Text
open Schema Outcome Emission

/-- The parts of the code of an enum, and the wrapper by itself. -/
inductive Fragment where
  | members
  | fromImpl
  | fromStrImpl
  | asStrArm
  | docs
  | wrapper
  deriving DecidableEq

/-- A catch-all policy with all that its fragments depend on. -/
inductive Emitter where
  | rust (p : Rust.Policy)
  | python (p : Python.Policy)

/-- A fragment that is asked for, and the enum it is for. -/
abbrev Call := Fragment × Context

namespace Emitter

def module : Emitter → Json
  | rust p => p.module
  | python p => p.module

/-- What the wrapper looks like if an enum is the first to ask for it. -/
def wrapperSource (c : Context) : Emitter → Except Outside Text
  | rust p => Rust.wrapperSource p.layout c
  | python p => Python.wrapperSource p.layout c

/-- The wrapper is named in all fragments but the conversion trait and the documentation; the
arm names it in Python only. -/
def asks : Emitter → Fragment → Bool
  | _, .members => true
  | _, .fromImpl => true
  | _, .fromStrImpl => false
  | rust _, .asStrArm => false
  | python _, .asStrArm => true
  | _, .docs => false
  | _, .wrapper => true

def emit (c : Context) : Emitter → Fragment → Emission Text
  | rust p, .members => p.members c
  | rust p, .fromImpl => p.fromImpl c
  | rust p, .fromStrImpl => return p.fromStrImpl c
  | rust p, .asStrArm => return p.asStrArm c
  | rust p, .docs => return p.docs c
  | rust p, .wrapper => p.wrapper c
  | python p, .members => p.members c
  | python p, .fromImpl => p.fromImpl c
  | python p, .fromStrImpl => return p.fromStrImpl c
  | python p, .asStrArm => p.asStrArm c
  | python p, .docs => return p.docs c
  | python p, .wrapper => do
    p.request c
    Emission.ofOutside (wrapperPath p.module)

/-- The answers to calls made one after the other. A call that fails is no end. -/
def session (e : Emitter) : List Call → StateT Register (StateM Journal) (List (Except Failure Text))
  | [] => return []
  | (fragment, c) :: rest => do
    let answer ← ExceptT.run (e.emit c fragment)
    return answer :: (← e.session rest)

/-- The answer to a call that is the first one. -/
def firstAnswer (e : Emitter) (call : Call) : Except Failure Text :=
  ((e.emit call.2 call.1).run [] #[]).1.1

end Emitter

/-! ## One call -/

namespace Emission

variable {α β : Type}

/-- An emission that gives the same in every state and changes the register alike. -/
def Acts (work : Emission α) (a : α) (change : Register → Register) : Prop :=
  ∀ register j, ∃ j', work.run register j = ((.ok a, change register), j')

theorem acts_pure (a : α) : Acts (pure a) a id := fun _ j => ⟨j, rfl⟩

theorem acts_ofOutside {outcome : Except Outside α} {a : α} (h : outcome = .ok a) :
    Acts (ofOutside outcome) a id := by
  rw [h]
  exact acts_pure a

/-- A step that changes nothing comes after. -/
theorem Acts.andThen {work : Emission α} {next : α → Emission β} {a : α} {b : β}
    {change : Register → Register} (h : Acts work a change) (hnext : Acts (next a) b id) :
    Acts (work >>= next) b change := by
  intro register j
  obtain ⟨j₁, hwork⟩ := h register j
  obtain ⟨j', hrest⟩ := hnext (change register) j₁
  exact ⟨j', run_bind_ok.mpr ⟨a, _, j₁, hwork, hrest⟩⟩

end Emission

theorem acts_requestWrapper {module : Json} {name t : Text} {source : Unit → Except Outside Text}
    (hmodule : module = .str name) (hsource : source () = .ok t) :
    Acts (requestWrapper module source) () (·.define ⟨name, wrapperName, t⟩) :=
  requestWrapper_run (hmodule ▸ moduleKey_str name) hsource

variable {name source : Text} {c : Context}

theorem Rust.acts_wrapper {p : Rust.Policy} (hmodule : p.module = .str name)
    (hsource : wrapperSource p.layout c = .ok source) :
    ∃ path, Acts (p.wrapper c) path (·.define ⟨name, wrapperName, source⟩) := by
  obtain ⟨path, hpath⟩ := wrapperPath_ok name
  exact ⟨path, (acts_requestWrapper hmodule hsource).andThen (acts_ofOutside (hmodule ▸ hpath))⟩

theorem Python.acts_request {p : Python.Policy} (hmodule : p.module = .str name)
    (hsource : wrapperSource p.layout c = .ok source) :
    Acts (p.request c) () (·.define ⟨name, wrapperName, source⟩) :=
  acts_requestWrapper hmodule hsource

namespace Emitter

variable {e : Emitter}

/-- The wrapper as `source` gives it, if the fragment asks for it. -/
def change (e : Emitter) (name source : Text) (fragment : Fragment) : Register → Register :=
  if e.asks fragment then (·.define ⟨name, wrapperName, source⟩) else id

theorem wrapperSource_ok (e : Emitter) (hc : c.Decorated) : ∃ t, e.wrapperSource c = .ok t := by
  cases e with
  | rust p => exact Rust.wrapperSource_ok hc p.layout
  | python p => exact Python.wrapperSource_ok hc p.layout

theorem emit_acts (hmodule : e.module = .str name) (hsource : e.wrapperSource c = .ok source)
    (fragment : Fragment) :
    ∃ t, Acts (e.emit c fragment) t (e.change name source fragment) := by
  cases e with
  | rust p =>
    have hmodule : p.module = .str name := hmodule
    obtain ⟨path, hwrapper⟩ := Rust.acts_wrapper hmodule hsource
    cases fragment with
    | members => exact ⟨_, hwrapper.andThen (acts_pure _)⟩
    | fromImpl => exact ⟨_, hwrapper.andThen (acts_pure _)⟩
    | fromStrImpl => exact ⟨_, acts_pure _⟩
    | asStrArm => exact ⟨_, acts_pure _⟩
    | docs => exact ⟨_, acts_pure _⟩
    | wrapper => exact ⟨path, hwrapper⟩
  | python p =>
    have hmodule : p.module = .str name := hmodule
    have hrequest := Python.acts_request hmodule hsource
    cases fragment with
    | members => exact ⟨_, hrequest.andThen (acts_pure _)⟩
    | fromImpl => exact ⟨_, hrequest.andThen (acts_pure _)⟩
    | fromStrImpl => exact ⟨_, acts_pure _⟩
    | asStrArm => exact ⟨_, hrequest.andThen (acts_pure _)⟩
    | docs => exact ⟨_, acts_pure _⟩
    | wrapper =>
      obtain ⟨path, hpath⟩ := Rust.wrapperPath_ok name
      exact ⟨path, hrequest.andThen (acts_ofOutside (hmodule ▸ hpath))⟩

/-- One call: the answer is that of a first call, whatever the state. -/
theorem call_run (hmodule : e.module = .str name) (hsource : e.wrapperSource c = .ok source)
    (fragment : Fragment) (register : Register) (j : Journal) :
    (∃ t, e.firstAnswer (fragment, c) = .ok t) ∧
      ∃ j', (e.emit c fragment).run register j =
        ((e.firstAnswer (fragment, c), e.change name source fragment register), j') := by
  obtain ⟨t, hacts⟩ := emit_acts hmodule hsource fragment
  have hfirst : e.firstAnswer (fragment, c) = .ok t := by
    obtain ⟨j', hrun⟩ := hacts [] #[]
    rw [firstAnswer, hrun]
  rw [hfirst]
  exact ⟨⟨t, rfl⟩, hacts register j⟩

/-! ## Any number of calls -/

/-- The wrapper is there once it was asked for, as the first call that did so gives it. -/
def Left (e : Emitter) (name : Text) (calls : List Call) (register register' : Register) : Prop :=
  match calls.find? fun call => e.asks call.1 with
  | none => register' = register
  | some call => ∃ source, e.wrapperSource call.2 = .ok source ∧
      register' = register.define ⟨name, wrapperName, source⟩

/-- Once the wrapper is defined, no call changes the register. -/
theorem define_define (register : Register) (t u : Text) :
    (register.define ⟨name, wrapperName, t⟩).define ⟨name, wrapperName, u⟩ =
      register.define ⟨name, wrapperName, t⟩ := by
  have hdefined : (register.define ⟨name, wrapperName, t⟩).isDefined name wrapperName = true := by
    rw [Register.define]
    split
    · assumption
    · simp [Register.isDefined]
  rw [Register.define, if_pos hdefined]

theorem Left.cons {calls : List Call} {fragment : Fragment} {register register' : Register}
    (hsource : e.wrapperSource c = .ok source)
    (h : e.Left name calls (e.change name source fragment register) register') :
    e.Left name ((fragment, c) :: calls) register register' := by
  rw [Left, List.find?_cons]
  rw [Left, change] at h
  cases hasks : e.asks fragment with
  | false =>
    rw [hasks] at h
    exact h
  | true =>
    rw [hasks, if_pos rfl] at h
    refine ⟨source, hsource, ?_⟩
    split at h
    · exact h
    · obtain ⟨other, -, hdone⟩ := h
      rw [hdone, define_define]

theorem session_run (hmodule : e.module = .str name) (calls : List Call)
    (hc : ∀ call ∈ calls, call.2.Decorated) (register : Register) (j : Journal) :
    ∃ register' j', ((e.session calls).run register).run j =
        ((calls.map e.firstAnswer, register'), j') ∧
      e.Left name calls register register' := by
  induction calls generalizing register j with
  | nil => exact ⟨register, j, rfl, rfl⟩
  | cons call rest ih =>
    obtain ⟨fragment, c⟩ := call
    obtain ⟨hfirst, hrest⟩ := List.forall_mem_cons.mp hc
    obtain ⟨source, hsource⟩ := e.wrapperSource_ok hfirst
    obtain ⟨-, j₁, hcall⟩ := call_run hmodule hsource fragment register j
    obtain ⟨register', j', hsession, hleft⟩ := ih hrest (e.change name source fragment register) j₁
    refine ⟨register', j', ?_, hleft.cons hsource⟩
    have hstep : ((ExceptT.run (e.emit c fragment)).run register).run j =
        ((e.firstAnswer (fragment, c), e.change name source fragment register), j₁) := hcall
    rw [session, StateT.run_bind, StateT.run_bind, hstep]
    show ((e.session rest >>= fun answers => pure (e.firstAnswer (fragment, c) :: answers)).run
      (e.change name source fragment register)).run j₁ = _
    rw [StateT.run_bind, StateT.run_bind, hsession]
    rfl

/-- Fragments do not depend on the order of calls. Each call returns what it returns as the
first call, none of them fails, and then the register is empty if no call asked for the wrapper.
Otherwise it holds the wrapper alone, as the first call that asked for it gives it. -/
theorem calls_any_order (hmodule : e.module = .str name) (calls : List Call)
    (hc : ∀ call ∈ calls, call.2.Decorated) :
    ∃ register j, ((e.session calls).run []).run #[] = ((calls.map e.firstAnswer, register), j) ∧
      (∀ call ∈ calls, ∃ t, e.firstAnswer call = .ok t) ∧
      match calls.find? fun call => e.asks call.1 with
      | none => register = []
      | some call => ∃ source, e.wrapperSource call.2 = .ok source ∧
          register = [⟨name, wrapperName, source⟩] := by
  obtain ⟨register, j, hrun, hleft⟩ := session_run hmodule calls hc [] #[]
  refine ⟨register, j, hrun, fun call hmem => ?_, hleft⟩
  obtain ⟨source, hsource⟩ := e.wrapperSource_ok (hc call hmem)
  exact (call_run hmodule hsource call.1 [] #[]).1

/-- An enum with decorators, and one without decoration. -/
def finalLevel : Context := .ofMembers "Level" [.ofValue "low"] (some (.decorators ["final"]))

def plainLevel : Context := .ofMembers "Level" [.ofValue "low"] none

theorem decorated_levels : ∀ c ∈ [finalLevel, plainLevel], c.Decorated := by
  simp only [List.forall_mem_cons]
  refine ⟨?_, ?_, by simp⟩
  · intro d hd
    obtain rfl := Option.some.inj hd
    exact ⟨_, rfl⟩
  · intro d hd
    cases hd

/-- The arm of the wrapper asks for it in Python, from the enum that comes first, and does not
in Rust. -/
theorem arm_defines_wrapper :
    let calls : List Call :=
      [(.docs, plainLevel), (.asStrArm, finalLevel), (.fromStrImpl, plainLevel),
       (.asStrArm, plainLevel)]
    (∃ register j, (((Emitter.rust ⟨.str "types", "    ", "///"⟩).session calls).run []).run #[] =
        ((calls.map (Emitter.rust ⟨.str "types", "    ", "///"⟩).firstAnswer, register), j) ∧
      register = []) ∧
    ∃ register j source,
      (((Emitter.python ⟨.str "types", ⟨"    ", []⟩, .pascal⟩).session calls).run []).run #[] =
        ((calls.map (Emitter.python ⟨.str "types", ⟨"    ", []⟩, .pascal⟩).firstAnswer, register),
          j) ∧
      Python.wrapperSource ⟨"    ", []⟩ finalLevel = .ok source ∧
      register = [⟨"types", wrapperName, source⟩] := by
  intro calls
  have hc : ∀ call ∈ calls, call.2.Decorated := by
    intro call hmem
    apply decorated_levels
    simp only [calls, List.mem_cons, List.not_mem_nil, or_false] at hmem
    rcases hmem with rfl | rfl | rfl | rfl <;> simp
  obtain ⟨register, j, hrun, -, hregister⟩ :=
    calls_any_order (e := .rust ⟨.str "types", "    ", "///"⟩) rfl calls hc
  obtain ⟨register', j', hrun', -, source, hsource, hregister'⟩ :=
    calls_any_order (e := .python ⟨.str "types", ⟨"    ", []⟩, .pascal⟩) rfl calls hc
  exact ⟨⟨register, j, hrun, hregister⟩, register', j', source, hrun', hsource, hregister'⟩

end Emitter

end CatchAll.Target
