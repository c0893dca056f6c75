import CatchAll.Proofs.Target.PythonRuns
import CatchAll.Proofs.Target.Steadiness

/-!
# Generators have no memory

A generator keeps its register from one call to the next. A module starts with an
empty one, and nothing else gives an answer that depends on what the register
holds. So each call of a session is answered as if it were the first, also after
calls that failed part way.
-/

set_option autoImplicit false

namespace CatchAll.Generator

open scoped Text
open Schema Target Outcome Emission

/-! ## Sessions -/

/-- What can be asked of a generator. -/
inductive Call where
  | run (enums : List Definition)
  | generate (enums : List Definition)
  | single (d : Definition)
  | context (d : Definition)
  | validate (enums : List Definition)

/-- What a call returns, or the failure that it raises. -/
inductive Answer where
  | result (r : Result)
  | code (r : Except Failure Text)
  | context (r : Except Failure Context)
  | warnings (r : Except Outside (List Text))

variable (g : Generator)

def call : Call → StateT Register (StateM Journal) Answer
  | .run enums => return .result (← g.run enums)
  | .generate enums => return .code (← (g.generate enums).run)
  | .single d => return .code (← (g.backend.single g.plan d).run)
  | .context d => return .context (← (g.plan.buildContext d).run)
  | .validate enums => return .warnings (g.validate enums)

/-- The answers to calls made one after the other. -/
def session : List Call → StateT Register (StateM Journal) (List Answer)
  | [] => return []
  | asked :: rest => do
    let answer ← g.call asked
    return answer :: (← session rest)

/-- The answer to a call, given the register and the journal that it finds. -/
def answerFrom (state : Register × Journal) (asked : Call) : Answer :=
  (((g.call asked).run state.1).run state.2).1.1

/-- The answer of a generator that was just made. -/
def firstAnswer (asked : Call) : Answer := g.answerFrom ([], #[]) asked

/-- What a session leaves behind in a generator that was just made. -/
def leftBy (calls : List Call) : Register × Journal :=
  let ((_, register), j) := ((g.session calls).run []).run #[]
  (register, j)

/-! ## One call -/

variable {g} {b : Backend} {config : Config}

theorem steady_singles (h : g.backend.IsNative) (hp : g.backend.Plans config g.plan)
    (enums : List Definition) : Steady Eq (g.singles enums) Eq := by
  induction enums with
  | nil => exact steady_pure _
  | cons d enums ih =>
    exact (Backend.steady_single d h hp keptByDefining_eq).bind fun _ _ =>
      ih.bind fun _ _ => steady_pure _

/-- Whatever the registers hold, they are empty once a module begins. -/
theorem steady_generate (h : g.backend.IsNative) (hp : g.backend.Plans config g.plan)
    (enums : List Definition) : Steady (fun _ _ => True) (g.generate enums) Eq := by
  have hset : Steady (fun _ _ => True) (set ([] : Register) : Emission PUnit) Eq :=
    fun _ _ _ _ _ => .ok _ rfl
  exact hset.bind fun _ _ => (steady_note _ _ _).bind fun _ _ =>
    (Backend.steady_header h g.plan).bind fun _ _ => (steady_singles h hp enums).bind fun _ _ =>
    steady_getRegister.bind fun _ _ => (Backend.steady_footer h g.plan enums).bind fun _ _ =>
    steady_pure _

theorem steady_attempt (h : g.backend.IsNative) (hp : g.backend.Plans config g.plan)
    (enums : List Definition) : Steady (fun _ _ => True) (g.attempt enums) Eq :=
  (steady_ofOutside _).bind fun _ _ => (steady_generate h hp enums).bind fun _ _ =>
    (steady_ofOutside _).bind fun _ _ => (steady_note _ _ _).bind fun _ _ => steady_pure _

theorem conclude_result (done : (Except Failure Result × Register) × Journal) :
    (conclude done).1.1 = match done.1.1 with
      | .ok result => result
      | .error failure => .failed failure := by
  obtain ⟨⟨result | result, register⟩, j⟩ := done <;> rfl

/-- A call is answered alike in every state. -/
theorem answerFrom_eq (h : g.backend.IsNative) (hp : g.backend.Plans config g.plan) (asked : Call)
    (state other : Register × Journal) : g.answerFrom state asked = g.answerFrom other asked := by
  obtain ⟨register, j⟩ := state
  obtain ⟨register', j'⟩ := other
  cases asked with
  | run enums =>
    refine congrArg Answer.result ?_
    show ((((g.run enums).run register).run j).1).1 = ((((g.run enums).run register').run j').1).1
    rw [run_eq_conclude, run_eq_conclude, conclude_result, conclude_result,
      (steady_attempt h hp enums register register' j j' trivial).eq]
  | generate enums =>
    exact congrArg Answer.code (steady_generate h hp enums register register' j j' trivial).eq
  | single d =>
    exact congrArg Answer.code
      (Backend.steady_single d h hp keptByDefining_any register register' j j' trivial).eq
  | context d =>
    have halike : Steady (fun _ _ => True) (g.plan.buildContext d) fun _ _ => True :=
      steady_buildContext g.plan d
    exact congrArg Answer.context (halike register register' j j' trivial).eq
  | validate enums => rfl

/-! ## Sessions -/

theorem session_answers (h : g.backend.IsNative) (hp : g.backend.Plans config g.plan)
    (calls : List Call) (register : Register) (j : Journal) :
    (((g.session calls).run register).run j).1.1 = calls.map g.firstAnswer := by
  induction calls generalizing register j with
  | nil => rfl
  | cons asked rest ih =>
    rw [session, StateT.run_bind, StateT.run_bind, List.map_cons]
    rcases hcall : ((g.call asked).run register).run j with ⟨⟨answer, register₁⟩, j₁⟩
    have hanswer : answer = g.firstAnswer asked := by
      rw [firstAnswer, ← answerFrom_eq h hp asked (register, j), answerFrom, hcall]
    have hrest := ih register₁ j₁
    rcases hsession : ((g.session rest).run register₁).run j₁ with ⟨⟨answers, register₂⟩, j₂⟩
    rw [hsession] at hrest
    obtain rfl : answers = rest.map g.firstAnswer := hrest
    rw [← hanswer]
    show (((g.session rest >>= fun answers => pure (answer :: answers)).run register₁).run j₁).1.1 =
      _
    rw [StateT.run_bind, StateT.run_bind, hsession]
    rfl

/-- A generator has no memory: each call of a session is answered as if it were the first,
and so is every call that follows. -/
theorem no_memory (hb : b.IsNative) (hg : Generator.ofConfig b config none = .ok g)
    (history : List Call) :
    (((g.session history).run []).run #[]).1.1 = history.map g.firstAnswer ∧
      ∀ next, g.answerFrom (g.leftBy history) next = g.firstAnswer next := by
  obtain ⟨rfl, hp⟩ := Generator.ofConfig_ok hg
  exact ⟨session_answers hb hp history [] #[], fun next => answerFrom_eq hb hp next _ _⟩

/-- The code of an enum leaves the wrapper behind; the module that follows has no enum, and
does not export it. -/
theorem no_memory_of_wrapper :
    let low : Definition := ⟨"Level", [.ofValue "low"], .null⟩
    ∃ g, Generator.ofConfig Python.backend .standard none = .ok g ∧
      (g.leftBy [.single low]).1 ≠ [] ∧
      g.answerFrom (g.leftBy [.single low]) (.generate []) = g.firstAnswer (.generate []) := by
  intro low
  obtain ⟨g, hg⟩ : ∃ g, Generator.ofConfig Python.backend .standard none = .ok g := ⟨_, rfl⟩
  obtain ⟨hb, hp⟩ := Generator.ofConfig_ok hg
  have hv : g.plan.memberVocabulary.EndsInLetters := hp.endsInLetters (Or.inr rfl)
  have hlow : Python.Emittable g.plan low :=
    Python.emittable_of_values hg (fun m hm => ⟨"low", List.mem_singleton.mp hm⟩)
      ⟨_, List.mem_singleton.mpr rfl, 'l', by decide, rfl⟩ rfl
  obtain ⟨code, hcode⟩ := Python.single_yields hp hv hlow
  obtain ⟨register, j, hrun⟩ := hcode [] #[]
  refine ⟨g, hg, ?_, (no_memory (Or.inr rfl) hg _).2 _⟩
  obtain ⟨source, hsource⟩ :=
    Backend.leaves_single low (Or.inr rfl) hp [] #[] code register j (Or.inl rfl) hrun
  have hleft : (g.leftBy [.single low]).1 =
      (Emission.run (g.backend.single g.plan low) [] #[]).1.2 := rfl
  have hrun : Emission.run (g.backend.single g.plan low) [] #[] = ((.ok code, register), j) := by
    rw [hb]
    exact hrun
  rw [hleft, hrun, hsource]
  exact List.cons_ne_nil _ _

end CatchAll.Generator
