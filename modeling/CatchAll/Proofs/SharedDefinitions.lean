import CatchAll.Inline
import Mathlib.Data.List.DropRight

/-!
# What a register tells

Calls on a register are made one after the other. What it tells depends on the calls
since it was last reset, and of these on the first one for each module and name of
which the source could be made: a failed source counts for nothing, and no later
source for the same name is made. The main statement says this for every call after
every list of calls.
-/

set_option autoImplicit false

namespace CatchAll.Register

open scoped Text

variable {ε : Type}

/-- What can be asked of a register. A definition comes with the outcome of making its
source, should it be made. -/
inductive Call (ε : Type) where
  | getOrDefine (module name : Text) (outcome : Except ε Text)
  | isDefined (module name : Text)
  | definitions (module : Text)
  | reset

/-- What a call returns, or the failure that it raises. A reference comes with whether the
source was made for it. -/
inductive Answer (ε : Type) where
  | reference (r : TypeReference) (made : Bool)
  | failure (e : ε)
  | told (defined : Bool)
  | sources (ts : List Text)
  | done

/-- The module that a call is about. -/
def Call.module? : Call ε → Option Text
  | .getOrDefine module _ _ => some module
  | .isDefined module _ => some module
  | .definitions module => some module
  | .reset => none

/-- A call with its answer and what it leaves behind. -/
def serve (register : Register) : Call ε → Answer ε × Register
  | .getOrDefine module name outcome =>
    match register.getOrDefine module name fun _ => outcome with
    | .ok (register, made) => (.reference ⟨name, module⟩ made, register)
    | .error e => (.failure e, register)
  | .isDefined module name => (.told (register.isDefined module name), register)
  | .definitions module => (.sources (register.definitions module), register)
  | .reset => (.done, [])

def after (register : Register) (calls : List (Call ε)) : Register :=
  calls.foldl (fun register call => (register.serve call).2) register

/-- The answer to a call that comes after others, on a register that was empty. -/
def answerAfter (calls : List (Call ε)) (call : Call ε) : Answer ε :=
  ((after [] calls).serve call).1

/-! ## First successes -/

def Call.isReset : Call ε → Bool
  | .reset => true
  | _ => false

def sinceReset (calls : List (Call ε)) : List (Call ε) := calls.rtakeWhile (!·.isReset)

/-- The definition that a call offers, if its source can be made. -/
def Call.offer? : Call ε → Option Shared
  | .getOrDefine module name (.ok source) => some ⟨module, name, source⟩
  | _ => none

def offers (calls : List (Call ε)) : List Shared := (sinceReset calls).filterMap Call.offer?

def differs (d e : Shared) : Bool := !decide (d.module = e.module ∧ d.name = e.name)

/-- Of each module and name the first definition. -/
def firsts : List Shared → List Shared
  | [] => []
  | d :: rest => d :: (firsts rest).filter (differs d)

/-! ## One call -/

@[simp] theorem isDefined_nil (module name : Text) : isDefined [] module name = false := rfl

theorem isDefined_cons (d : Shared) (register : Register) (module name : Text) :
    isDefined (d :: register) module name =
      (decide (d.module = module ∧ d.name = name) || register.isDefined module name) := by
  simp [isDefined]

theorem isDefined_append (a b : Register) (module name : Text) :
    isDefined (a ++ b) module name = (a.isDefined module name || b.isDefined module name) :=
  List.any_append

theorem isDefined_filter {keep : Shared → Bool} {module name : Text} (register : Register)
    (h : ∀ d : Shared, d.module = module → d.name = name → keep d = true) :
    isDefined (register.filter keep) module name = register.isDefined module name := by
  rw [isDefined, List.any_filter, isDefined]
  refine List.any_congr rfl fun d => ?_
  by_cases hd : d.module = module ∧ d.name = name
  · simp [hd, h d hd.1 hd.2]
  · simp [hd]

/-- One more definition counts if none of its name is there. -/
theorem firsts_concat (ds : List Shared) (d : Shared) :
    firsts (ds ++ [d]) = define (firsts ds) d := by
  induction ds with
  | nil => rfl
  | cons a rest ih =>
    rw [List.cons_append, firsts, ih, firsts, define, define, isDefined_cons]
    by_cases hsame : a.module = d.module ∧ a.name = d.name
    · have hdropped : [d].filter (differs a) = [] := by simp [differs, hsame]
      rw [decide_eq_true hsame, Bool.true_or, if_pos rfl]
      split
      · rfl
      · rw [List.filter_append, hdropped, List.append_nil]
    · have hkept : [d].filter (differs a) = [d] := by simp [differs, hsame]
      rw [decide_eq_false hsame, Bool.false_or, isDefined_filter]
      · split
        · rfl
        · rw [List.filter_append, hkept, List.cons_append]
      · intro e hmodule hname
        simp [differs, hmodule, hname, hsame]

theorem isDefined_firsts (ds : List Shared) (module name : Text) :
    isDefined (firsts ds) module name = isDefined ds module name := by
  induction ds using List.reverseRecOn with
  | nil => rfl
  | append_singleton ds d ih =>
    rw [firsts_concat, isDefined_append, ← ih, define]
    split
    · rename_i hdefined
      by_cases hd : d.module = module ∧ d.name = name
      · rw [← hd.1, ← hd.2, hdefined, Bool.true_or]
      · simp [isDefined_cons, hd]
    · rw [isDefined_append]

/-- A request, by whether the definition is there: only if it is not, the source is made. -/
theorem serve_getOrDefine (register : Register) (module name : Text) (outcome : Except ε Text) :
    register.serve (.getOrDefine module name outcome) =
      if register.isDefined module name then (.reference ⟨name, module⟩ false, register)
      else match outcome with
        | .ok source => (.reference ⟨name, module⟩ true, register.define ⟨module, name, source⟩)
        | .error e => (.failure e, register) := by
  rw [serve, getOrDefine]
  by_cases hdefined : register.isDefined module name = true
  · rw [if_pos hdefined, if_pos hdefined]
  · rw [if_neg hdefined, if_neg hdefined]
    cases outcome <;> rfl

/-- A call leaves the definitions as they are, adds what it offers, or drops them all. -/
theorem left_by_serve (register : Register) (call : Call ε) :
    (register.serve call).2 =
      if call.isReset then [] else call.offer?.elim register register.define := by
  cases call with
  | getOrDefine module name outcome =>
    rw [serve_getOrDefine]
    by_cases hdefined : register.isDefined module name = true
    · cases outcome with
      | error e => rw [if_pos hdefined]; rfl
      | ok source =>
        have hkept : register.define ⟨module, name, source⟩ = register := if_pos hdefined
        rw [if_pos hdefined]
        exact hkept.symm
    · rw [if_neg hdefined]
      cases outcome <;> rfl
  | isDefined module name => rfl
  | definitions module => rfl
  | reset => rfl

/-! ## A list of calls -/

theorem after_concat (register : Register) (calls : List (Call ε)) (call : Call ε) :
    after register (calls ++ [call]) = ((after register calls).serve call).2 := by
  rw [after, List.foldl_append]
  rfl

/-- The register holds the first successes since it was last reset. -/
theorem after_eq (calls : List (Call ε)) : after [] calls = firsts (offers calls) := by
  induction calls using List.reverseRecOn with
  | nil => rfl
  | append_singleton calls call ih =>
    rw [after_concat, left_by_serve, ih, offers, offers, sinceReset, sinceReset,
      List.rtakeWhile_concat]
    cases hreset : call.isReset with
    | true => rfl
    | false =>
      rw [Bool.not_false, if_pos rfl, if_neg Bool.false_ne_true, List.filterMap_append]
      cases hoffer : call.offer? with
      | none => simp [hoffer]
      | some d => simp [hoffer, firsts_concat]

/-! ## Other modules -/

/-- Registers with the same definitions for a module. -/
def AgreeOn (module : Text) (a b : Register) : Prop :=
  a.filter (·.module = module) = b.filter (·.module = module)

variable {module : Text} {a b : Register}

theorem AgreeOn.isDefined_eq (h : AgreeOn module a b) (name : Text) :
    a.isDefined module name = b.isDefined module name := by
  have hown (register : Register) : isDefined (register.filter (·.module = module)) module name =
      register.isDefined module name := isDefined_filter register fun d hd _ => by simp [hd]
  rw [← hown a, ← hown b, h]

theorem agreeOn_define_of_ne (register : Register) {d : Shared} (h : d.module ≠ module) :
    AgreeOn module (register.define d) register := by
  rw [AgreeOn, define]
  split
  · rfl
  · simp [List.filter_append, h]

theorem AgreeOn.define (h : AgreeOn module a b) (d : Shared) :
    AgreeOn module (a.define d) (b.define d) := by
  by_cases hd : d.module = module
  · subst hd
    rw [Register.define, Register.define, h.isDefined_eq]
    split
    · exact h
    · rw [AgreeOn, List.filter_append, List.filter_append, h]
  · exact (agreeOn_define_of_ne a hd).trans (h.trans (agreeOn_define_of_ne b hd).symm)

theorem AgreeOn.serve (h : AgreeOn module a b) (call : Call ε) :
    AgreeOn module (a.serve call).2 (b.serve call).2 := by
  rw [left_by_serve, left_by_serve]
  split
  · rfl
  · cases call.offer? with
    | none => exact h
    | some d => exact h.define d

theorem AgreeOn.after (h : AgreeOn module a b) (calls : List (Call ε)) :
    AgreeOn module (a.after calls) (b.after calls) := by
  induction calls using List.reverseRecOn with
  | nil => exact h
  | append_singleton calls call ih =>
    rw [after_concat, after_concat]
    exact ih.serve call

theorem AgreeOn.answer_eq {call : Call ε} (h : ∀ module, call.module? = some module →
    AgreeOn module a b) : (a.serve call).1 = (b.serve call).1 := by
  cases call with
  | getOrDefine module name outcome =>
    rw [serve_getOrDefine, serve_getOrDefine, (h module rfl).isDefined_eq]
    split
    · rfl
    · cases outcome <;> rfl
  | isDefined module name => exact congrArg Answer.told ((h module rfl).isDefined_eq name)
  | definitions module =>
    exact congrArg (fun ds : List Shared => Answer.sources (ds.map (·.source))) (h module rfl)
  | reset => rfl

/-! ## Main result -/

/-- Since the last reset there was a call for the name whose source could be made. -/
def Succeeded (calls : List (Call ε)) (module name : Text) : Prop :=
  ∃ source, .getOrDefine module name (.ok source) ∈ sinceReset calls

theorem isDefined_after (calls : List (Call ε)) (module name : Text) :
    isDefined (after [] calls) module name = true ↔ Succeeded calls module name := by
  rw [after_eq, isDefined_firsts, isDefined, List.any_eq_true]
  constructor
  · rintro ⟨d, hd, hkey⟩
    obtain ⟨call, hcall, hoffer⟩ := List.mem_filterMap.mp hd
    cases call with
    | getOrDefine m n outcome =>
      cases outcome with
      | error e => cases hoffer
      | ok source =>
        obtain rfl := Option.some.inj hoffer
        obtain ⟨rfl, rfl⟩ : m = module ∧ n = name := by simpa using hkey
        exact ⟨source, hcall⟩
    | isDefined m n => cases hoffer
    | definitions m => cases hoffer
    | reset => cases hoffer
  · rintro ⟨source, hcall⟩
    exact ⟨⟨module, name, source⟩, List.mem_filterMap.mpr ⟨_, hcall, rfl⟩, by simp⟩

/-- A call that is made in between is not noticed later on a module for which it leaves
the same definitions. -/
theorem answerAfter_insert {calls later : List (Call ε)} {inserted call : Call ε}
    (h : ∀ module, call.module? = some module →
      AgreeOn module ((after [] calls).serve inserted).2 (after [] calls)) :
    answerAfter (calls ++ inserted :: later) call = answerAfter (calls ++ later) call := by
  have hcut (first second : List (Call ε)) :
      after [] (first ++ second) = after (after [] first) second := List.foldl_append
  rw [answerAfter, answerAfter, hcut, hcut]
  exact AgreeOn.answer_eq fun module hmodule => (h module hmodule).after later

/-- What a register tells after any calls. Until a source for a name could be made, each request
for the name makes its source and fails if that fails; from then on, until the register is reset,
no request does. The names that are defined, and the sources of a module, are those of these
first successes, in their order. A request that fails is not noticed by any later call, nor is
any request by a later call about another module. -/
theorem told_by_first_successes (calls : List (Call ε)) :
    (∀ module name outcome,
      (Succeeded calls module name →
        answerAfter calls (.getOrDefine module name outcome) = .reference ⟨name, module⟩ false) ∧
      (¬ Succeeded calls module name →
        answerAfter calls (.getOrDefine module name outcome) = match outcome with
          | .ok _ => .reference ⟨name, module⟩ true
          | .error e => .failure e)) ∧
    (∀ module name, ∃ defined, answerAfter calls (.isDefined module name) = .told defined ∧
      (defined = true ↔ Succeeded calls module name)) ∧
    (∀ module, answerAfter calls (.definitions module) =
      .sources (((firsts (offers calls)).filter (·.module = module)).map (·.source))) ∧
    ∀ later call,
      (∀ module name e, answerAfter (calls ++ .getOrDefine module name (.error e) :: later) call =
        answerAfter (calls ++ later) call) ∧
      ∀ module name outcome, call.module? ≠ some module →
        answerAfter (calls ++ .getOrDefine module name outcome :: later) call =
          answerAfter (calls ++ later) call := by
  refine ⟨fun module name outcome => ?_, fun module name => ?_, fun module => ?_,
    fun later call => ⟨fun module name e => ?_, fun module name outcome hother => ?_⟩⟩
  · rw [← isDefined_after, answerAfter, serve_getOrDefine]
    constructor
    · intro hdefined
      rw [if_pos hdefined]
    · intro hnew
      rw [if_neg hnew]
      cases outcome <;> rfl
  · exact ⟨_, rfl, isDefined_after calls module name⟩
  · rw [← after_eq]
    rfl
  · refine answerAfter_insert fun module' _ => ?_
    rw [left_by_serve]
    rfl
  · refine answerAfter_insert fun module' hmodule => ?_
    rw [left_by_serve]
    cases outcome with
    | error e => rfl
    | ok source =>
      refine agreeOn_define_of_ne _ fun hsame : module = module' => hother ?_
      rw [hmodule, hsame]

/-- A name from before the reset, a source that fails once, and one in another module. -/
def retriedCalls : List (Call Unit) :=
  [.getOrDefine "a" "Old" (.ok "old"), .reset, .getOrDefine "a" "Wrapper" (.error ()),
   .getOrDefine "a" "Wrapper" (.ok "first"), .getOrDefine "b" "Wrapper" (.ok "other")]

theorem retried_source_kept :
    (Succeeded retriedCalls "a" "Wrapper" ∧
      answerAfter retriedCalls (.getOrDefine "a" "Wrapper" (.ok "second")) =
        .reference ⟨"Wrapper", "a"⟩ false) ∧
    (¬ Succeeded retriedCalls "a" "Old" ∧
      answerAfter retriedCalls (.getOrDefine "a" "Old" (.error ())) = .failure ()) ∧
    (Call.definitions "a" : Call Unit).module? ≠ some "b" ∧
      answerAfter (retriedCalls ++ [.getOrDefine "b" "Other" (.ok "more")]) (.definitions "a") =
        .sources ["first"] := by
  obtain ⟨hrequests, -, hsources, hlater⟩ := told_by_first_successes retriedCalls
  have hdone : Succeeded retriedCalls "a" "Wrapper" := (isDefined_after _ _ _).mp (by decide)
  have hforgotten : ¬ Succeeded retriedCalls "a" "Old" :=
    fun h => absurd ((isDefined_after _ _ _).mpr h) (by decide)
  have hother : (Call.definitions "a" : Call Unit).module? ≠ some "b" := by
    show some "a".toList ≠ some "b".toList
    decide
  refine ⟨⟨hdone, (hrequests _ _ _).1 hdone⟩, ⟨hforgotten, (hrequests _ _ _).2 hforgotten⟩,
    hother, ?_⟩
  rw [(hlater [] (.definitions "a")).2 "b" "Other" (.ok "more") hother, List.append_nil, hsources]
  rfl

end CatchAll.Register
