import CatchAll.Command.Screen

/-!
# What a command comes to

Work ends in an outcome and leaves a world. A statement about both is passed on from
step to step: a step that succeeds hands its value and its world to the next one, and a
step that stops is the end.
-/

set_option autoImplicit false

namespace CatchAll.Command

open scoped Text

variable {α β : Type}

/-- What holds of the outcome of work and of the world that it leaves. -/
def Ends (work : Work α) (world : World) (post : Except Stop α → World → Prop) : Prop :=
  post ((ExceptT.run work).run world).1 ((ExceptT.run work).run world).2

namespace Ends

variable {work : Work α} {next : α → Work β} {world : World}

theorem bind {mid : Except Stop α → World → Prop} {post : Except Stop β → World → Prop}
    (h : Ends work world mid)
    (hok : ∀ a world', mid (.ok a) world' → Ends (next a) world' post)
    (herror : ∀ stop world', mid (.error stop) world' → post (.error stop) world') :
    Ends (work >>= next) world post := by
  have hrun : (ExceptT.run (work >>= next)).run world =
      match (ExceptT.run work).run world with
      | (.ok a, world') => (ExceptT.run (next a)).run world'
      | (.error stop, world') => (.error stop, world') := by
    show (match (ExceptT.run work).run world with
      | (result, world') => StateT.run (ExceptT.bindCont next result) world') = _
    rcases (ExceptT.run work).run world with ⟨result, world'⟩
    cases result with
    | error stop => rfl
    | ok a => rfl
  rw [Ends] at h ⊢
  rw [hrun]
  rcases hdone : (ExceptT.run work).run world with ⟨result, world'⟩
  rw [hdone] at h
  cases result with
  | error stop => exact herror stop world' h
  | ok a => exact hok a world' h

/-- A step that cannot stop. -/
theorem before {post : Except Stop β → World → Prop} {mid : α → World → Prop}
    (h : Ends work world fun result world' => ∃ a, result = .ok a ∧ mid a world')
    (hnext : ∀ a world', mid a world' → Ends (next a) world' post) :
    Ends (work >>= next) world post := by
  refine h.bind ?_ ?_
  · rintro a world' ⟨_, ha, hmid⟩
    obtain rfl := Except.ok.inj ha
    exact hnext a world' hmid
  · rintro stop world' ⟨_, hstop, -⟩
    cases hstop

end Ends

section

variable {world : World} {post : Except Stop α → World → Prop}

theorem ends_world {next : World → Work α} (h : Ends (next world) world post) :
    Ends (getThe World >>= next) world post := by
  have hget : Ends (getThe World) world fun result world' => result = .ok world ∧ world' = world :=
    ⟨rfl, rfl⟩
  refine hget.bind ?_ ?_
  · rintro found world' ⟨hfound, rfl⟩
    obtain rfl := Except.ok.inj hfound
    exact h
  · rintro stop world' ⟨hstop, -⟩
    cases hstop

/-- A step that looks at what stopped another one. -/
theorem ends_tryCatch {work : Work α} {handler : Stop → Work α}
    {mid : Except Stop α → World → Prop} (h : Ends work world mid)
    (hok : ∀ a world', mid (.ok a) world' → post (.ok a) world')
    (herror : ∀ stop world', mid (.error stop) world' → Ends (handler stop) world' post) :
    Ends (tryCatchThe Stop work handler) world post := by
  have hrun : (ExceptT.run (tryCatchThe Stop work handler)).run world =
      match (ExceptT.run work).run world with
      | (.ok a, world') => (.ok a, world')
      | (.error stop, world') => (ExceptT.run (handler stop)).run world' := by
    show StateT.run (ExceptT.run (ExceptT.tryCatch work handler)) world = _
    simp only [ExceptT.tryCatch, ExceptT.run, ExceptT.mk, StateT.run_bind]
    rcases StateT.run (work : StateM World _) world with ⟨result, world'⟩
    cases result with
    | error stop => rfl
    | ok a => rfl
  rw [Ends] at h ⊢
  rw [hrun]
  rcases hdone : (ExceptT.run work).run world with ⟨result, world'⟩
  rw [hdone] at h
  cases result with
  | error stop => exact herror stop world' h
  | ok a => exact hok a world' h

end

end CatchAll.Command
