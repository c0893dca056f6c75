import CatchAll.Proofs.Outcome
import CatchAll.Target.Emission

/-!
# Taking emissions apart

An emission that gives something has gone through each of its steps, with the
register and the journal that the step before left.
-/

set_option autoImplicit false

namespace CatchAll.Target.Emission

variable {α β : Type}

theorem run_bind (work : Emission α) (next : α → Emission β) (register : Register) (j : Journal) :
    run (work >>= next) register j =
      match work.run register j with
      | ((.ok a, register'), j') => (next a).run register' j'
      | ((.error e, register'), j') => ((.error e, register'), j') := by
  show (match work.run register j with
    | ((r, register'), j') => (StateT.run (ExceptT.bindCont next r) register').run j') = _
  obtain ⟨⟨r, register'⟩, j'⟩ := work.run register j
  cases r with
  | error e => rfl
  | ok a => rfl

theorem run_bind_ok {work : Emission α} {next : α → Emission β} {b : β}
    {register register' : Register} {j j' : Journal} :
    run (work >>= next) register j = ((.ok b, register'), j') ↔
      ∃ a register₁ j₁, work.run register j = ((.ok a, register₁), j₁) ∧
        (next a).run register₁ j₁ = ((.ok b, register'), j') := by
  rw [run_bind]
  generalize work.run register j = done
  obtain ⟨⟨r, register₁⟩, j₁⟩ := done
  cases r with
  | error e =>
    constructor
    · intro h
      cases h
    · rintro ⟨a, register₂, j₂, h, -⟩
      cases h
  | ok a =>
    constructor
    · exact fun h => ⟨a, register₁, j₁, rfl, h⟩
    · rintro ⟨a', register₂, j₂, h, hnext⟩
      cases h
      exact hnext

theorem run_pure_ok {a b : α} {register register' : Register} {j j' : Journal} :
    run (pure a) register j = ((.ok b, register'), j') ↔
      a = b ∧ register = register' ∧ j = j' := by
  constructor
  · intro h
    cases h
    exact ⟨rfl, rfl, rfl⟩
  · rintro ⟨rfl, rfl, rfl⟩
    rfl

theorem ofOutside_ok (a : α) : ofOutside (.ok a) = (pure a : Emission α) := rfl

theorem run_ofOutside_ok {work : Except Outside α} {a : α} {register register' : Register}
    {j j' : Journal} :
    run (ofOutside work) register j = ((.ok a, register'), j') ↔
      work = .ok a ∧ register = register' ∧ j = j' := by
  cases work with
  | error o =>
    constructor
    · intro h
      cases h
    · rintro ⟨h, -⟩
      cases h
  | ok b =>
    rw [Except.ok.injEq]
    exact run_pure_ok

theorem run_ofTemplate_ok {work : Except Template.TemplateError α} {a : α}
    {register register' : Register} {j j' : Journal} :
    run (ofTemplate work) register j = ((.ok a, register'), j') ↔
      work = .ok a ∧ register = register' ∧ j = j' := by
  cases work with
  | error e =>
    constructor
    · intro h
      cases h
    · rintro ⟨h, -⟩
      cases h
  | ok b =>
    rw [Except.ok.injEq]
    exact run_pure_ok

/-- An emission that gives the same value in every state. -/
def Yields (work : Emission α) (a : α) : Prop :=
  ∀ register j, ∃ register' j', work.run register j = ((.ok a, register'), j')

theorem Yields.bind {work : Emission α} {next : α → Emission β} {a : α} {b : β}
    (hwork : Yields work a) (hnext : Yields (next a) b) : Yields (work >>= next) b := by
  intro register j
  obtain ⟨register₁, j₁, hwork⟩ := hwork register j
  obtain ⟨register', j', hnext⟩ := hnext register₁ j₁
  exact ⟨register', j', run_bind_ok.mpr ⟨a, register₁, j₁, hwork, hnext⟩⟩

theorem yields_pure (a : α) : Yields (pure a) a := fun register j => ⟨register, j, rfl⟩

theorem yields_note (level : Level) (speaker message : Text) :
    Yields (note level speaker message) () := fun register _ => ⟨register, _, rfl⟩

theorem yields_ofOutside {work : Except Outside α} {a : α} (h : work = .ok a) :
    Yields (ofOutside work) a := by
  rw [h]
  exact yields_pure a

theorem yields_ofTemplate {work : Except Template.TemplateError α} {a : α} (h : work = .ok a) :
    Yields (ofTemplate work) a := by
  rw [h]
  exact yields_pure a

/-! ## Emissions side by side -/

/-- Both fail alike, or both give something and what they give is related. -/
inductive Related {ε : Type} (R : α → β → Prop) : Except ε α → Except ε β → Prop
  | ok {a : α} {b : β} (h : R a b) : Related R (.ok a) (.ok b)
  | error (e : ε) : Related R (.error e) (.error e)

theorem Related.refl {ε : Type} {R : α → α → Prop} (h : ∀ a, R a a) (r : Except ε α) :
    Related R r r := by
  cases r with
  | error e => exact .error e
  | ok a => exact .ok (h a)

/-- Two emissions that end alike in every state and leave the same state behind. -/
def Agree (R : α → β → Prop) (work : Emission α) (other : Emission β) : Prop :=
  ∀ register j, ∃ r s register' j', work.run register j = ((r, register'), j') ∧
    other.run register j = ((s, register'), j') ∧ Related R r s

variable {γ δ : Type} {R : α → β → Prop} {S : γ → δ → Prop}

theorem Agree.bind {work : Emission α} {other : Emission β} {next : α → Emission γ}
    {next' : β → Emission δ} (h : Agree R work other)
    (hnext : ∀ a b, R a b → Agree S (next a) (next' b)) :
    Agree S (work >>= next) (other >>= next') := by
  intro register j
  obtain ⟨r, s, register₁, j₁, hwork, hother, hrelated⟩ := h register j
  rw [run_bind, run_bind, hwork, hother]
  cases hrelated with
  | error e => exact ⟨_, _, register₁, j₁, rfl, rfl, .error e⟩
  | ok hab => exact hnext _ _ hab register₁ j₁

theorem agree_pure {a : α} {b : β} (h : R a b) : Agree R (pure a) (pure b) :=
  fun register j => ⟨_, _, register, j, rfl, rfl, .ok h⟩

theorem agree_self {R : α → α → Prop} (h : ∀ a, R a a) (work : Emission α) :
    Agree R work work :=
  fun _ _ => ⟨_, _, _, _, rfl, rfl, .refl h _⟩

/-- A step that is the same on both sides. -/
theorem Agree.after (work : Emission α) {next : α → Emission γ} {next' : α → Emission δ}
    (h : ∀ a, Agree S (next a) (next' a)) : Agree S (work >>= next) (work >>= next') := by
  refine (agree_self (fun _ => rfl) work).bind fun a b hab => ?_
  obtain rfl : a = b := hab
  exact h a

theorem agree_ofOutside {work : Except Outside α} {other : Except Outside β}
    (h : Related R work other) : Agree R (ofOutside work) (ofOutside other) := by
  cases h with
  | ok h => exact agree_pure h
  | error o => exact fun register j => ⟨_, _, register, j, rfl, rfl, .error _⟩

/-- What succeeds outside comes next on both sides. -/
theorem Agree.ofOutside (work : Except Outside α) {next : α → Emission γ}
    {next' : α → Emission δ} (h : ∀ a, work = .ok a → Agree S (next a) (next' a)) :
    Agree S (ofOutside work >>= next) (ofOutside work >>= next') := by
  cases work with
  | ok a => exact h a rfl
  | error o => exact fun register j => ⟨_, _, register, j, rfl, rfl, .error _⟩

end CatchAll.Target.Emission
