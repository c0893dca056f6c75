import CatchAll.Journal
import Mathlib.Data.List.Forall2

/-!
# Outcomes of work that may fail

Steps one after the other succeed when each of them does; these equations take
such a chain apart, so that no proof has to open the steps themselves.
-/

set_option autoImplicit false

namespace CatchAll.Outcome

variable {ε α β : Type}

theorem bind_eq_ok {work : Except ε α} {next : α → Except ε β} {b : β} :
    work >>= next = .ok b ↔ ∃ a, work = .ok a ∧ next a = .ok b := by
  cases work with
  | error e => simp [bind, Except.bind]
  | ok a => simp [bind, Except.bind]

theorem exists_ok_iff {work : Except ε α} {a : α} (h : work = .ok a) {P : α → Prop} :
    (∃ b, work = .ok b ∧ P b) ↔ P a := by
  constructor
  · rintro ⟨b, hb, hP⟩
    exact Except.ok.inj (h.symm.trans hb) ▸ hP
  · exact fun hP => ⟨a, h, hP⟩

/-- A list is worked off exactly when each of its items is. -/
theorem mapM_eq_ok (f : α → Except ε β) (items : List α) (results : List β) :
    items.mapM f = .ok results ↔ List.Forall₂ (fun a b => f a = .ok b) items results := by
  induction items generalizing results with
  | nil =>
    rw [List.mapM_nil, List.forall₂_nil_left_iff]
    exact ⟨fun h => (Except.ok.inj h).symm, fun h => congrArg Except.ok h.symm⟩
  | cons a items ih =>
    rw [List.mapM_cons, bind_eq_ok, List.forall₂_cons_left_iff]
    constructor
    · rintro ⟨b, hb, hrest⟩
      obtain ⟨tail, htail, hdone⟩ := bind_eq_ok.mp hrest
      exact ⟨b, tail, hb, (ih tail).mp htail, (Except.ok.inj hdone).symm⟩
    · rintro ⟨b, tail, hb, htail, rfl⟩
      exact ⟨b, hb, bind_eq_ok.mpr ⟨tail, (ih tail).mpr htail, rfl⟩⟩

theorem bind_eq_error {work : Except ε α} {next : α → Except ε β} {e : ε} :
    work >>= next = .error e ↔
      work = .error e ∨ ∃ a, work = .ok a ∧ next a = .error e := by
  cases work with
  | error e' => simp [bind, Except.bind]
  | ok a => simp [bind, Except.bind]

theorem mapError_eq_error {ε' : Type} {f : ε → ε'} {work : Except ε α} {e : ε'} :
    work.mapError f = .error e ↔ ∃ why, work = .error why ∧ f why = e := by
  cases work with
  | error why => simp [Except.mapError]
  | ok a => simp [Except.mapError]

theorem mapError_eq_ok {ε' : Type} {f : ε → ε'} {work : Except ε α} {a : α} :
    work.mapError f = .ok a ↔ work = .ok a := by
  cases work with
  | error why => simp [Except.mapError]
  | ok a' => simp [Except.mapError]

theorem mem_of_mapM_ok {f : α → Except ε β} {items : List α} {results : List β}
    (h : items.mapM f = .ok results) {b : β} (hb : b ∈ results) : ∃ a ∈ items, f a = .ok b := by
  induction (mapM_eq_ok _ _ _).mp h with
  | nil => cases hb
  | @cons a b' items results ha hrest ih =>
    rcases List.mem_cons.mp hb with rfl | hb
    · exact ⟨a, List.mem_cons_self, ha⟩
    · obtain ⟨a, hmem, ha⟩ := ih ((mapM_eq_ok _ _ _).mpr hrest) hb
      exact ⟨a, List.mem_cons_of_mem _ hmem, ha⟩

theorem mapM_ok_of_forall {f : α → Except ε β} {items : List α}
    (h : ∀ a ∈ items, ∃ b, f a = .ok b) : ∃ results, items.mapM f = .ok results := by
  induction items with
  | nil => exact ⟨[], rfl⟩
  | cons a items ih =>
    obtain ⟨b, hb⟩ := h a (by simp)
    obtain ⟨results, hresults⟩ := ih fun a' ha' => h a' (List.mem_cons_of_mem a ha')
    refine ⟨b :: results, ?_⟩
    rw [List.mapM_cons, hb]
    exact bind_eq_ok.mpr ⟨b, rfl, bind_eq_ok.mpr ⟨results, hresults, rfl⟩⟩

theorem exists_of_forall₂ {R : α → β → Prop} {items : List α} {results : List β}
    (h : List.Forall₂ R items results) : ∀ a ∈ items, ∃ b ∈ results, R a b := by
  induction h with
  | nil => exact List.forall_mem_nil _
  | cons hfirst _ ih =>
    refine List.forall_mem_cons.mpr ⟨⟨_, List.mem_cons_self, hfirst⟩, fun a ha => ?_⟩
    obtain ⟨b, hb, hrelated⟩ := ih a ha
    exact ⟨b, List.mem_cons_of_mem _ hb, hrelated⟩

/-- What is made of each item and of what it leads to. -/
theorem mapM_attached {γ : Type} {f : α → Except ε β} {made : β → α → γ} {items : List α}
    {results : List γ} (h : items.mapM (fun a => do return made (← f a) a) = .ok results) :
    ∃ pairs : List (β × α), pairs.map Prod.snd = items ∧
      results = pairs.map fun pair => made pair.1 pair.2 := by
  induction (mapM_eq_ok _ _ _).mp h with
  | nil => exact ⟨[], rfl, rfl⟩
  | @cons a result items results ha hrest ih =>
    obtain ⟨pairs, rfl, rfl⟩ := ih ((mapM_eq_ok _ _ _).mpr hrest)
    obtain ⟨b, -, hdone⟩ := bind_eq_ok.mp ha
    obtain rfl : made b a = result := Except.ok.inj hdone
    exact ⟨(b, a) :: pairs, rfl, rfl⟩

/-- The journal of the steps before a failure stays. -/
theorem journaled_bind (work : Journaled ε α) (next : α → Journaled ε β) (j : Journal) :
    (ExceptT.run (work >>= next)).run j =
      match (ExceptT.run work).run j with
      | (.ok a, j') => (ExceptT.run (next a)).run j'
      | (.error e, j') => (.error e, j') := by
  show (match (ExceptT.run work).run j with
    | (r, j') => StateT.run (ExceptT.bindCont next r) j') = _
  obtain ⟨r, j'⟩ := (ExceptT.run work).run j
  cases r with
  | error e => rfl
  | ok a => rfl

theorem journaled_bind_ok {work : Journaled ε α} {next : α → Journaled ε β} {b : β}
    {j j' : Journal} :
    (ExceptT.run (work >>= next)).run j = (.ok b, j') ↔
      ∃ a j₁, (ExceptT.run work).run j = (.ok a, j₁) ∧
        (ExceptT.run (next a)).run j₁ = (.ok b, j') := by
  rw [journaled_bind]
  generalize (ExceptT.run work).run j = done
  obtain ⟨r, j₁⟩ := done
  cases r with
  | error e =>
    constructor
    · intro h
      cases h
    · rintro ⟨a, j₂, h, -⟩
      cases h
  | ok a =>
    constructor
    · exact fun h => ⟨a, j₁, rfl, h⟩
    · rintro ⟨a', j₂, h, hnext⟩
      cases h
      exact hnext

/-- Work without records leaves the journal alone. -/
theorem journaled_lift_ok {work : Except ε α} {a : α} {j j' : Journal} :
    (ExceptT.run (work : Journaled ε α)).run j = (.ok a, j') ↔ work = .ok a ∧ j = j' := by
  cases work with
  | error e =>
    constructor
    · intro h
      cases h
    · rintro ⟨h, -⟩
      cases h
  | ok a' =>
    constructor
    · intro h
      cases h
      exact ⟨rfl, rfl⟩
    · rintro ⟨h, rfl⟩
      cases h
      rfl

theorem journaled_adapt {ε' : Type} (f : ε → ε') (work : Journaled ε α) (j : Journal) :
    (ExceptT.run (work.adapt f)).run j =
      (((ExceptT.run work).run j).1.mapError f, ((ExceptT.run work).run j).2) := rfl

/-! ## Work that the journal has no say in -/

/-- Work that comes to the same outcome whatever the journal holds. -/
def Settled (work : Journaled ε α) (outcome : Except ε α) : Prop :=
  ∀ j, ((ExceptT.run work).run j).1 = outcome

theorem Settled.eq_run {work : Journaled ε α} {outcome : Except ε α} (h : Settled work outcome) :
    outcome = work.run.1 := (h #[]).symm

theorem Settled.bind {work : Journaled ε α} {next : α → Journaled ε β} {outcome : Except ε α}
    {later : α → Except ε β} (h : Settled work outcome)
    (hnext : ∀ a, outcome = .ok a → Settled (next a) (later a)) :
    Settled (work >>= next) (outcome >>= later) := by
  intro j
  rw [journaled_bind]
  rcases hdone : (ExceptT.run work).run j with ⟨r, j'⟩
  obtain rfl : r = outcome := by rw [← h j, hdone]
  cases r with
  | error e => rfl
  | ok a => exact hnext a rfl j'

theorem Settled.after {work : Journaled ε α} {next : α → Journaled ε β} {a : α}
    {outcome : Except ε β} (h : Settled work (.ok a)) (hnext : Settled (next a) outcome) :
    Settled (work >>= next) outcome := by
  intro j
  rw [journaled_bind]
  rcases hdone : (ExceptT.run work).run j with ⟨r, j'⟩
  obtain rfl : r = .ok a := by rw [← h j, hdone]
  exact hnext j'

theorem Settled.failed {work : Journaled ε α} {e : ε} (h : Settled work (.error e))
    (next : α → Journaled ε β) : Settled (work >>= next) (.error e) := by
  intro j
  rw [journaled_bind]
  rcases hdone : (ExceptT.run work).run j with ⟨r, j'⟩
  obtain rfl : r = .error e := by rw [← h j, hdone]
  rfl

theorem exists_settled_bind {work : Journaled ε α} {next : α → Journaled ε β}
    (h : ∃ outcome, Settled work outcome) (hnext : ∀ a, ∃ outcome, Settled (next a) outcome) :
    ∃ outcome, Settled (work >>= next) outcome := by
  obtain ⟨outcome, h⟩ := h
  choose later hlater using hnext
  exact ⟨_, h.bind fun a _ => hlater a⟩

theorem Settled.adapt {ε' : Type} {work : Journaled ε α} {outcome : Except ε α}
    (h : Settled work outcome) (f : ε → ε') : Settled (work.adapt f) (outcome.mapError f) := by
  intro j
  rw [journaled_adapt, h j]

theorem settled_pure (a : α) : Settled (pure a : Journaled ε α) (.ok a) := fun _ => rfl

theorem settled_throw (e : ε) : Settled (throw e : Journaled ε α) (.error e) := fun _ => rfl

theorem settled_lift (outcome : Except ε α) : Settled (outcome : Journaled ε α) outcome := by
  intro j
  cases outcome <;> rfl

theorem settled_note (level : Level) (speaker message : Text) :
    Settled (note level speaker message : Journaled ε Unit) (.ok ()) := fun _ => rfl

end CatchAll.Outcome
