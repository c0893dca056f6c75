import CatchAll.Proofs.Target.RustConversion
import CatchAll.Proofs.Target.Wrapper

/-!
# Texts survive a Rust enum

A text converted to the generated enum and back is the same text. The value of
a named member becomes the variant of that member, and every other text is held
by the catch-all as it is.
-/

set_option autoImplicit false

namespace CatchAll.Target.Rust

open scoped Text
open Naming Schema Outcome Emission

/-- A value of a generated enum: a variant without content, or the catch-all with the text
that it holds. -/
inductive Variant where
  | named (name : Text)
  | unknown (held : Text)

/-- The conversion from a text: the first arm with the text, else the arm for all others. -/
def Variant.ofText (conversion : Table Text) (s : Text) : Variant :=
  match Table.get? s conversion with
  | some name => .named name
  | none => .unknown s

/-- The conversion to a text, which has an arm for each variant. -/
def Variant.text? (shown : Table Text) : Variant → Option Text
  | .named name => Table.get? name shown
  | .unknown held => some held

theorem wrapperPath_ok (name : Text) : ∃ path, wrapperPath (.str name) = .ok path := by
  rw [wrapperPath]
  split <;> exact ⟨_, rfl⟩

theorem rust_yields {p : Plan} {layout : Layout} (hlayout : p.layout = .ok layout) :
    Yields p.surroundings.rust ⟨p.module, layout⟩ :=
  (yields_ofOutside hlayout).bind (yields_pure _)

/-- A fragment that names the wrapper gets its path in every state. -/
theorem wrapper_yields {config : Config} {p : Plan} {d : Definition} {c : Context}
    {module path : Text} (hp : Rust.backend.Plans config p) (hc : c.Of p d)
    (hmodule : p.module = .str module) (hpath : wrapperPath p.module = .ok path)
    (layout : Layout) : Yields (Policy.wrapper ⟨p.module, layout⟩ c) path := by
  have hsource : ∃ t, wrapperSource layout c = .ok t := by
    obtain ⟨decoration, hdecoration, hdone⟩ := bind_eq_ok.mp hp.decoration
    obtain ⟨t, ht⟩ := decorationOf_renders hdecoration
    rw [wrapperSource, hc.decoration, ← Except.ok.inj hdone]
    exact ⟨_, bind_eq_ok.mpr ⟨t, ht, rfl⟩⟩
  obtain ⟨t, ht⟩ := hsource
  have hkey : moduleKey p.module = .ok module := by
    rw [hmodule]
    exact moduleKey_str module
  exact (requestWrapper_yields hkey ht).bind (yields_ofOutside hpath)

theorem fromImpl_yields_of {config : Config} {p : Plan} {d : Definition} {c : Context}
    {layout : Layout} {module path : Text} (hp : Rust.backend.Plans config p) (hc : c.Of p d)
    (hlayout : p.layout = .ok layout) (hmodule : p.module = .str module)
    (hpath : wrapperPath p.module = .ok path) :
    Yields (p.policy.fromImpl p.surroundings c) (fromImplText layout c path) := by
  rw [hp.policy]
  exact (rust_yields hlayout).bind
    ((wrapper_yields hp hc hmodule hpath _).bind (yields_pure _))

/-- The conversion from a text is emitted in every state, as soon as the module has a name
and a unit of indentation. -/
theorem fromImpl_yields {config : Config} {p : Plan} {d : Definition} {c : Context}
    {unit module : Text} (hp : Rust.backend.Plans config p) (hc : c.Of p d)
    (hunit : config.indentUnit = .ok unit) (hmodule : config.moduleName = .str module) :
    ∃ layout path, Yields (p.policy.fromImpl p.surroundings c) (fromImplText layout c path) := by
  have hmod : p.module = .str module := by
    rw [Plan.module, hp.config_eq, hmodule]
  obtain ⟨path, hpath⟩ : ∃ path, wrapperPath p.module = .ok path := by
    rw [hmod]
    exact wrapperPath_ok module
  have hlayout : p.layout = .ok ⟨unit, p.docMark⟩ := by
    rw [Plan.layout, hp.config_eq]
    exact bind_eq_ok.mpr ⟨unit, hunit, rfl⟩
  exact ⟨⟨unit, p.docMark⟩, path, fromImpl_yields_of hp hc hlayout hmod hpath⟩

theorem fromImpl_ok {p : Plan} {c : Context} {code : Text} {register register' : Register}
    {j j' : Journal}
    (h : (Target.Policy.fromImpl p.surroundings c .rust).run register j =
      ((.ok code, register'), j')) : ∃ layout path, code = fromImplText layout c path := by
  obtain ⟨policy, _, _, -, h⟩ := run_bind_ok.mp h
  obtain ⟨path, _, _, -, h⟩ := run_bind_ok.mp h
  obtain ⟨rfl, -, -⟩ := run_pure_ok.mp h
  exact ⟨policy.layout, path, rfl⟩

/-- For every definition with distinct values and every configuration: the conversions are
emitted, and what the conversions that are emitted do to any text. -/
theorem conversion_round_trip {config : Config} {g : Generator} {d : Definition} {c : Context}
    {register register' : Register} {j j' : Journal}
    (hg : Generator.ofConfig Rust.backend config none = .ok g)
    (hdistinct : (d.members.map (·.value)).Nodup)
    (hc : (g.plan.buildContext d).run register j = ((.ok c, register'), j')) :
    (c.members.map bare).Perm (d.members.map bare) ∧
    ((∃ unit, config.indentUnit = .ok unit) → (∃ module, config.moduleName = .str module) →
      ∃ code, Yields (g.plan.policy.fromImpl g.plan.surroundings c) code) ∧
    ∃ last conversion shown,
      Yields (g.plan.policy.asStrArm g.plan.surroundings c) last ∧
      readShown c.typeName (c.arms.map (asStrArm c.typeName) ++ [last]) = some shown ∧
      (∀ {code : Text} {register register' : Register} {j j' : Journal},
        (g.plan.policy.fromImpl g.plan.surroundings c).run register j =
          ((.ok code, register'), j') → readConversion c.typeName code = some conversion) ∧
      ∀ s, (Variant.ofText conversion s).text? shown = some s ∧
        (∀ name, Variant.ofText conversion s = .named name ↔
          ∃ m ∈ c.members, m.value = s ∧ m.identifier = some name) ∧
        ∀ held, Variant.ofText conversion s = .unknown held ↔
          held = s ∧ ∀ m ∈ c.members, m.value = s → m.identifier = none := by
  obtain ⟨-, hp⟩ := Generator.ofConfig_ok hg
  have hv : g.plan.memberVocabulary.EndsInLetters := hp.memberVocabulary ▸ endsInLetters_rust
  have hof : c.Of g.plan d := Plan.buildContext_ok hv hc
  have hpolicy : g.plan.policy = .rust := hp.policy
  have hreserved : g.plan.policy.reserved = [catchAllName] := by
    rw [hpolicy]
    rfl
  have hfits := hof.fits hreserved
  have hT : '\n' ∉ c.typeName := by
    refine lineFeed_not_mem_of_isName (hof.isName_typeName ?_)
    rw [hp.vocabulary]
    exact endsInLetters_rust
  refine ⟨?_, ?_, asStrArmText c, c.arms.map Prod.swap, c.arms, ?_,
    readShown_asStr c.typeName hfits c rfl, ?_, ?_⟩
  · rw [hof.members]
    exact (sortMembers_perm d.members).map bare
  · rintro ⟨unit, hunit⟩ ⟨module, hmodule⟩
    obtain ⟨layout, path, hcode⟩ := fromImpl_yields hp hof hunit hmodule
    exact ⟨_, hcode⟩
  · rw [hpolicy]
    exact yields_pure _
  · intro code register register' j j' hcode
    rw [hpolicy] at hcode
    obtain ⟨layout, path, htext⟩ := fromImpl_ok hcode
    rw [htext]
    exact readConversion_fromImplText layout hT hfits path
  · intro s
    have hnamed : ∀ name, Table.get? s (c.arms.map Prod.swap) = some name ↔
        ∃ m ∈ c.members, m.value = s ∧ m.identifier = some name :=
      fun name => hof.get?_swap_arms hdistinct
    have hunknown := hof.get?_swap_arms_eq_none hdistinct s
    simp only [← hnamed, ← hunknown, Variant.ofText]
    cases hs : Table.get? s (c.arms.map Prod.swap) with
    | some name => exact ⟨hof.get?_arms.mpr ((hnamed name).mp hs), by simp, by simp⟩
    | none => exact ⟨rfl, by simp, by simp [eq_comm]⟩

/-- Values that need escapes, that convert alike or have no letters, one of them named as
the catch-all. -/
theorem awkward_values_survive :
    ∃ g c, Generator.ofConfig Rust.backend .standard none = .ok g ∧
      ∃ code last conversion shown,
        Yields (g.plan.policy.fromImpl g.plan.surroundings c) code ∧
        Yields (g.plan.policy.asStrArm g.plan.surroundings c) last ∧
        readConversion c.typeName code = some conversion ∧
        readShown c.typeName (c.arms.map (asStrArm c.typeName) ++ [last]) = some shown ∧
        ∀ s, (Variant.ofText conversion s).text? shown = some s := by
  obtain ⟨g, hg⟩ : ∃ g, Generator.ofConfig Rust.backend .standard none = .ok g := ⟨_, rfl⟩
  obtain ⟨-, hp⟩ := Generator.ofConfig_ok hg
  have hv : g.plan.memberVocabulary.EndsInLetters := hp.memberVocabulary ▸ endsInLetters_rust
  obtain ⟨c, hc⟩ := Plan.buildContext_yields (p := g.plan)
    (d := ⟨"Level",
      [.ofValue "a\nb", .ofValue "a b", .ofValue "Unknown", .ofValue "\"", .ofValue []], .null⟩) hv
    (by
      intro m hm
      simp only [List.mem_cons, List.not_mem_nil, or_false] at hm
      rcases hm with rfl | rfl | rfl | rfl | rfl <;> exact ⟨_, rfl⟩)
    ⟨.ofValue "Unknown", by simp, 'U', by decide, rfl⟩
  obtain ⟨register', j', hc⟩ := hc [] #[]
  obtain ⟨-, hemitted, last, conversion, shown, hlast, hshown, hread, htrip⟩ :=
    conversion_round_trip hg (by decide) hc
  obtain ⟨code, hcode⟩ := hemitted ⟨_, rfl⟩ ⟨_, rfl⟩
  obtain ⟨register'', j'', hrun⟩ := hcode [] #[]
  exact ⟨g, c, hg, code, last, conversion, shown, hcode, hlast, hread hrun, hshown,
    fun s => (htrip s).1⟩

end CatchAll.Target.Rust
