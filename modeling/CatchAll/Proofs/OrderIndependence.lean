import CatchAll.Generation
import CatchAll.Proofs.Schema.Loading

/-!
# Generation does not depend on the order of a document

Everything that is generated for an enum is made from its members in canonical
order, so a generator cannot tell a definition from its canonical form. Since
documents that differ in order load to the same canonical forms, their runs
agree in all they return and in every record they make.
-/

set_option autoImplicit false

namespace CatchAll

open scoped Text
open Schema Target Outcome

/-! ## One enum -/

namespace Target.Plan

@[simp] theorem namedMembers_canonical (p : Plan) (d : Definition) :
    p.namedMembers d.canonical = p.namedMembers d := by
  rw [namedMembers, namedMembers, Naming.deriveMembers, Naming.deriveMembers,
    Definition.canonical, sortMembers_sortMembers]

@[simp] theorem contextOf_canonical (p : Plan) (d : Definition) :
    p.contextOf d.canonical = p.contextOf d := by
  rw [contextOf, contextOf, namedMembers_canonical, Definition.canonical]

@[simp] theorem buildContext_canonical (p : Plan) (d : Definition) :
    p.buildContext d.canonical = p.buildContext d := by
  rw [buildContext, buildContext, contextOf_canonical, Definition.canonical]

end Target.Plan

/-- A backend that sees a definition in canonical order only. -/
structure Target.Backend.OrderBlind (b : Backend) : Prop where
  single : ∀ p d, b.single p d.canonical = b.single p d
  footer : ∀ p enums, b.footer p (enums.map Definition.canonical) = b.footer p enums

theorem Target.Rust.backend_orderBlind : Rust.backend.OrderBlind where
  single := by
    intro p d
    show Rust.single p d.canonical = Rust.single p d
    rw [Rust.single, Rust.single, Plan.buildContext_canonical]
    rfl
  footer := fun _ _ => rfl

theorem Target.Python.backend_orderBlind : Python.backend.OrderBlind where
  single := by
    intro p d
    show Python.single p d.canonical = Python.single p d
    rw [Python.single, Python.single, Plan.buildContext_canonical]
    rfl
  footer := by
    intro p enums
    show Python.footer p (enums.map Definition.canonical) = Python.footer p enums
    rw [Python.footer, Python.footer, List.map_map]
    rfl

/-! ## All enums of a module -/

namespace Generator

variable {g : Generator}

theorem enumWarnings_canonical (p : Plan) (before : List (Text × Text)) (d : Definition) :
    enumWarnings p before d.canonical = enumWarnings p before d := by
  rw [enumWarnings, enumWarnings, Plan.namedMembers_canonical]
  rfl

theorem enumsWarnings_canonical (p : Plan) (enums : List Definition)
    (before : List (Text × Text)) :
    enumsWarnings p before (enums.map Definition.canonical) = enumsWarnings p before enums := by
  induction enums generalizing before with
  | nil => rfl
  | cons d enums ih =>
    rw [List.map_cons, enumsWarnings, enumsWarnings, enumWarnings_canonical]
    simp only [Definition.canonical] at ih ⊢
    simp only [ih]

theorem validate_canonical (g : Generator) (enums : List Definition) :
    g.validate (enums.map Definition.canonical) = g.validate enums := by
  rw [validate, validate, enumsWarnings_canonical]

theorem singles_canonical (hb : g.backend.OrderBlind) (enums : List Definition) :
    g.singles (enums.map Definition.canonical) = g.singles enums := by
  induction enums with
  | nil => rfl
  | cons d enums ih => rw [List.map_cons, singles, singles, hb.single, ih]

theorem generate_canonical (hb : g.backend.OrderBlind) (enums : List Definition) :
    g.generate (enums.map Definition.canonical) = g.generate enums := by
  rw [generate, generate, List.length_map, singles_canonical hb, hb.footer]

theorem metadata_canonical (g : Generator) (enums : List Definition) :
    g.metadata (enums.map Definition.canonical) = g.metadata enums := by
  have hmembers : ((enums.map Definition.canonical).flatMap (·.members)).Perm
      (enums.flatMap (·.members)) := by
    rw [List.flatMap_map]
    exact List.Perm.flatMap_left enums fun d _ => sortMembers_perm d.members
  rw [metadata, metadata, hmembers.length_eq, List.length_map]

/-- A run is blind for the order in which definitions list their members. -/
theorem run_canonical (hb : g.backend.OrderBlind) (enums : List Definition) :
    g.run (enums.map Definition.canonical) = g.run enums := by
  have hattempt : g.attempt (enums.map Definition.canonical) = g.attempt enums := by
    rw [attempt, attempt, validate_canonical, generate_canonical hb, metadata_canonical,
      List.length_map]
  rw [run, run, hattempt]

end Generator

/-! ## Documents -/

theorem Registry.builtin_backend {name : Text} {b : Backend}
    (h : Registry.builtin.backend name = .ok b) : b = Rust.backend ∨ b = Python.backend := by
  have hbackends : Registry.builtin.backends =
      [("rust".toList, Rust.backend), ("python".toList, Python.backend)] := rfl
  rw [backend, backend?, hbackends] at h
  split at h
  · rename_i b' hb'
    obtain rfl : b' = b := Except.ok.inj h
    obtain ⟨entry, hentry, rfl⟩ := Option.map_eq_some_iff.mp hb'
    have hmem := List.mem_of_find?_eq_some hentry
    simp only [List.mem_cons, List.not_mem_nil, or_false] at hmem
    rcases hmem with rfl | rfl
    · exact Or.inl rfl
    · exact Or.inr rfl
  · cases h

theorem Registry.create_backend {r : Registry} {tree : Files.Tree} {language : Text}
    {source : ConfigSource} {g : Generator} {j j' : Journal}
    (h : (ExceptT.run (r.create tree language source)).run j = (.ok g, j')) :
    r.backend language = .ok g.backend := by
  obtain ⟨b, j₁, hb, h⟩ := journaled_bind_ok.mp h
  obtain ⟨hb, -⟩ := journaled_lift_ok.mp hb
  have hplanned : ∀ config, Generator.ofConfig b config none = .ok g → b = g.backend := by
    intro config h
    obtain ⟨plan, -, hdone⟩ := bind_eq_ok.mp h
    obtain rfl : (⟨b, plan⟩ : Generator) = g := Except.ok.inj hdone
    rfl
  have hcreated : ∀ config j,
      (ExceptT.run ((Generator.ofConfig b config none).mapError (RegistryError.creation language) :
        Journaled RegistryError Generator)).run j = (.ok g, j') → b = g.backend := by
    intro config j h
    obtain ⟨h, -⟩ := journaled_lift_ok.mp h
    cases hconfig : Generator.ofConfig b config none with
    | error e =>
      rw [hconfig] at h
      cases h
    | ok g' =>
      rw [hconfig] at h
      cases h
      exact hplanned config hconfig
  rw [hb]
  cases source with
  | unusable kind => cases h
  | _ =>
    obtain ⟨config, j₂, -, h⟩ := journaled_bind_ok.mp h
    exact congrArg Except.ok (hcreated config j₂ h)

theorem Generation.runGenerator_eq {g : Generator} (hb : g.backend.OrderBlind)
    {enums enums' : List Definition}
    (h : enums'.map Definition.canonical = enums.map Definition.canonical) :
    runGenerator g enums' = runGenerator g enums := by
  rw [runGenerator, runGenerator, ← Generator.run_canonical hb enums', h,
    Generator.run_canonical hb enums]

/-- Two documents that differ only in the order of their enums and of the members of each
give the same result for every language and every configuration: the same code, warnings,
metadata or failure, and the same records in the journal. -/
theorem generation_order_independent (tree : Files.Tree) (language : Text)
    (source : ConfigSource) {document document' : Json} (hsame : Reordered document document')
    (hload : ∃ enums, (Schema.load document).run.1 = .ok enums) :
    (Generation.ofDocument Registry.builtin tree document language source).run =
      (Generation.ofDocument Registry.builtin tree document' language source).run := by
  obtain ⟨enums, hload⟩ := hload
  have hrun : (ExceptT.run (Schema.load document)).run #[] =
      (.ok enums, (Schema.load document).run.2) := Prod.ext hload rfl
  obtain ⟨enums', hrun', hcanonical⟩ := load_reordered hsame hrun
  show (ExceptT.run (Generation.ofDocument _ tree document language source)).run #[] =
    (ExceptT.run (Generation.ofDocument _ tree document' language source)).run #[]
  rw [Generation.ofDocument, Generation.ofDocument, journaled_bind, journaled_bind,
    journaled_adapt, journaled_adapt, hrun, hrun']
  show (ExceptT.run ((Registry.builtin.create tree language source).adapt _ >>= _)).run _ =
    (ExceptT.run ((Registry.builtin.create tree language source).adapt _ >>= _)).run _
  rw [journaled_bind, journaled_bind, journaled_adapt]
  generalize hcreate : (ExceptT.run (Registry.builtin.create tree language source)).run _ = created
  obtain ⟨r, j⟩ := created
  cases r with
  | error e => rfl
  | ok g =>
    have hblind : g.backend.OrderBlind := by
      rcases Registry.builtin_backend (Registry.create_backend hcreate) with hb | hb
      · exact hb ▸ Rust.backend_orderBlind
      · exact hb ▸ Python.backend_orderBlind
    exact congrArg (fun work : StateM Journal Generator.Result =>
      (ExceptT.run (work : Journaled GenerationError Generator.Result)).run j)
      (Generation.runGenerator_eq hblind hcanonical).symm

/-- Two enums and the members of one of them in both orders. -/
theorem swapped_enums_generated_alike :
    (Generation.ofDocument Registry.builtin []
        (.obj [("enums".toList, .obj
          [("Level".toList, .arr [.str "a-b".toList, .str "a b".toList]),
           ("State".toList, .obj [("members".toList, .arr [.str "on".toList])])])])
        "rust" .standard).run =
      (Generation.ofDocument Registry.builtin []
        (.obj [("enums".toList, .obj
          [("State".toList, .obj [("members".toList, .arr [.str "on".toList])]),
           ("Level".toList, .arr [.str "a b".toList, .str "a-b".toList])])])
        "rust" .standard).run := by
  refine generation_order_independent [] "rust" .standard
    (Reordered.mk (by decide) rfl (List.Perm.swap _ _ _) ?_) ?_
  · refine .cons ⟨rfl, ?_⟩ (.cons ⟨rfl, .list (List.Perm.swap _ _ _)⟩ .nil)
    exact .object rfl (List.Perm.refl _)
  · -- the first document has its enums in order, so loading it only reads them
    have hsorted : sortedEntries
        [("Level".toList, .arr [.str "a-b".toList, .str "a b".toList]),
         ("State".toList, .obj [("members".toList, .arr [.str "on".toList])])] =
        [("Level".toList, .arr [.str "a-b".toList, .str "a b".toList]),
         ("State".toList, .obj [("members".toList, .arr [.str "on".toList])])] :=
      List.mergeSort_of_pairwise (by decide)
    refine ⟨[⟨"Level", [.ofValue "a-b", .ofValue "a b"], .null⟩,
      ⟨"State", [.ofValue "on"], .null⟩], (congrArg Prod.fst (load_obj rfl #[])).trans ?_⟩
    rw [hsorted]
    rfl

end CatchAll
