import CatchAll.Proofs.OrderIndependence
import CatchAll.Proofs.Target.VariantLists

/-!
# The languages agree

With its default configuration a language generates a module for a document in
plain text if and only if each enum has a member to make a name of, and then the
members that it names are those and no others. None of this depends on the
language, so the two languages accept the same documents, name the same values
and list the same values.
-/

set_option autoImplicit false

namespace CatchAll

open scoped Text
open Schema Target Outcome Emission Naming

namespace Schema.Definition

/-- All values by code point. -/
def sortedValues (d : Definition) : List Text := (sortMembers d.members).map (·.value)

/-- The values of members with something to make a name of, by code point. -/
def letteredValues (d : Definition) : List Text :=
  ((sortMembers d.members).filter (·.hasLetter)).map (·.value)

end Schema.Definition

/-! ## What is read from an enum -/

namespace Target

variable {config : Config} {p : Plan} {d : Definition} {c : Context}

theorem Context.Of.arms_values (h : c.Of p d) : c.arms.map Prod.snd = d.letteredValues := by
  have hnamed : c.arms.map Prod.snd = (c.members.filter (·.hasLetter)).map (·.value) := by
    rw [c.arms_eq_map_named, List.map_map, Context.named,
      List.filter_congr fun m hm => h.isNamed_eq hm]
    rfl
  have hbare (members : List Member) : (members.filter (·.hasLetter)).map (·.value) =
      ((members.map bare).filter (·.hasLetter)).map (·.value) := by
    rw [List.filter_map, List.map_map]
    rfl
  rw [hnamed, hbare, h.members, ← hbare]
  rfl

theorem Rust.values_of_single {code : Text} {register register' : Register} {j j' : Journal}
    (hp : Rust.backend.Plans config p)
    (h : (Rust.single p d).run register j = ((.ok code, register'), j')) :
    (∃ arms, Rust.readAsStr (p.typeName d.name) code = some arms ∧
      arms.map Prod.snd = d.letteredValues) ∧
    Rust.readValues (p.typeName d.name) code = some d.sortedValues := by
  obtain ⟨c, hc, hshows⟩ := Rust.shows_of_single hp h
  rw [← hc.typeName]
  exact ⟨⟨c.arms, hshows.arms, hc.arms_values⟩, hshows.values.trans (congrArg some hc.values)⟩

theorem Python.values_of_single {code : Text} {register register' : Register} {j j' : Journal}
    (hp : Python.backend.Plans config p)
    (h : (Python.single p d).run register j = ((.ok code, register'), j')) :
    (∃ constants, Python.readConstants (p.typeName d.name) code = some constants ∧
      constants.map (·.2.2) = d.letteredValues) ∧
    Python.readValues code = some d.sortedValues := by
  obtain ⟨c, hc, hshows⟩ := Python.shows_of_single hp h
  rw [← hc.typeName]
  refine ⟨⟨_, hshows.constants, ?_⟩, hshows.values.trans (congrArg some hc.values)⟩
  rw [List.map_map, ← hc.arms_values]
  rfl

end Target

/-! ## Generators with default configurations -/

section

variable {r : Registry} {tree : Files.Tree} {document : Json} {language : Text} {b : Backend}
  {config : Config} {g : Generator} {enums : List Definition}

theorem Registry.create_of_backend (hb : r.backend language = .ok b)
    (hconfig : ∀ j, (ExceptT.run (Config.resolve tree (r.resolve language) [] [])).run j =
      (.ok config, j)) (hg : Generator.ofConfig b config none = .ok g) (j : Journal) :
    (ExceptT.run (r.create tree language .standard)).run j = (.ok g, j) := by
  refine journaled_bind_ok.mpr ⟨b, j, journaled_lift_ok.mpr ⟨hb, rfl⟩, ?_⟩
  refine journaled_bind_ok.mpr ⟨config, j, ?_, ?_⟩
  · rw [journaled_adapt]
    show (_ : Except RegistryError Config × Journal) = _
    rw [Registry.configOf, hconfig]
    rfl
  · rw [hg]
    rfl

/-- A document that loads is given to the generator as its enums. -/
theorem Generation.ofDocument_of_load {source : ConfigSource}
    (hload : (Schema.load document).run.1 = .ok enums)
    (hcreate : ∀ j, (ExceptT.run (r.create tree language source)).run j = (.ok g, j)) :
    ∃ j, (Generation.ofDocument r tree document language source).run.1 =
      .ok (((g.run enums).run []).run j).1.1 := by
  refine ⟨(Schema.load document).run.2, ?_⟩
  have hloaded : (ExceptT.run (Schema.load document)).run #[] =
      (.ok enums, (Schema.load document).run.2) := Prod.ext hload rfl
  show ((ExceptT.run (Generation.ofDocument r tree document language source)).run #[]).1 = _
  rw [Generation.ofDocument, journaled_bind, journaled_adapt, hloaded]
  show ((ExceptT.run ((r.create tree language source).adapt _ >>= _)).run _).1 = _
  rw [journaled_bind, journaled_adapt, hcreate]
  rfl

end

/-- What a run for a document with the default configuration of a language gives. -/
def Generation.Gives (tree : Files.Tree) (document : Json) (language code : Text) : Prop :=
  ∃ warnings metadata,
    (Generation.ofDocument Registry.builtin tree document language .standard).run.1 =
      .ok (.success code warnings metadata)

/-- The generator that is made for a language with its default configuration. -/
structure Generator.IsDefault (g : Generator) (tree : Files.Tree) (language : Text) (b : Backend) :
    Prop where
  config : ∃ config, Generator.ofConfig b config none = .ok g ∧ Generator.Presentable config ∧
    config.CanWrite
  created : ∀ j, (ExceptT.run (Registry.builtin.create tree language .standard)).run j = (.ok g, j)

section

variable (tree : Files.Tree)

theorem Generator.isDefault_rust : ∃ g, IsDefault g tree "rust" Rust.backend := by
  have hresolve : Registry.builtin.resolve "rust" = "rust".toList := by decide +kernel
  have hbackend : Registry.builtin.backend "rust" = .ok Rust.backend := by
    rw [Registry.backend, Registry.backend?, hresolve]
    rfl
  have hconfig (j : Journal) :
      (ExceptT.run (Config.resolve tree (Registry.builtin.resolve "rust") [] [])).run j =
        (.ok (Config.ofFields Config.rustDefaults), j) := by
    rw [hresolve]
    rfl
  refine ⟨_, ⟨Config.ofFields Config.rustDefaults, rfl, ?_, ?_⟩,
    Registry.create_of_backend hbackend hconfig rfl⟩
  · exact ⟨⟨_, rfl⟩, ⟨none, rfl, .inl rfl⟩, ⟨_, rfl⟩⟩
  · exact ⟨⟨_, rfl⟩, ⟨_, rfl⟩⟩

theorem Generator.isDefault_python : ∃ g, IsDefault g tree "python" Python.backend := by
  have hresolve : Registry.builtin.resolve "python" = "python".toList := by decide +kernel
  have hbackend : Registry.builtin.backend "python" = .ok Python.backend := by
    rw [Registry.backend, Registry.backend?, hresolve]
    rfl
  have hconfig (j : Journal) :
      (ExceptT.run (Config.resolve tree (Registry.builtin.resolve "python") [] [])).run j =
        (.ok (Config.ofFields Config.pythonDefaults), j) := by
    rw [hresolve]
    rfl
  refine ⟨_, ⟨Config.ofFields Config.pythonDefaults, rfl, ?_, ?_⟩,
    Registry.create_of_backend hbackend hconfig rfl⟩
  · exact ⟨⟨_, rfl⟩, ⟨none, rfl, .inl rfl⟩, ⟨_, rfl⟩⟩
  · exact ⟨⟨_, rfl⟩, ⟨_, rfl⟩⟩

variable {tree} {document : Json} {enums : List Definition} {language : Text} {b : Backend}
  {g : Generator} (hload : (Schema.load document).run.1 = .ok enums)
  (hg : g.IsDefault tree language b)
include hload hg

theorem Generation.bodies_of_gives {code : Text}
    (h : Generation.Gives tree document language code) :
    ∃ bodies, g.Contains code bodies ∧
      List.Forall₂ (fun d body => ∃ register j register' j',
        (g.backend.single g.plan d).run register j = ((.ok body, register'), j')) enums bodies := by
  obtain ⟨warnings, metadata, hrun⟩ := h
  obtain ⟨j, hdocument⟩ := Generation.ofDocument_of_load hload hg.created
  have hresult := Except.ok.inj (hdocument.symm.trans hrun)
  exact Generator.bodies_of_success (Prod.ext (Prod.ext hresult rfl) rfl)

/-- There is a module if and only if every enum has a member that can be named. -/
theorem Generation.gives_iff
    (hready : (∀ d ∈ enums, ∃ m ∈ d.members, m.hasLetter = true) → g.Ready enums)
    (hcontext : ∀ {d : Definition} {body : Text} {register register' : Register} {j j' : Journal},
      (g.backend.single g.plan d).run register j = ((.ok body, register'), j') →
        ∃ c : Context, c.Of g.plan d) :
    (∃ code, Generation.Gives tree document language code) ↔
      ∀ d ∈ enums, ∃ m ∈ d.members, m.hasLetter = true := by
  constructor
  · rintro ⟨code, hcode⟩
    obtain ⟨bodies, -, hbodies⟩ := Generation.bodies_of_gives hload hg hcode
    refine ((List.forall₂_and_left _ _).mp (hbodies.imp fun d body hbody => ⟨?_, trivial⟩)).1
    obtain ⟨register, j, register', j', hrun⟩ := hbody
    obtain ⟨c, hc⟩ := hcontext hrun
    exact hc.exists_hasLetter
  · intro hletters
    obtain ⟨j, hdocument⟩ := Generation.ofDocument_of_load hload hg.created
    obtain ⟨code, warnings, metadata, register', j', hrun⟩ := (hready hletters).run_succeeds [] j
    refine ⟨code, warnings, metadata, ?_⟩
    rw [hdocument, hrun]

end

/-! ## Main result -/

/-- For every document in plain text that loads: with their default configurations both languages
give a module exactly if every enum has a member that can be named, and then both name the values
of all such members, and list every value once in order. -/
theorem languages_agree (tree : Files.Tree) {document : Json} {enums : List Definition}
    (hload : (Schema.load document).run.1 = .ok enums) (hplain : ∀ d ∈ enums, d.IsPlain) :
    ((∃ code, Generation.Gives tree document "rust" code) ↔
      ∀ d ∈ enums, ∃ m ∈ d.members, m.hasLetter = true) ∧
    ((∃ code, Generation.Gives tree document "python" code) ↔
      ∀ d ∈ enums, ∃ m ∈ d.members, m.hasLetter = true) ∧
    (∀ d ∈ enums, d.sortedValues.Perm (d.members.map (·.value)) ∧
      d.sortedValues.Pairwise List.lt) ∧
    (∀ code, Generation.Gives tree document "rust" code →
      ∃ g bodies, (Registry.builtin.create tree "rust" .standard).run.1 = .ok g ∧
        g.Contains code bodies ∧
        List.Forall₂ (fun d body =>
          (∃ arms, Rust.readAsStr (g.plan.typeName d.name) body = some arms ∧
            arms.map Prod.snd = d.letteredValues) ∧
          Rust.readValues (g.plan.typeName d.name) body = some d.sortedValues) enums bodies) ∧
    ∀ code, Generation.Gives tree document "python" code →
      ∃ g bodies, (Registry.builtin.create tree "python" .standard).run.1 = .ok g ∧
        g.Contains code bodies ∧
        List.Forall₂ (fun d body =>
          (∃ constants, Python.readConstants (g.plan.typeName d.name) body = some constants ∧
            constants.map (·.2.2) = d.letteredValues) ∧
          Python.readValues body = some d.sortedValues) enums bodies := by
  have hloaded : (ExceptT.run (Schema.load document)).run #[] =
      (.ok enums, (Schema.load document).run.2) := Prod.ext hload rfl
  have hdistinct := load_distinct hloaded
  obtain ⟨rust, hrust⟩ := Generator.isDefault_rust tree
  obtain ⟨python, hpython⟩ := Generator.isDefault_python tree
  obtain ⟨rustConfig, hrustConfig, hrustPresentable, hrustWrites⟩ := hrust.config
  obtain ⟨pythonConfig, hpythonConfig, hpythonPresentable, hpythonWrites⟩ := hpython.config
  obtain ⟨hrustBackend, hrustPlans⟩ := Generator.ofConfig_ok hrustConfig
  obtain ⟨hpythonBackend, hpythonPlans⟩ := Generator.ofConfig_ok hpythonConfig
  refine ⟨Generation.gives_iff hload hrust (fun hletters => ?_) fun {d body _ _ _ _} hrun => ?_,
    Generation.gives_iff hload hpython (fun hletters => ?_) fun {d body _ _ _ _} hrun => ?_,
    fun d hd => ⟨(sortMembers_perm d.members).map _, sortMembers_ascending (hdistinct d hd)⟩,
    fun code hcode => ?_,
    fun code hcode => ?_⟩
  · exact Generator.ready_rust hrustConfig hrustPresentable fun d hd =>
      Rust.emittable_of_isPlain hrustPlans hrustWrites (hplain d hd) (hletters d hd)
  · rw [hrustBackend] at hrun
    obtain ⟨c, hc, -⟩ := Rust.shows_of_single hrustPlans hrun
    exact ⟨c, hc⟩
  · exact Generator.ready_python hpythonConfig hpythonPresentable fun d hd =>
      Python.emittable_of_isPlain hpythonPlans hpythonWrites (hplain d hd) (hletters d hd)
  · rw [hpythonBackend] at hrun
    obtain ⟨c, hc, -⟩ := Python.shows_of_single hpythonPlans hrun
    exact ⟨c, hc⟩
  · obtain ⟨bodies, hcontains, hbodies⟩ := Generation.bodies_of_gives hload hrust hcode
    refine ⟨rust, bodies, congrArg Prod.fst (hrust.created #[]), hcontains,
      hbodies.imp fun d body hbody => ?_⟩
    obtain ⟨register, j, register', j', hrun⟩ := hbody
    rw [hrustBackend] at hrun
    exact Rust.values_of_single hrustPlans hrun
  · obtain ⟨bodies, hcontains, hbodies⟩ := Generation.bodies_of_gives hload hpython hcode
    refine ⟨python, bodies, congrArg Prod.fst (hpython.created #[]), hcontains,
      hbodies.imp fun d body hbody => ?_⟩
    obtain ⟨register, j, register', j', hrun⟩ := hbody
    rw [hpythonBackend] at hrun
    exact Python.values_of_single hpythonPlans hrun

/-- A document with a value that has no letter, and a name without one. -/
def sparseDocument : Json :=
  .obj [("enums".toList, .obj [("Level".toList, .arr
    [.str "low".toList, .str "--".toList,
      .obj [("value".toList, .str "b".toList), ("name".toList, .str "+".toList)]])])]

def sparseLevel : Definition :=
  ⟨"Level", [.ofValue "low", .ofValue "--", ⟨"b", .str "+", .null, false, none⟩], .null⟩

theorem load_sparseDocument : (Schema.load sparseDocument).run.1 = .ok [sparseLevel] := by
  have hsorted (entry : Text × Json) : sortedEntries [entry] = [entry] :=
    List.mergeSort_of_pairwise (List.pairwise_singleton _ _)
  refine (congrArg Prod.fst (load_obj rfl #[])).trans ?_
  rw [hsorted]
  rfl

theorem sparse_values_agree :
    ∃ rust python, Generation.Gives [] sparseDocument "rust" rust ∧
      Generation.Gives [] sparseDocument "python" python ∧
      sparseLevel.letteredValues = ["low".toList] ∧
      sparseLevel.sortedValues = ["--".toList, "b".toList, "low".toList] := by
  have hplain : ∀ d ∈ [sparseLevel], d.IsPlain := by
    refine List.forall_mem_singleton.mpr ⟨⟨.inl rfl, ?_⟩, ?_⟩
    all_goals
      simp only [sparseLevel, List.forall_mem_cons]
    · exact ⟨.inl rfl, .inl rfl, .inl rfl, List.forall_mem_nil _⟩
    · exact ⟨.inl rfl, .inl rfl, .inr ⟨_, rfl⟩, List.forall_mem_nil _⟩
  have hletters : ∀ d ∈ [sparseLevel], ∃ m ∈ d.members, m.hasLetter = true :=
    List.forall_mem_singleton.mpr ⟨.ofValue "low", List.mem_cons_self, rfl⟩
  obtain ⟨hrust, hpython, -⟩ := languages_agree [] load_sparseDocument hplain
  obtain ⟨rust, hrust⟩ := hrust.mpr hletters
  obtain ⟨python, hpython⟩ := hpython.mpr hletters
  have hsorted : sortMembers sparseLevel.members =
      [.ofValue "--", ⟨"b", .str "+", .null, false, none⟩, .ofValue "low"] := by
    have hmoved : sparseLevel.members.Perm
        [.ofValue "--", ⟨"b", .str "+", .null, false, none⟩, .ofValue "low"] :=
      @List.perm_append_comm _ [Member.ofValue "low"]
        [.ofValue "--", ⟨"b", .str "+", .null, false, none⟩]
    rw [sortMembers_eq_of_perm hmoved (by decide)]
    exact sortMembers_of_pairwise (by decide)
  refine ⟨rust, python, hrust, hpython, ?_, ?_⟩
  · rw [Definition.letteredValues, hsorted]
    rfl
  · rw [Definition.sortedValues, hsorted]
    rfl

end CatchAll
