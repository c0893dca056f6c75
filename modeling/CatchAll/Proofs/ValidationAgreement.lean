import CatchAll.Proofs.Target.VariantLists
import CatchAll.Proofs.Text.Quoted
import CatchAll.Proofs.TypeClashes

/-!
# Warnings come true

Warnings are made before any code is, from the enums alone. A warning that a value is
left to the catch-all, and one that the example in the documentation has another
placeholder, say which enum they are about and what they are about. So both can be
held against the code: the conversion of the enum and the example in its documentation.
-/

set_option autoImplicit false

namespace CatchAll

open scoped Text
open Schema Naming Target Outcome Emission

/-! ## What the code says -/

namespace Target

/-- The placeholder in the arms of an example. -/
def placeholderOf (arms : List Arm) : Option Text :=
  arms.findSome? fun
    | .guard placeholder => some placeholder
    | _ => none

theorem placeholderOf_append (names : List Text) (placeholder : Text) :
    placeholderOf (names.map .variant ++ [.guard placeholder, .default]) = some placeholder := by
  induction names with
  | nil => rfl
  | cons name names ih => exact ih

namespace Policy

/-- The conversion from a text in the code of an enum. -/
def readConversion (typeName code : Text) : Policy → Option (Table Text)
  | rust => Rust.readFrom typeName code
  | python => Python.readConversion typeName code
  | fixed _ => none

/-- The placeholder in the documentation of an enum. -/
def readPlaceholder (typeName code : Text) : Policy → Option Text
  | rust => (Rust.readExample typeName code).bind placeholderOf
  | python => (Python.readExample typeName code).bind placeholderOf
  | fixed _ => none

end Policy

/-- Both are those of the context. -/
theorem reads_of_single {b : Backend} (hb : b.IsNative) {config : Config} {p : Plan}
    {d : Definition} {code : Text} {register register' : Register} {j j' : Journal}
    (hp : b.Plans config p) (h : (b.single p d).run register j = ((.ok code, register'), j')) :
    ∃ c : Context, c.Of p d ∧
      p.policy.readConversion c.typeName code = some (c.arms.map Prod.swap) ∧
      p.policy.readPlaceholder c.typeName code =
        some (p.policy.placeholder p.settings.variantCase c.members) := by
  rw [hp.policy]
  rcases hb with rfl | rfl
  · obtain ⟨c, hc, hshows⟩ := Rust.shows_of_single hp h
    have hexample : Policy.rust.readPlaceholder c.typeName code =
        some (Rust.placeholder c.members) := by
      rw [Policy.readPlaceholder, hshows.documented]
      exact placeholderOf_append c.variants _
    exact ⟨c, hc, hshows.cases, hexample⟩
  · obtain ⟨c, hc, hshows⟩ := Python.shows_of_single hp h
    have hexample : Policy.python.readPlaceholder c.typeName code =
        some (Python.placeholder p.settings.variantCase c.members) := by
      rw [Policy.readPlaceholder, hshows.documented]
      exact placeholderOf_append c.variants _
    exact ⟨c, hc, hshows.cases, hexample⟩

end Target

namespace Generator

/-! ## What is said -/

/-- The warning that a value has no variant of its own. -/
def catchAllOnly (name value : Text) : Text :=
  "Value " ++ Text.quoted value ++ " of " ++ name ++
    " has no identifier and is only representable through the catch-all variant"

/-- The warning that the example in the documentation has another placeholder. -/
def placeholderTaken (name placeholder : Text) : Text :=
  "Enum '" ++ name ++ "' already uses '" ++ placeholderBase ++
    "'; documentation example uses " ++ Text.quoted placeholder

theorem catchAllOnly_inj {name name' value value' : Text}
    (h : catchAllOnly name value = catchAllOnly name' value') : name = name' ∧ value = value' := by
  have hsplit (name value : Text) : catchAllOnly name value =
      "Value " ++ (Text.quoted value ++ (" of " ++ (name ++
        " has no identifier and is only representable through the catch-all variant"))) := by
    unfold catchAllOnly
    simp only [List.append_assoc]
  rw [hsplit, hsplit] at h
  obtain ⟨hvalue, hrest⟩ := Text.quoted_append_inj (List.append_cancel_left h)
  exact ⟨List.append_cancel_right (List.append_cancel_left hrest), hvalue⟩

/-- Names are arbitrary texts, so the placeholder is told by its place at the end. -/
theorem placeholderTaken_inj {name name' t t' : Text}
    (h : placeholderTaken name t = placeholderTaken name' t') : name = name' ∧ t = t' := by
  have hsplit (name t : Text) : placeholderTaken name t =
      ("Enum '" ++ name ++ "' already uses '" ++ placeholderBase ++
        "'; documentation example uses".toList) ++ ' ' :: Text.quoted t := by
    unfold placeholderTaken
    simp
  rw [hsplit, hsplit] at h
  obtain ⟨hfront, ht⟩ := Text.append_quoted_inj h
  simp only [List.append_assoc] at hfront
  exact ⟨List.append_cancel_right (List.append_cancel_left hfront), ht⟩

/-! ## Other warnings -/

theorem head?_memberWarnings {name : Text} {m : Member} :
    ∀ w ∈ memberWarnings name m, w.head? = some 'V' := by
  intro w hw
  simp only [memberWarnings, List.mem_append, List.mem_ite_nil_right, List.mem_singleton] at hw
  rcases hw with ⟨-, rfl⟩ | ⟨-, rfl⟩ <;> rfl

theorem head?_placeholderWarnings {name placeholder : Text} :
    ∀ w ∈ placeholderWarnings name placeholder, w.head? = some 'E' := by
  intro w hw
  rw [placeholderWarnings, List.mem_ite_nil_left, List.mem_singleton] at hw
  rw [hw.2]
  rfl

theorem head?_nameWarnings {before : List (Text × Text)} {typeName name : Text} :
    ∀ w ∈ nameWarnings before typeName name, w.head? = some 'E' := by
  intro w hw
  rcases List.mem_append.mp hw with hw | hw
  · split at hw
    · rw [List.mem_singleton.mp hw]
      rfl
    · cases hw
  · rw [List.mem_ite_nil_left, List.mem_singleton] at hw
    rw [hw.2]
    rfl

theorem head?_moduleWarnings {b : Backend} (hb : b.IsNative) {p : Plan} {warnings : List Text}
    (h : b.moduleWarnings p = .ok warnings) : ∀ w ∈ warnings, w.head? = some 'M' := by
  have hhead (t : Text) : ("Module name: " ++ t).head? = some 'M' := rfl
  rcases hb with rfl | rfl
  · obtain ⟨name, rfl⟩ := rust_moduleWarnings_ok h
    exact List.forall_mem_map.mpr fun f _ => hhead f.message
  · intro w hw
    simp only [Python.backend, Python.moduleWarnings] at h
    split at h
    · split at h
      · obtain rfl := Except.ok.inj h
        cases hw
      · obtain rfl := Except.ok.inj h
        rw [List.mem_singleton.mp hw]
        rfl
    · cases h

/-- A warning that ends in a quoted text is about no type name. -/
theorem placeholderTaken_not_mem_nameWarnings {name t typeName name' : Text}
    {before : List (Text × Text)} (hname : IsName typeName) :
    placeholderTaken name t ∉ nameWarnings before typeName name' := by
  intro hmem
  rcases List.mem_append.mp hmem with hmem | hmem
  · split at hmem
    · have hfifth := congrArg (·[4]?) (List.mem_singleton.mp hmem)
      exact absurd (Option.some.inj hfifth) (by decide)
    · cases hmem
  · rw [List.mem_ite_nil_left, List.mem_singleton] at hmem
    have hquoted : lastName (placeholderTaken name t) = [] := by
      obtain ⟨front, hfront⟩ : ∃ front, placeholderTaken name t = front ++ [Text.quoteMark t] :=
        ⟨_, (List.append_assoc ..).symm⟩
      rw [hfront, lastName]
      simp [isNameChar_quoteMark]
    have hrenamed : "Enum '" ++ name' ++ "' renamed to " ++ typeName =
        ("Enum '" ++ name' ++ "' renamed to".toList) ++ ' ' :: typeName := by simp
    rw [hmem.2, hrenamed, (name_at_end _ hname.chars).1] at hquoted
    exact hname.ne_nil hquoted

/-! ## The warnings of an enum -/

variable {p : Plan} {d : Definition} {warnings : List Text}

theorem catchAllOnly_mem_memberWarnings {name name' value : Text} {m : Member} :
    catchAllOnly name value ∈ memberWarnings name' m ↔
      name = name' ∧ m.value = value ∧ m.identifier = none := by
  -- the other warning about a value ends in another letter
  have hlast {front ending : Text} {c : Char} (h : ending.getLast? = some c) :
      (front ++ ending).getLast? = some c := by
    rw [List.getLast?_append, h]
    rfl
  have hdeprecated : catchAllOnly name value ∉ (if m.deprecated then
      ["Value " ++ Text.quoted m.value ++ " of " ++ name' ++ " is deprecated"] else []) := by
    intro hmem
    rw [List.mem_ite_nil_right, List.mem_singleton] at hmem
    have hends : (catchAllOnly name value).getLast? = some 't' := hlast (by decide +kernel)
    rw [hmem.2, hlast (c := 'd') (by decide +kernel)] at hends
    exact absurd (Option.some.inj hends) (by decide)
  have hsame : catchAllOnly name value ∈ (if m.identifier.isNone then
      [catchAllOnly name' m.value] else []) ↔
      name = name' ∧ m.value = value ∧ m.identifier = none := by
    rw [List.mem_ite_nil_right, List.mem_singleton, Option.isNone_iff_eq_none]
    constructor
    · rintro ⟨hnone, heq⟩
      obtain ⟨rfl, rfl⟩ := catchAllOnly_inj heq
      exact ⟨rfl, rfl, hnone⟩
    · rintro ⟨rfl, rfl, hnone⟩
      exact ⟨hnone, rfl⟩
  exact List.mem_append.trans ((or_iff_left hdeprecated).trans hsame)

theorem catchAllOnly_mem_enumWarnings {name value : Text} {before : List (Text × Text)}
    (h : enumWarnings p before d = .ok warnings) :
    catchAllOnly name value ∈ warnings ↔ name = d.name ∧ ∃ members,
      p.namedMembers d = .ok members ∧ ∃ m ∈ members, m.value = value ∧ m.identifier = none := by
  obtain ⟨members, hmembers, hdone⟩ := bind_eq_ok.mp h
  have hhead : (catchAllOnly name value).head? = some 'V' := rfl
  have hname : catchAllOnly name value ∉ nameWarnings before (p.typeName d.name) d.name :=
    fun hmem => absurd (hhead.symm.trans (head?_nameWarnings _ hmem)) (by decide)
  have hplaceholder : catchAllOnly name value ∉ placeholderWarnings d.name
      (p.policy.placeholder p.settings.variantCase members) :=
    fun hmem => absurd (hhead.symm.trans (head?_placeholderWarnings _ hmem)) (by decide)
  rw [← Except.ok.inj hdone, List.mem_append, List.mem_append, or_iff_left hplaceholder,
    or_iff_right hname, List.mem_flatMap, exists_ok_iff hmembers]
  simp only [catchAllOnly_mem_memberWarnings]
  constructor
  · rintro ⟨m, hm, hsame, hvalue, hnone⟩
    exact ⟨hsame, m, hm, hvalue, hnone⟩
  · rintro ⟨hsame, m, hm, hvalue, hnone⟩
    exact ⟨m, hm, hsame, hvalue, hnone⟩

theorem placeholderTaken_mem_enumWarnings (hv : p.vocabulary.EndsInLetters) {name t : Text}
    {before : List (Text × Text)} (h : enumWarnings p before d = .ok warnings) :
    placeholderTaken name t ∈ warnings ↔ name = d.name ∧ ∃ members,
      p.namedMembers d = .ok members ∧
        t = p.policy.placeholder p.settings.variantCase members ∧ t ≠ placeholderBase := by
  obtain ⟨members, hmembers, hdone⟩ := bind_eq_ok.mp h
  have hname : placeholderTaken name t ∉ nameWarnings before (p.typeName d.name) d.name :=
    placeholderTaken_not_mem_nameWarnings (isName_nameOf hv d.name p.settings.typeCase)
  have hmember : placeholderTaken name t ∉ members.flatMap (memberWarnings d.name) := by
    intro hmem
    obtain ⟨m, -, hmem⟩ := List.mem_flatMap.mp hmem
    have hhead : (placeholderTaken name t).head? = some 'E' := rfl
    exact absurd (hhead.symm.trans (head?_memberWarnings _ hmem)) (by decide)
  rw [← Except.ok.inj hdone, List.mem_append, List.mem_append,
    or_iff_right (not_or.mpr ⟨hname, hmember⟩), placeholderWarnings, List.mem_ite_nil_left,
    List.mem_singleton, exists_ok_iff hmembers]
  constructor
  · rintro ⟨hbase, heq⟩
    obtain ⟨rfl, rfl⟩ := placeholderTaken_inj heq
    exact ⟨rfl, rfl, hbase⟩
  · rintro ⟨rfl, rfl, hbase⟩
    exact ⟨hbase, rfl⟩

/-! ## The warnings of a list of enums -/

/-- What is said of each enum by itself is said of the list when it is said of one of them. -/
theorem mem_enumsWarnings {w : Text} {Says : Definition → Prop} {before : List (Text × Text)}
    {enums : List Definition}
    (htold : ∀ d ∈ enums, ∀ before here, enumWarnings p before d = .ok here →
      (w ∈ here ↔ Says d)) (h : enumsWarnings p before enums = .ok warnings) :
    w ∈ warnings ↔ ∃ d ∈ enums, Says d := by
  induction enums generalizing before warnings with
  | nil =>
    obtain rfl : [] = warnings := Except.ok.inj h
    simp
  | cons d enums ih =>
    obtain ⟨here, hhere, h⟩ := bind_eq_ok.mp h
    obtain ⟨rest, hrest, hdone⟩ := bind_eq_ok.mp h
    obtain ⟨hd, henums⟩ := List.forall_mem_cons.mp htold
    rw [← Except.ok.inj hdone, List.mem_append, hd _ _ hhere, ih henums hrest,
      List.exists_mem_cons_iff]

theorem mem_validate {g : Generator} (hb : g.backend.IsNative) {w : Text}
    (hw : w.head? ≠ some 'M') {Says : Definition → Prop} {enums : List Definition}
    (htold : ∀ d ∈ enums, ∀ before here, enumWarnings g.plan before d = .ok here →
      (w ∈ here ↔ Says d)) (h : g.validate enums = .ok warnings) :
    w ∈ warnings ↔ ∃ d ∈ enums, Says d := by
  obtain ⟨found, hfound, h⟩ := bind_eq_ok.mp h
  obtain ⟨others, hothers, hdone⟩ := bind_eq_ok.mp h
  have hmodule : w ∉ others := fun hmem => hw (head?_moduleWarnings hb hothers w hmem)
  rw [← Except.ok.inj hdone, List.mem_append, or_iff_left hmodule, mem_enumsWarnings htold hfound]

/-- With distinct names, what is said of an enum by its name is said of that enum only. -/
theorem exists_named_iff {enums : List Definition} (hnames : (enums.map (·.name)).Nodup)
    (hd : d ∈ enums) {Says : Definition → Prop} :
    (∃ d' ∈ enums, d.name = d'.name ∧ Says d') ↔ Says d := by
  constructor
  · rintro ⟨d', hd', hname, htold⟩
    obtain rfl : d = d' := List.inj_on_of_nodup_map hnames hd hd' hname
    exact htold
  · exact fun htold => ⟨d, hd, rfl, htold⟩

/-! ## Main result -/

/-- What warnings say of an enum is what its code says: its values without a case, and the
placeholder of the example if it is not the usual one. -/
structure Foretold (p : Plan) (warnings : List Text) (d : Definition) (c : Context)
    (code : Text) : Prop where
  conversion : ∃ conversion, p.policy.readConversion c.typeName code = some conversion ∧
    ∀ value, catchAllOnly d.name value ∈ warnings ↔
      value ∈ d.members.map (·.value) ∧ Table.get? value conversion = none
  placeholder : ∃ placeholder, p.policy.readPlaceholder c.typeName code = some placeholder ∧
    ∀ t, placeholderTaken d.name t ∈ warnings ↔ t = placeholder ∧ t ≠ placeholderBase

section

variable {g : Generator} {config : Config} {enums : List Definition} {d : Definition}
  {body : Text} {register register' : Register} {j j' : Journal}

theorem foretold_of_single (hb : g.backend.IsNative) (hp : g.backend.Plans config g.plan)
    (hnames : (enums.map (·.name)).Nodup) (hd : d ∈ enums)
    (hdistinct : (d.members.map (·.value)).Nodup)
    (h : (g.backend.single g.plan d).run register j = ((.ok body, register'), j'))
    (hvalid : g.validate enums = .ok warnings) :
    ∃ c, Yields (g.plan.buildContext d) c ∧ Foretold g.plan warnings d c body := by
  have hv : g.plan.vocabulary.EndsInLetters := hp.vocabulary ▸ endsInLetters_native hb
  obtain ⟨c, hc, hconversion, hplaceholder⟩ := reads_of_single hb hp h
  have hvalues (value : Text) : value ∈ c.values ↔ value ∈ d.members.map (·.value) := by
    rw [hc.values]
    exact ((sortMembers_perm d.members).map _).mem_iff
  refine ⟨c, hc.built, ⟨_, hconversion, fun value => ?_⟩, _, hplaceholder, fun t => ?_⟩
  · have hhead : (catchAllOnly d.name value).head? ≠ some 'M' := by
      show some 'V' ≠ some 'M'
      decide
    rw [mem_validate hb hhead (fun d' _ before here => catchAllOnly_mem_enumWarnings) hvalid,
      exists_named_iff hnames hd, exists_ok_iff hc.derived, hc.get?_swap_arms_eq_none hdistinct,
      ← hvalues]
    constructor
    · rintro ⟨m, hm, rfl, hnone⟩
      refine ⟨List.mem_map_of_mem hm, fun m' hm' hvalue => ?_⟩
      obtain rfl : m' = m :=
        List.inj_on_of_nodup_map (hc.values_nodup hdistinct) hm' hm hvalue
      exact hnone
    · rintro ⟨hvalue, hall⟩
      obtain ⟨m, hm, rfl⟩ := List.mem_map.mp hvalue
      exact ⟨m, hm, rfl, hall m hm rfl⟩
  · have hhead : (placeholderTaken d.name t).head? ≠ some 'M' := by
      show some 'E' ≠ some 'M'
      decide
    rw [mem_validate hb hhead (fun d' _ before here => placeholderTaken_mem_enumWarnings hv) hvalid,
      exists_named_iff hnames hd, exists_ok_iff hc.derived]

/-- For every configuration, and distinct names and values: warnings are made whenever there
is code, if the name of the module is a text, and they come true in the code of each enum. -/
theorem validation_predicts_code {b : Backend} {code : Text} (hb : b.IsNative)
    (hg : Generator.ofConfig b config none = .ok g) (hnames : (enums.map (·.name)).Nodup)
    (hdistinct : ∀ d ∈ enums, (d.members.map (·.value)).Nodup)
    (h : (g.generate enums).run register j = ((.ok code, register'), j')) :
    ((∃ name, config.moduleName = .str name) → ∃ warnings, g.validate enums = .ok warnings) ∧
    ∀ warnings, g.validate enums = .ok warnings →
      ∃ before bodies after, code = Text.joinWith "\n\n" (before ++ bodies ++ after) ++ "\n" ∧
        List.Forall₂ (fun d body => ∃ c, Yields (g.plan.buildContext d) c ∧
          Foretold g.plan warnings d c body) enums bodies := by
  obtain ⟨rfl, hp⟩ := Generator.ofConfig_ok hg
  obtain ⟨before, bodies, after, hcode, hbodies⟩ := generate_ok h
  refine ⟨fun ⟨name, hname⟩ => ?_, fun warnings hvalid => ⟨before, bodies, after, hcode, ?_⟩⟩
  · have hmembers : ∀ d ∈ enums, ∃ members, g.plan.namedMembers d = .ok members := by
      intro d hd
      obtain ⟨body, -, _, _, _, _, hsingle⟩ := exists_of_forall₂ hbodies d hd
      obtain ⟨c, hc, -⟩ := reads_of_single hb hp hsingle
      exact ⟨_, hc.derived⟩
    have hmodule : ∃ others, g.backend.moduleWarnings g.plan = .ok others := by
      have hnamed : g.plan.module = .str name := by rw [Plan.module, hp.config_eq, hname]
      rcases hb with hrust | hpython
      · exact hrust ▸ moduleWarnings_rust hnamed
      · exact hpython ▸ moduleWarnings_python hnamed
    obtain ⟨found, hfound⟩ := enumsWarnings_ok [] hmembers
    obtain ⟨others, hothers⟩ := hmodule
    exact ⟨_, bind_eq_ok.mpr ⟨found, hfound, bind_eq_ok.mpr ⟨others, hothers, rfl⟩⟩⟩
  · refine ((List.forall₂_and_left _ _).mpr ⟨fun d hd => hd, hbodies⟩).imp ?_
    rintro d body ⟨hd, _, _, _, _, hsingle⟩
    exact foretold_of_single hb hp hnames hd (hdistinct d hd) hsingle hvalid

end

/-- A value without a letter or digit, and one that is the usual placeholder. -/
def featuredLevel : Definition :=
  ⟨"Level", [.ofValue "--", .ofValue "NewFeature", .ofValue "low"], .null⟩

/-- The members of that enum by value. -/
def featuredMembers : List Member :=
  [.ofValue "--", (Member.ofValue "NewFeature").withIdentifier (some "NewFeature"),
    (Member.ofValue "low").withIdentifier (some "Low")]

theorem warnings_of_featured_level :
    ∃ g code warnings register j, Generator.ofConfig Python.backend .standard none = .ok g ∧
      (g.generate [featuredLevel]).run [] #[] = ((.ok code, register), j) ∧
      g.validate [featuredLevel] = .ok warnings ∧
      catchAllOnly "Level" "--" ∈ warnings ∧ placeholderTaken "Level" "NewFeature2" ∈ warnings ∧
      ∃ body c, Yields (g.plan.buildContext featuredLevel) c ∧
        Foretold g.plan warnings featuredLevel c body := by
  have hvalues : ∀ m ∈ featuredLevel.members, ∃ value, m = .ofValue value := by
    simp only [featuredLevel, List.forall_mem_cons]
    exact ⟨⟨_, rfl⟩, ⟨_, rfl⟩, ⟨_, rfl⟩, List.forall_mem_nil _⟩
  have hletter : ∃ m ∈ featuredLevel.members, m.hasLetter = true :=
    ⟨.ofValue "low", by simp [featuredLevel], rfl⟩
  have hsorted : sortMembers featuredLevel.members = featuredLevel.members :=
    sortMembers_of_pairwise (by decide)
  obtain ⟨g, hg, hmembers, hplaceholder⟩ : ∃ g,
      Generator.ofConfig Python.backend .standard none = .ok g ∧
      g.plan.namedMembers featuredLevel = .ok featuredMembers ∧
      "NewFeature2".toList =
        g.plan.policy.placeholder g.plan.settings.variantCase featuredMembers := by
    refine ⟨_, rfl, ?_, by decide +kernel⟩
    rw [Plan.namedMembers, deriveMembers, hsorted]
    rfl
  obtain ⟨hb, hp⟩ := ofConfig_ok hg
  have hnative : g.backend.IsNative := .inr hb
  have hv : g.plan.vocabulary.EndsInLetters := hp.vocabulary ▸ endsInLetters_native (.inr rfl)
  have hemittable := Python.emittable_of_isPlain hp Config.canWrite_standard
    (Definition.isPlain_of_values hvalues rfl) hletter
  obtain ⟨code, register, j, hrun⟩ := (ready_python hg presentable_standard
    (List.forall_mem_singleton.mpr hemittable)).generate [] #[]
  have hnames : ([featuredLevel].map (·.name)).Nodup := List.nodup_singleton _
  obtain ⟨hvalid, hforetold⟩ := validation_predicts_code (.inr rfl) hg hnames
    (List.forall_mem_singleton.mpr (by decide)) hrun
  obtain ⟨warnings, hvalid⟩ := hvalid ⟨_, rfl⟩
  obtain ⟨-, bodies, -, -, hbodies⟩ := hforetold warnings hvalid
  obtain ⟨body, -, hbody⟩ := exists_of_forall₂ hbodies featuredLevel (List.mem_singleton_self _)
  refine ⟨g, code, warnings, register, j, hg, hrun, hvalid, ?_, ?_, body, hbody⟩
  · refine (mem_validate hnative (by decide) (fun _ _ _ _ => catchAllOnly_mem_enumWarnings)
      hvalid).mpr ⟨featuredLevel, List.mem_singleton_self _, rfl, _, hmembers, ?_⟩
    exact ⟨_, List.mem_cons_self, rfl, rfl⟩
  · exact (mem_validate hnative (by decide) (fun _ _ _ _ => placeholderTaken_mem_enumWarnings hv)
      hvalid).mpr ⟨featuredLevel, List.mem_singleton_self _, rfl, _, hmembers, hplaceholder,
        by decide⟩

end Generator

end CatchAll
