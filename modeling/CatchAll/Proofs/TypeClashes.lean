import CatchAll.Proofs.Target.PythonRuns
import CatchAll.Proofs.Target.Sharing

/-!
# Types that are declared twice

A type name that several enums come to share is reported each time it is taken
again. The type of the wrapper is not among the names that are compared, so an
enum whose type is named like the wrapper goes unreported unless another enum has
that name too.
-/

set_option autoImplicit false

namespace CatchAll.Generator

open scoped Text
open Schema Naming Target Outcome

/-! ## Reports -/

/-- A warning that says of what goes before that it has the type named. -/
def Reports (warning typeName : Text) : Prop :=
  " both map to type ".toList ++ typeName <:+ warning

/-- Some warning reports that a type name is taken more than once. -/
def Reported (warnings : List Text) (typeName : Text) : Prop :=
  ∃ warning ∈ warnings, Reports warning typeName

theorem reported_append {warnings others : List Text} {typeName : Text} :
    Reported (warnings ++ others) typeName ↔
      Reported warnings typeName ∨ Reported others typeName := by
  simp only [Reported, List.mem_append, or_and_right, exists_or]

/-- The name at the end of a text. -/
def lastName (t : Text) : Text := (t.reverse.takeWhile isNameChar).reverse

/-- What stands before the name at the end of a text, the last characters first. -/
def beforeName (t : Text) : Text := t.reverse.dropWhile isNameChar

theorem name_at_end (front : Text) {name : Text} (h : ∀ c ∈ name, isNameChar c = true) :
    lastName (front ++ ' ' :: name) = name ∧
      beforeName (front ++ ' ' :: name) = ' ' :: front.reverse := by
  have hname : ∀ c ∈ name.reverse, isNameChar c = true := fun c hc =>
    h c (List.mem_reverse.mp hc)
  have hblank : isNameChar ' ' = false := by decide
  have hsplit : (front ++ ' ' :: name).reverse = name.reverse ++ ' ' :: front.reverse := by simp
  constructor
  · rw [lastName, hsplit, List.takeWhile_append_of_pos hname,
      List.takeWhile_cons_of_neg (by simp [hblank]), List.append_nil, List.reverse_reverse]
  · rw [beforeName, hsplit, List.dropWhile_append_of_pos hname,
      List.dropWhile_cons_of_neg (by simp [hblank])]

theorem Reports.ends {warning typeName : Text} (h : Reports warning typeName)
    (hname : IsName typeName) :
    lastName warning = typeName ∧ (beforeName warning).take 3 = [' ', 'e', 'p'] := by
  obtain ⟨front, rfl⟩ := h
  have hsplit : front ++ (" both map to type ".toList ++ typeName) =
      (front ++ " both map to type".toList) ++ ' ' :: typeName := by simp
  obtain ⟨hlast, hbefore⟩ := name_at_end (front ++ " both map to type".toList) hname.chars
  rw [hsplit, hlast, hbefore]
  exact ⟨rfl, by simp⟩

/-- The warning that two enums have one type. -/
def clash (first second typeName : Text) : Text :=
  "Enums '" ++ first ++ "' and '" ++ second ++ "' both map to type " ++ typeName

theorem reports_clash (first second typeName : Text) :
    Reports (clash first second typeName) typeName := by
  have hmark : "' both map to type ".toList = "'".toList ++ " both map to type ".toList := by
    decide +kernel
  have hsplit : clash first second typeName =
      ("Enums '" ++ first ++ "' and '" ++ second ++ "'".toList) ++
        (" both map to type ".toList ++ typeName) := by
    unfold clash
    rw [hmark]
    simp only [List.append_assoc]
  exact hsplit ▸ List.suffix_append _ _

theorem reports_clash_iff {first second typeName t : Text} (hname : IsName typeName)
    (ht : IsName t) : Reports (clash first second typeName) t ↔ typeName = t := by
  constructor
  · intro h
    rw [← (h.ends ht).1, ((reports_clash first second typeName).ends hname).1]
  · rintro rfl
    exact reports_clash first second typeName

/-! ## Other warnings -/

theorem not_reports_renamed {name typeName t : Text} (hname : IsName typeName) (ht : IsName t) :
    ¬ Reports ("Enum '" ++ name ++ "' renamed to " ++ typeName) t := by
  intro h
  have hbefore := (h.ends ht).2
  have hsplit : "Enum '" ++ name ++ "' renamed to " ++ typeName =
      ("Enum '" ++ name ++ "' renamed to".toList) ++ ' ' :: typeName := by simp
  rw [hsplit, (name_at_end _ hname.chars).2] at hbefore
  simp at hbefore

/-- A text whose end tells that it says something else. -/
theorem not_reports_of_ending (front : Text) {ending t : Text} (ht : IsName t)
    (hend : 3 ≤ (beforeName ending).length ∧ (beforeName ending).take 3 ≠ [' ', 'e', 'p']) :
    ¬ Reports (front ++ ending) t := by
  intro h
  have hne : (beforeName ending).isEmpty = false := by
    cases hbefore : beforeName ending with
    | nil => simp [hbefore] at hend
    | cons c rest => rfl
  have hsplit : beforeName (front ++ ending) = beforeName ending ++ front.reverse := by
    rw [beforeName, List.reverse_append, List.dropWhile_append]
    exact if_neg (by rw [← beforeName, hne]; exact Bool.false_ne_true)
  have hbefore := (h.ends ht).2
  rw [hsplit, List.take_append_of_le_length hend.1] at hbefore
  exact hend.2 hbefore

/-- A text with a mark at its end does not end in a name. -/
theorem not_reports_of_mark (front : Text) {mark : Char} {t : Text} (ht : IsName t)
    (hmark : isNameChar mark = false) : ¬ Reports (front ++ [mark]) t := by
  intro h
  have hlast : lastName (front ++ [mark]) = [] := by simp [lastName, hmark]
  exact ht.ne_nil ((h.ends ht).1.symm.trans hlast)

theorem not_reports_member {name t warning : Text} {m : Member} (ht : IsName t)
    (hmem : warning ∈ memberWarnings name m) : ¬ Reports warning t := by
  simp only [memberWarnings, List.mem_append, List.mem_ite_nil_right, List.mem_singleton] at hmem
  rcases hmem with ⟨-, rfl⟩ | ⟨-, rfl⟩
  · exact not_reports_of_ending _ ht (by decide +kernel)
  · exact not_reports_of_ending _ ht (by decide +kernel)

theorem isNameChar_quoteMark (t : Text) : isNameChar (Text.quoteMark t) = false := by
  rw [Text.quoteMark]
  split <;> decide

theorem not_reports_placeholder {name placeholder t warning : Text} (ht : IsName t)
    (hmem : warning ∈ placeholderWarnings name placeholder) : ¬ Reports warning t := by
  rw [placeholderWarnings] at hmem
  split at hmem
  · cases hmem
  · obtain rfl := List.mem_singleton.mp hmem
    rw [Text.quoted, ← List.append_assoc]
    exact not_reports_of_mark _ ht (isNameChar_quoteMark placeholder)

theorem not_reports_fault {t : Text} (ht : IsName t) (f : Rust.ModuleNameFault) :
    ¬ Reports ("Module name: " ++ f.message) t := by
  cases f with
  | empty => exact not_reports_of_ending _ ht (by decide +kernel)
  | notAnIdentifier name =>
    unfold Rust.ModuleNameFault.message
    rw [← List.append_assoc]
    exact not_reports_of_ending _ ht (by decide +kernel)
  | notSmallLetters => exact not_reports_of_ending _ ht (by decide +kernel)
  | keyword name =>
    unfold Rust.ModuleNameFault.message
    rw [← List.append_assoc]
    exact not_reports_of_ending _ ht (by decide +kernel)

theorem rust_moduleWarnings_ok {p : Plan} {warnings : List Text}
    (h : Rust.backend.moduleWarnings p = .ok warnings) :
    ∃ name, warnings =
      (Rust.moduleNameFaults name).map fun f => "Module name: ".toList ++ f.message := by
  simp only [Rust.backend, Rust.moduleWarnings] at h
  split at h
  · split at h
    · exact ⟨_, (Except.ok.inj h).symm⟩
    · cases h
  · exact ⟨_, (Except.ok.inj h).symm⟩

theorem not_reports_module {b : Backend} (hb : b.IsNative) {p : Plan} {warnings : List Text}
    (h : b.moduleWarnings p = .ok warnings) {t warning : Text} (ht : IsName t)
    (hmem : warning ∈ warnings) : ¬ Reports warning t := by
  rcases hb with rfl | rfl
  · obtain ⟨name, rfl⟩ := rust_moduleWarnings_ok h
    obtain ⟨f, -, rfl⟩ := List.mem_map.mp hmem
    exact not_reports_fault ht f
  · simp only [Python.backend, Python.moduleWarnings] at h
    split at h
    · split at h
      · obtain rfl := Except.ok.inj h
        cases hmem
      · obtain rfl := Except.ok.inj h
        obtain rfl := List.mem_singleton.mp hmem
        exact not_reports_of_ending _ ht (by decide +kernel)
    · cases h

/-! ## Enums that share a type -/

theorem lastWith_eq_none {before : List (Text × Text)} {typeName : Text} :
    lastWith before typeName = none ↔ typeName ∉ before.map Prod.fst := by
  rw [lastWith, Option.map_eq_none_iff, List.find?_eq_none]
  simp only [List.mem_reverse, beq_iff_eq, List.mem_map, not_exists, not_and]

theorem reported_nameWarnings {before : List (Text × Text)} {typeName name t : Text}
    (hname : IsName typeName) (ht : IsName t) :
    Reported (nameWarnings before typeName name) t ↔
      typeName = t ∧ t ∈ before.map Prod.fst := by
  have hrenamed : ∀ warning ∈ (if typeName = name then []
      else ["Enum '" ++ name ++ "' renamed to " ++ typeName]), ¬ Reports warning t := by
    intro warning hmem
    simp only [List.mem_ite_nil_left, List.mem_singleton] at hmem
    rw [hmem.2]
    exact not_reports_renamed hname ht
  constructor
  · rintro ⟨warning, hmem, hreports⟩
    rcases List.mem_append.mp hmem with hmem | hmem
    · cases hlast : lastWith before typeName with
      | none =>
        rw [hlast] at hmem
        cases hmem
      | some other =>
        rw [hlast] at hmem
        obtain rfl : warning = clash other name typeName := List.mem_singleton.mp hmem
        obtain rfl := (reports_clash_iff hname ht).mp hreports
        refine ⟨rfl, ?_⟩
        by_contra hnew
        rw [lastWith_eq_none.mpr hnew] at hlast
        cases hlast
    · exact absurd hreports (hrenamed warning hmem)
  · rintro ⟨rfl, hmem⟩
    obtain ⟨other, hlast⟩ :=
      Option.ne_none_iff_exists'.mp fun hnone => lastWith_eq_none.mp hnone hmem
    refine ⟨clash other name typeName, List.mem_append_left _ ?_, reports_clash _ _ _⟩
    rw [hlast]
    exact List.mem_singleton.mpr rfl

variable {p : Plan} {t : Text}

theorem reported_enumWarnings (hv : p.vocabulary.EndsInLetters) (ht : IsName t)
    {before : List (Text × Text)} {d : Definition} {warnings : List Text}
    (h : enumWarnings p before d = .ok warnings) :
    Reported warnings t ↔ p.typeName d.name = t ∧ t ∈ before.map Prod.fst := by
  obtain ⟨members, -, hdone⟩ := bind_eq_ok.mp h
  have hmembers : ¬ Reported (members.flatMap (memberWarnings d.name)) t := by
    rintro ⟨warning, hmem, hreports⟩
    obtain ⟨m, -, hmem⟩ := List.mem_flatMap.mp hmem
    exact not_reports_member ht hmem hreports
  have hplaceholder : ¬ Reported (placeholderWarnings d.name
      (p.policy.placeholder p.settings.variantCase members)) t :=
    fun ⟨_, hmem, hreports⟩ => not_reports_placeholder ht hmem hreports
  rw [← Except.ok.inj hdone, reported_append, reported_append, or_iff_left hplaceholder,
    or_iff_left hmembers]
  exact reported_nameWarnings (isName_nameOf hv d.name p.settings.typeCase) ht

/-- The type names of enums, one for each. -/
def typeNames (p : Plan) (enums : List Definition) : List Text :=
  enums.map fun d => p.typeName d.name

/-- The run over the enums: a type name is reported when an enum takes it that comes after
another with that name. -/
theorem reported_enumsWarnings (hv : p.vocabulary.EndsInLetters) (ht : IsName t)
    {before : List (Text × Text)} {enums : List Definition} {warnings : List Text}
    (h : enumsWarnings p before enums = .ok warnings) :
    Reported warnings t ↔ 0 < (typeNames p enums).count t ∧
      1 < (before.map Prod.fst).count t + (typeNames p enums).count t := by
  induction enums generalizing before warnings with
  | nil =>
    obtain rfl : [] = warnings := Except.ok.inj h
    simp [Reported, typeNames]
  | cons d enums ih =>
    obtain ⟨here, hhere, h⟩ := bind_eq_ok.mp h
    obtain ⟨rest, hrest, hdone⟩ := bind_eq_ok.mp h
    rw [← Except.ok.inj hdone, reported_append, reported_enumWarnings hv ht hhere, ih hrest]
    have hcount : (typeNames p (d :: enums)).count t =
        [p.typeName d.name].count t + (typeNames p enums).count t := by
      rw [← List.count_append]
      rfl
    have hprior : ((before ++ [(p.typeName d.name, d.name)]).map Prod.fst).count t =
        (before.map Prod.fst).count t + [p.typeName d.name].count t := by
      rw [List.map_append, List.count_append]
      rfl
    rw [hcount, hprior, ← List.count_pos_iff (l := before.map Prod.fst)]
    by_cases hsame : p.typeName d.name = t
    · simp only [hsame, true_and, List.count_singleton_self]
      omega
    · have hnone : [p.typeName d.name].count t = 0 :=
        List.count_eq_zero.mpr fun hmem => hsame (List.mem_singleton.mp hmem).symm
      simp only [hsame, false_and, false_or, hnone]
      omega

theorem reported_validate {g : Generator} (hb : g.backend.IsNative)
    (hv : g.plan.vocabulary.EndsInLetters) (ht : IsName t) {enums : List Definition}
    {warnings : List Text} (h : g.validate enums = .ok warnings) :
    Reported warnings t ↔ 1 < (typeNames g.plan enums).count t := by
  obtain ⟨found, hfound, h⟩ := bind_eq_ok.mp h
  obtain ⟨others, hothers, hdone⟩ := bind_eq_ok.mp h
  have hmodule : ¬ Reported others t :=
    fun ⟨_, hmem, hreports⟩ => not_reports_module hb hothers ht hmem hreports
  rw [← Except.ok.inj hdone, reported_append, or_iff_left hmodule,
    reported_enumsWarnings hv ht hfound, List.map_nil, List.count_nil]
  omega

/-! ## Main result -/

/-- The names of the types that a module declares: those of its enums, and those that it shares. -/
def declared (g : Generator) (enums : List Definition) (register : Register) : List Text :=
  typeNames g.plan enums ++ (register.filter (·.module = g.module.shown)).map (·.name)

theorem isName_wrapperName : IsName wrapperName where
  chars := List.all_eq_true.mp (by decide : wrapperName.all isNameChar = true)
  start := by
    intro c hc
    obtain rfl := Option.some.inj hc
    decide
  guarded := by
    intro rest h
    cases h
  substance := List.any_eq_true.mp (by decide : wrapperName.any Char.isAlphanum = true)

theorem endsInLetters_native {b : Backend} (hb : b.IsNative) : b.vocabulary.EndsInLetters := by
  rcases hb with rfl | rfl
  · exact endsInLetters_rust
  · exact (by decide : Python.vocabulary.EndsInLetters)

theorem declared_eq {g : Generator} {enums : List Definition} {register : Register}
    (h : Shares g.module.shown enums register) :
    g.declared enums register =
      typeNames g.plan enums ++ (if enums = [] then [] else [wrapperName]) := by
  rw [Shares] at h
  rw [declared]
  split
  · rw [if_pos ‹_›] at h
    rw [h]
    rfl
  · rw [if_neg ‹_›] at h
    obtain ⟨source, rfl⟩ := h
    simp

theorem isName_declared {g : Generator} (hb : g.backend.IsNative) {config : Config}
    (hp : g.backend.Plans config g.plan) {enums : List Definition} {register : Register}
    (h : Shares g.module.shown enums register) {t : Text} (ht : t ∈ g.declared enums register) :
    IsName t := by
  rw [declared_eq h, List.mem_append] at ht
  rcases ht with ht | ht
  · obtain ⟨d, -, rfl⟩ := List.mem_map.mp ht
    exact isName_nameOf (hp.vocabulary ▸ endsInLetters_native hb) d.name _
  · split at ht
    · cases ht
    · obtain rfl := List.mem_singleton.mp ht
      exact isName_wrapperName

variable {b : Backend} {config : Config} {g : Generator} {enums : List Definition}
  {register register' : Register} {j j' : Journal} {code : Text} {warnings : List Text}
  {metadata : Metadata}

/-- What a run declares are the types of its enums and, if there is an enum, the wrapper. All
that is declared more than once is reported, unless exactly one enum has a type that is named
like the wrapper. -/
theorem clashes_reported_iff (hb : b.IsNative) (hg : Generator.ofConfig b config none = .ok g)
    (hrun : ((g.run enums).run register).run j =
      ((.success code warnings metadata, register'), j')) :
    g.declared enums register' =
        typeNames g.plan enums ++ (if enums = [] then [] else [wrapperName]) ∧
      ((∀ t, 1 < (g.declared enums register').count t → Reported warnings t) ↔
        (typeNames g.plan enums).count wrapperName ≠ 1) := by
  obtain ⟨rfl, hp⟩ := Generator.ofConfig_ok hg
  have hv : g.plan.vocabulary.EndsInLetters := hp.vocabulary ▸ endsInLetters_native hb
  obtain ⟨hvalid, hshares⟩ := run_success hb hp hrun
  have hdeclared := declared_eq hshares
  refine ⟨hdeclared, ?_, ?_⟩
  · intro hall hone
    have hsome : enums ≠ [] := by
      rintro rfl
      cases hone
    have htwice : 1 < (g.declared enums register').count wrapperName := by
      rw [hdeclared, if_neg hsome, List.count_append, hone, List.count_singleton_self]
      decide
    have hcount := (reported_validate hb hv isName_wrapperName hvalid).mp (hall _ htwice)
    omega
  · intro hwrapper t ht
    have hmem : t ∈ g.declared enums register' := List.count_pos_iff.mp (by omega)
    rw [reported_validate hb hv (isName_declared hb hp hshares hmem) hvalid]
    -- the wrapper adds one to the count of its own name only
    rw [hdeclared, List.count_append] at ht
    by_cases hsame : t = wrapperName
    · subst hsame
      have hone : (if enums = [] then [] else [wrapperName]).count wrapperName ≤ 1 := by
        split <;> decide
      omega
    · have hnone : (if enums = [] then [] else [wrapperName]).count t = 0 := by
        rw [List.count_eq_zero]
        split
        · exact List.not_mem_nil
        · exact fun hmem => hsame (List.mem_singleton.mp hmem)
      omega

/-- An enum of one value without documentation. -/
def oneValued (name value : Text) : Definition := ⟨name, [.ofValue value], .null⟩

theorem emittable_oneValued (hg : Generator.ofConfig Python.backend .standard none = .ok g)
    (name : Text) {value : Text} (h : ∃ c ∈ value, c.isAlphanum = true) :
    Python.Emittable g.plan (oneValued name value) := by
  refine Python.emittable_of_values hg ?_ ⟨.ofValue value, List.mem_singleton.mpr rfl, h⟩ rfl
  exact fun m hm => ⟨value, List.mem_singleton.mp hm⟩

/-- Names that differ in what is no letter become one type. -/
theorem same_types_reported :
    ∃ g code warnings metadata register j,
      Generator.ofConfig Python.backend .standard none = .ok g ∧
      ((g.run [oneValued "a b" "x", oneValued "a-b" "y"]).run []).run #[] =
        ((.success code warnings metadata, register), j) ∧
      Reported warnings "AB" := by
  obtain ⟨g, hg, hnames⟩ : ∃ g, Generator.ofConfig Python.backend .standard none = .ok g ∧
      typeNames g.plan [oneValued "a b" "x", oneValued "a-b" "y"] = ["AB".toList, "AB".toList] :=
    ⟨_, rfl, by decide⟩
  have hemittable :
      ∀ d ∈ [oneValued "a b" "x", oneValued "a-b" "y"], Python.Emittable g.plan d := by
    simp only [List.forall_mem_cons]
    exact ⟨emittable_oneValued hg _ ⟨'x', by decide, rfl⟩,
      emittable_oneValued hg _ ⟨'y', by decide, rfl⟩, by simp⟩
  obtain ⟨code, warnings, metadata, register, j, hrun⟩ :=
    run_succeeds hg presentable_standard hemittable [] #[]
  obtain ⟨hdeclared, hreported⟩ := clashes_reported_iff (Or.inr rfl) hg hrun
  rw [hnames] at hdeclared hreported
  refine ⟨g, code, warnings, metadata, register, j, hg, hrun, ?_⟩
  refine hreported.mpr (by decide) _ ?_
  rw [hdeclared]
  decide

/-- The class of the enum and the wrapper are declared under one name, and nothing is said. -/
theorem wrapper_clash_unreported :
    ∃ g code warnings metadata register j,
      Generator.ofConfig Python.backend .standard none = .ok g ∧
      ((g.run [oneValued "UnknownVariantValue" "a"]).run []).run #[] =
        ((.success code warnings metadata, register), j) ∧
      1 < (g.declared [oneValued "UnknownVariantValue" "a"] register).count wrapperName ∧
      ¬ Reported warnings wrapperName := by
  obtain ⟨g, hg, hnames⟩ : ∃ g, Generator.ofConfig Python.backend .standard none = .ok g ∧
      typeNames g.plan [oneValued "UnknownVariantValue" "a"] = [wrapperName] := ⟨_, rfl, by decide⟩
  obtain ⟨hb, hp⟩ := Generator.ofConfig_ok hg
  have hnative : g.backend.IsNative := Or.inr hb
  have hv : g.plan.vocabulary.EndsInLetters := hp.vocabulary ▸ endsInLetters_native (Or.inr rfl)
  have hemittable : ∀ d ∈ [oneValued "UnknownVariantValue" "a"], Python.Emittable g.plan d := by
    simp only [List.forall_mem_cons]
    exact ⟨emittable_oneValued hg _ ⟨'a', by decide, rfl⟩, by simp⟩
  obtain ⟨code, warnings, metadata, register, j, hrun⟩ :=
    run_succeeds hg presentable_standard hemittable [] #[]
  obtain ⟨hvalid, hshares⟩ := run_success hnative (hb ▸ hp) hrun
  refine ⟨g, code, warnings, metadata, register, j, hg, hrun, ?_, ?_⟩
  · rw [declared_eq hshares, hnames]
    decide
  · rw [reported_validate hnative hv isName_wrapperName hvalid, hnames]
    decide

end CatchAll.Generator
