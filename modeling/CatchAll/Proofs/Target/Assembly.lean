import CatchAll.Proofs.Target.PlainDefinitions
import CatchAll.Proofs.Target.PythonVariants
import CatchAll.Proofs.Target.RustVariants
import CatchAll.Proofs.Target.Sharing
import CatchAll.Proofs.Target.Tidying

/-!
# Code that is kept as it is

Between the policy, which writes the conversion of an enum, and the module there
are a template, a margin and the tidying of lines. None of them touches a line that
has a value in it: the conversion stands in the module line by line, and so do the
arms or the constants and the list of all values, with the literals that they were
written with.
-/

set_option autoImplicit false

namespace CatchAll

open scoped Text
open Naming Schema Target Outcome Emission
open Text (Tight tight_concat tight_of_getLast)

theorem Text.lineFeed_not_mem_of_isIdentifier {name : Text} (h : isIdentifier name = true) :
    '\n' ∉ name := by
  have hstart : isIdentifierStart '\n' = false := by decide +kernel
  have hpart : isIdentifierPart '\n' = false := by decide +kernel
  cases name with
  | nil => exact List.not_mem_nil
  | cons c rest =>
    obtain ⟨hc, hrest⟩ := Bool.and_eq_true_iff.mp h
    intro hmem
    rcases List.mem_cons.mp hmem with rfl | hmem
    · rw [hstart] at hc
      cases hc
    · have hfeed := List.all_eq_true.mp hrest '\n' hmem
      rw [hpart] at hfeed
      cases hfeed

theorem Text.tight_of_isName {name : Text} (h : IsName name) : Tight name := by
  obtain ⟨init, c, rfl⟩ : ∃ init c, name = init ++ [c] :=
    ⟨_, _, (List.dropLast_append_getLast h.ne_nil).symm⟩
  exact tight_concat init (Python.isBlank_of_isNameChar (h.chars c (by simp)))

/-! ## Rust -/

namespace Target.Rust

/-- What a module has of a context: the lines of the conversion, the arms of the method that
shows a variant and the list of all values. -/
structure Keeps (p : Plan) (c : Context) (code : Text) : Prop where
  conversion : ∃ fragment, Yields (p.policy.fromImpl p.surroundings c) fragment ∧
    Text.lines fragment <:+: Text.lines code
  arms : (shownArms c).map (armMargin ++ ·) <:+: Text.lines code
  values : valuesLine c ∈ Text.lines code

variable {config : Config} {p : Plan} {d : Definition} {c : Context}

theorem lineFeed_not_mem_wrapperPath {name path : Text} (hname : '\n' ∉ name)
    (h : wrapperPath (.str name) = .ok path) : '\n' ∉ path := by
  have hqualified : ∀ module : Text, '\n' ∉ module →
      '\n' ∉ TypeReference.qualified ⟨wrapperName, module⟩ "::" "crate" := by
    intro module hmodule
    refine Text.lineFeed_not_mem_joinWith (by decide) fun piece hpiece => ?_
    obtain ⟨hpiece, -⟩ := List.mem_filter.mp hpiece
    simp only [List.mem_cons, List.not_mem_nil, or_false] at hpiece
    rcases hpiece with rfl | rfl | rfl
    · decide
    · exact hmodule
    · decide
  rw [wrapperPath] at h
  split at h
  · obtain rfl := Except.ok.inj h
    exact hqualified name hname
  · obtain rfl := Except.ok.inj h
    exact hqualified [] List.not_mem_nil

theorem tight_inMatch {line : Text} (h : Tight line) : Tight (inMatch line) := by
  rw [inMatch_of_shown h.shown]
  exact h.append _

/-- The conversion has no line that tidying could change. -/
theorem tight_fromImplText (layout : Layout) {path : Text} (hT : '\n' ∉ c.typeName)
    (harms : ∀ arm ∈ c.arms, '\n' ∉ arm.1) (hpath : '\n' ∉ path) :
    ∀ l ∈ Text.lines (fromImplText layout c path), Tight l := by
  have hcatchAll : Text.lines (catchAllArm c.typeName path) = [catchAllArm c.typeName path] := by
    refine Text.lines_of_single ?_
    unfold catchAllArm catchAllName
    simp [hT, hpath]
  have hopening : ∀ l ∈ opening c.typeName, Tight l := by
    have hbrace : ∀ before : Text, Tight (before ++ " \x7b") := fun before =>
      (tight_concat " " (c := '\x7b') (by decide)).append before
    simp only [opening, List.forall_mem_cons]
    exact ⟨hbrace _, hbrace "    fn from(s: &str) -> Self", hbrace "        match s",
      List.forall_mem_nil _⟩
  have hclosing : ∀ l ∈ closing, l.getLast? = some '\x7d' := by decide
  have hcomma : ∀ before : Text, Tight (before ++ ",") := fun before =>
    tight_concat before (c := ',') (by decide)
  have hother : Tight (catchAllArm c.typeName path) :=
    (tight_of_getLast (c := ',') (by decide) (by decide)).append _
  rw [lines_fromImplText layout hT harms, hcatchAll]
  simp only [List.forall_mem_append, List.forall_mem_map, List.forall_mem_singleton]
  exact ⟨hopening, fun arm _ => tight_inMatch (hcomma _), tight_inMatch hother,
    fun l hl => tight_of_getLast (hclosing l hl) (by decide)⟩

theorem tight_shownArms (c : Context) : ∀ l ∈ (shownArms c).map (armMargin ++ ·), Tight l := by
  have hcomma : ∀ before : Text, Tight (before ++ ",") := fun before =>
    tight_concat before (c := ',') (by decide)
  have hlast : Tight (asStrArmText c) := by
    unfold asStrArmText
    exact (tight_of_getLast (c := ',') (by decide) (by decide)).append _
  simp only [shownArms, List.forall_mem_map, List.forall_mem_append, List.forall_mem_singleton]
  exact ⟨fun arm _ => (hcomma _).append armMargin, hlast.append armMargin⟩

theorem tight_valuesLine (c : Context) : Tight (valuesLine c) :=
  (tight_concat _ (c := ']') (by decide)).append _

theorem Frame.conversion_within (frame : Frame) (parts : Parts) (c : Context) :
    conversionLines parts c ++ [bodyEnd] <:+: frame.lines parts c := by
  refine ⟨frame.above c ++ enumHeader frame.visibility c.typeName ::
    (declaredLines parts ++ gapLines c),
    (parsingLines parts c).tail ++ implHeader c.typeName :: methodLines c, ?_⟩
  rw [Frame.lines, parsingLines]
  simp only [List.append_assoc, List.cons_append, List.tail_cons, List.nil_append]

theorem Frame.methods_within (frame : Frame) (parts : Parts) (c : Context) :
    methodLines c <:+: frame.lines parts c := by
  refine List.IsSuffix.isInfix ⟨frame.above c ++ enumHeader frame.visibility c.typeName ::
    (declaredLines parts ++ (gapLines c ++ (conversionLines parts c ++
      (parsingLines parts c ++ [implHeader c.typeName])))), ?_⟩
  rw [Frame.lines]
  simp only [List.append_assoc, List.cons_append, List.nil_append]

theorem shownArms_within (c : Context) :
    (shownArms c).map (armMargin ++ ·) <:+: methodLines c :=
  ⟨asStrOpening, valuesOpening ++ valuesLine c :: traitLines c.typeName, List.append_assoc ..⟩

theorem valuesLine_within (c : Context) : [valuesLine c] <:+: methodLines c := by
  refine ⟨asStrOpening ++ ((shownArms c).map (armMargin ++ ·) ++ valuesOpening),
    traitLines c.typeName, ?_⟩
  rw [methodLines]
  simp only [List.append_assoc, List.singleton_append]

/-- The code of an enum has these lines, and a module that keeps tight lines has them as well. -/
theorem keeps_of_single {name body code : Text} {register register' : Register} {j j' : Journal}
    (hp : backend.Plans config p) (hmodule : p.module = .str name) (hname : '\n' ∉ name)
    (h : (single p d).run register j = ((.ok body, register'), j'))
    (hkept : ∀ block, (∀ l ∈ block, Tight l) → block <:+: Text.lines body →
      block <:+: Text.lines code) : ∃ c, c.Of p d ∧ Keeps p c code := by
  obtain ⟨c, hc, parts, implemented, hparts, hpath, himplemented, rfl⟩ := single_ok hp h
  obtain ⟨frame, -, hlines⟩ := lines_code hp hc hparts himplemented
  have hT := lineFeed_not_mem_typeName hp hc
  have harms : ∀ arm ∈ c.arms, '\n' ∉ arm.1 :=
    fun arm harm => lineFeed_not_mem_of_isName (fits_arms hp hc arm harm).isName
  have hfeed := lineFeed_not_mem_wrapperPath hname (hmodule ▸ hpath)
  have hconversion : Text.lines (fromImplText parts.layout c parts.path) =
      conversionLines parts c ++ [bodyEnd] := by
    rw [lines_fromImplText parts.layout hT harms, conversionLines, closing_eq]
    simp only [List.append_assoc]
    rfl
  have hkept' : ∀ block, (∀ l ∈ block, Tight l) → block <:+: frame.lines parts c →
      block <:+: Text.lines code := by rwa [hlines] at hkept
  refine ⟨c, hc, ⟨_, fromImpl_yields_of hp hc hparts.layout hmodule hpath, ?_⟩, ?_, ?_⟩
  · refine hkept' _ (tight_fromImplText parts.layout hT harms hfeed) ?_
    rw [hconversion]
    exact frame.conversion_within parts c
  · exact hkept' _ (tight_shownArms c) ((shownArms_within c).trans (frame.methods_within parts c))
  · refine (hkept' [valuesLine c] ?_ ?_).subset (List.mem_singleton_self _)
    · exact List.forall_mem_singleton.mpr (tight_valuesLine c)
    · exact (valuesLine_within c).trans (frame.methods_within parts c)

end Target.Rust

/-! ## Python -/

namespace Target.Python

/-- What a module has of a context: the conversion one level deeper, the assignments of the
constants and the list of all values. -/
structure Keeps (p : Plan) (c : Context) (code : Text) : Prop where
  conversion : ∃ fragment, Yields (p.policy.fromImpl p.surroundings c) fragment ∧
    (Text.lines fragment).map (List.replicate 4 ' ' ++ ·) <:+: Text.lines code
  constants : c.arms.map (assignment c.typeName) <:+: Text.lines code
  values : valuesMargin ++ (Text.joinWith ", " (c.values.map literal) ++ ",)") ∈ Text.lines code

variable {config : Config} {p : Plan} {d : Definition} {c : Context}

theorem tight_methodBody (unit : Text) (harms : ∀ arm ∈ c.arms, IsName arm.1) :
    ∀ l ∈ methodBody unit c, Tight l := by
  have hcolon : ∀ before : Text, Tight (before ++ ":") := fun before =>
    tight_concat before (c := ':') (by decide)
  have hdocs : Tight (fromStrDocs c.typeName) :=
    (tight_of_getLast (c := '"') (by decide) (by decide)).append _
  have hmatch : Tight (unit ++ "match s:") :=
    (tight_of_getLast (c := ':') (by decide) (by decide)).append _
  have hother : Tight (unit ++ unit ++ "case other:") :=
    (tight_of_getLast (c := ':') (by decide) (by decide)).append _
  have hcatchAll : Tight catchAllReturn := tight_of_getLast (c := ')') (by decide) (by decide)
  simp only [methodBody, caseLines, List.forall_mem_cons, List.forall_mem_append,
    List.forall_mem_flatMap]
  refine ⟨hdocs.append unit, hmatch, fun arm harm => ?_, hother, hcatchAll.append _,
    List.forall_mem_nil _⟩
  exact ⟨(hcolon _).append _, ((Text.tight_of_isName (harms arm harm)).append _).append _,
    List.forall_mem_nil _⟩

theorem tight_assignment (typeName : Text) (arm : Text × Text) :
    Tight (assignment typeName arm) := by
  have hmade : Tight (made typeName arm) := tight_concat _ (c := ')') (by decide)
  exact (hmade.append _).append _

section

variable {f : Filling} {layout : Layout} {code : Text} (src : SourceLines f layout c code)
include src

theorem conversion_within : (("@classmethod" : Text) :: fromStrHeader c.typeName ::
    methodBody layout.unit c).map (List.replicate 4 ' ' ++ ·) <:+: Text.lines code := by
  refine ⟨src.above ++ (documentationLines f.docs ++ declaredLines f) ++ [[]],
    (src.quiet ++ valuesLines f) ++ (c.arms.map (assignment c.typeName) ++ [[]]), ?_⟩
  rw [src.lines]
  simp only [List.map_cons, List.append_assoc, List.cons_append, List.nil_append]
  rfl

/-- The lines from the list of all values on are the last of the class. -/
theorem valuesLines_suffix :
    valuesLines f ++ (c.arms.map (assignment c.typeName) ++ [[]]) <:+ Text.lines code := by
  rw [src.lines, List.append_assoc src.quiet]
  exact (List.suffix_append src.quiet _).trans <| (List.suffix_append _ _).trans <|
    (List.suffix_cons _ _).trans (List.suffix_append _ _)

theorem constants_within : c.arms.map (assignment c.typeName) <:+: Text.lines code := by
  refine List.IsInfix.trans ?_ (valuesLines_suffix src).isInfix
  exact ⟨valuesLines f, [[]], List.append_assoc ..⟩

theorem valuesLine_within : [valuesLine f] <:+: Text.lines code := by
  refine List.IsInfix.trans ?_ (valuesLines_suffix src).isInfix
  exact ⟨(valuesLines f).take 2, objectLines f.typeName ++ (c.arms.map (assignment c.typeName) ++
    [[]]), rfl⟩

end

theorem keeps_of_single {name body code : Text} {register register' : Register} {j j' : Journal}
    (hp : backend.Plans config p) (hmodule : p.module = .str name)
    (h : (single p d).run register j = ((.ok body, register'), j'))
    (hkept : ∀ block, (∀ l ∈ block, Tight l) → block <:+: Text.lines body →
      block <:+: Text.lines code) : ∃ c, c.Of p d ∧ Keeps p c code := by
  obtain ⟨c, f, layout, hc, hmade⟩ := single_made hp h
  obtain ⟨src⟩ := hmade.source
  have harms : ∀ arm ∈ c.arms, IsName arm.1 := fun arm harm => (hmade.fits arm harm).isName
  have hfeed : '\n' ∉ c.typeName := lineFeed_not_mem_of_isName hmade.typeName
  have hconversion := lines_fromImpl hmade.isMargin hfeed fun arm harm =>
    lineFeed_not_mem_of_isName (harms arm harm)
  have hvalues : valuesMargin ++ (Text.joinWith ", " (c.values.map literal) ++ ",)") =
      valuesLine f := by
    rw [valuesLine, hmade.filling.values]
  refine ⟨c, hc, ⟨_, fromImpl_yields hp hc hmade.plans hmodule, ?_⟩, ?_, ?_⟩
  · rw [hconversion]
    refine hkept _ ?_ (conversion_within src)
    simp only [List.forall_mem_map, List.forall_mem_cons]
    have hopening : Tight (fromStrHeader c.typeName) := tight_concat _ (c := ':') (by decide)
    exact ⟨(tight_of_getLast (c := 'd') (by decide) (by decide)).append _, hopening.append _,
      fun l hl => (tight_methodBody layout.unit harms l hl).append _⟩
  · refine hkept _ ?_ (constants_within src)
    exact List.forall_mem_map.mpr fun arm _ => tight_assignment c.typeName arm
  · rw [hvalues]
    refine (hkept [valuesLine f] ?_ (valuesLine_within src)).subset (List.mem_singleton_self _)
    have htight : Tight (Text.joinWith ", " f.values ++ ",)") :=
      (tight_of_getLast (c := ')') (by decide) (by decide)).append _
    exact List.forall_mem_singleton.mpr (htight.append _)

end Target.Python

/-! ## Modules -/

namespace Generator

/-- What a module has of a context in the language of its generator. -/
inductive Keeps (g : Generator) (c : Context) (code : Text) : Prop
  | rust (hlanguage : g.backend = Rust.backend) (kept : Rust.Keeps g.plan c code)
  | python (hlanguage : g.backend = Python.backend) (kept : Python.Keeps g.plan c code)

/-- For every configuration with these line ends and an identifier for a name, and whatever
the values of the enums are: a module has the code that the policy gives for the context of
each enum. -/
theorem assembly_keeps_code {b : Backend} (hb : b.IsNative) {config : Config} {g : Generator}
    (hg : Generator.ofConfig b config none = .ok g) (hending : config.lineEnding = .str ['\n'])
    {name : Text} (hmodule : config.moduleName = .str name)
    (hname : Text.isIdentifier name = true) {enums : List Definition} {code : Text}
    {warnings : List Text} {metadata : Metadata} {register register' : Register} {j j' : Journal}
    (h : ((g.run enums).run register).run j =
      ((.success code warnings metadata, register'), j')) :
    ∀ d ∈ enums, ∃ c, Yields (g.plan.buildContext d) c ∧ g.Keeps c code := by
  intro d hd
  obtain ⟨hbackend, hp⟩ := ofConfig_ok hg
  have hlines : g.plan.config.lineEnding = .str ['\n'] := by rw [hp.config_eq, hending]
  have hplan : g.plan.module = .str name := by rw [Plan.module, hp.config_eq, hmodule]
  obtain ⟨body, _, _, _, _, hsingle, hkept⟩ := tight_lines_kept hlines h hd
  rw [hbackend] at hsingle
  rcases hb with rfl | rfl
  · obtain ⟨c, hc, hkeeps⟩ := Rust.keeps_of_single hp hplan
      (Text.lineFeed_not_mem_of_isIdentifier hname) hsingle hkept
    exact ⟨c, hc.built, .rust hbackend hkeeps⟩
  · obtain ⟨c, hc, hkeeps⟩ := Python.keeps_of_single hp hplan hsingle hkept
    exact ⟨c, hc.built, .python hbackend hkeeps⟩

/-- Values that end in blanks, hold several kinds of line ends or look like templates. -/
def unquietLevel : Definition :=
  ⟨"Level", [.ofValue "low  \n\n\n  \t", .ofValue "\x7b\x7b enum_name \x7d\x7d",
    .ofValue "\x7b% raw %\x7d\r\n", .ofValue ['\u2028', '\x0b', '\u0085'], .ofValue []], .null⟩

theorem unquiet_values_kept :
    (∃ g code, Generator.ofConfig Rust.backend .standard none = .ok g ∧
      ∃ c, Yields (g.plan.buildContext unquietLevel) c ∧ g.Keeps c code) ∧
    ∃ g code, Generator.ofConfig Python.backend .standard none = .ok g ∧
      ∃ c, Yields (g.plan.buildContext unquietLevel) c ∧ g.Keeps c code := by
  have hvalues : ∀ m ∈ unquietLevel.members, ∃ value, m = .ofValue value := by
    simp only [unquietLevel, List.forall_mem_cons]
    exact ⟨⟨_, rfl⟩, ⟨_, rfl⟩, ⟨_, rfl⟩, ⟨_, rfl⟩, ⟨_, rfl⟩, List.forall_mem_nil _⟩
  have hplain : unquietLevel.IsPlain := Definition.isPlain_of_values hvalues rfl
  have hletter : ∃ m ∈ unquietLevel.members, m.hasLetter = true :=
    ⟨_, List.mem_cons_self, by decide⟩
  have hidentifier : Text.isIdentifier "types" = true := by decide +kernel
  constructor
  · obtain ⟨g, hg⟩ : ∃ g, Generator.ofConfig Rust.backend .standard none = .ok g := ⟨_, rfl⟩
    obtain ⟨-, hp⟩ := ofConfig_ok hg
    obtain ⟨code, _, _, _, _, hrun⟩ := (ready_rust hg presentable_standard
      (List.forall_mem_singleton.mpr (Rust.emittable_of_isPlain hp Config.canWrite_standard hplain
        hletter))).run_succeeds [] #[]
    exact ⟨g, code, hg, assembly_keeps_code (.inl rfl) hg rfl rfl hidentifier hrun _
      (List.mem_singleton_self _)⟩
  · obtain ⟨g, hg⟩ : ∃ g, Generator.ofConfig Python.backend .standard none = .ok g := ⟨_, rfl⟩
    obtain ⟨-, hp⟩ := ofConfig_ok hg
    obtain ⟨code, _, _, _, _, hrun⟩ := run_succeeds hg presentable_standard
      (List.forall_mem_singleton.mpr (Python.emittable_of_isPlain hp Config.canWrite_standard
        hplain hletter)) [] #[]
    exact ⟨g, code, hg, assembly_keeps_code (.inr rfl) hg rfl rfl hidentifier hrun _
      (List.mem_singleton_self _)⟩

end Generator

end CatchAll
