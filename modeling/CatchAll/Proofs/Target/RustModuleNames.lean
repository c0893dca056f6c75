import CatchAll.Proofs.Naming.Spelling
import CatchAll.Proofs.Target.RustTypes
import CatchAll.Proofs.Text.SmallLetters
import CatchAll.Proofs.ValidationAgreement

/-!
# Names of Rust modules

The name of a module becomes a segment of the path of the wrapper, as it is given. The
check of the name looks at classes of characters one after the other. Taken together
they leave the names of modules in small letters, and the underscore by itself, which
is a name nowhere: then nothing is said, and the path cannot be read.
-/

set_option autoImplicit false

namespace CatchAll.Target.Rust

open scoped Text
open Naming Schema Outcome Emission

/-! ## Names and paths -/

def isSnakeStart (c : Char) : Bool := c.isLower || c == '_'

def isSnakePart (c : Char) : Bool := isSnakeStart c || c.isDigit

/-- A name of a module: small letters, digits and underscores, but no digit in front and not
the underscore alone, and no keyword. -/
structure IsModuleName (name : Text) : Prop where
  start : name.head?.any isSnakeStart = true
  parts : ∀ c ∈ name, isSnakePart c = true
  named : name ≠ "_"
  free : name ∉ keywords

/-- What stands between the colons of a path. -/
structure IsSegment (t : Text) : Prop where
  start : t.head?.any (fun c => isNameChar c && !c.isDigit) = true
  parts : ∀ c ∈ t, isNameChar c = true
  named : t ≠ "_"
  free : t ∉ keywords

/-- A path from the root of the crate. -/
def IsCratePath (t : Text) : Prop :=
  ∃ segments, segments ≠ [] ∧ (∀ s ∈ segments, IsSegment s) ∧
    t = Text.joinWith "::" ("crate" :: segments)

/-! ## Characters -/

theorem forall_ascii {P : Char → Prop} (h : ∀ n < 128, P (Char.ofNat n)) (c : Char)
    (hc : c.toNat < 128) : P c := by
  have hn := h c.toNat hc
  rwa [Char.ofNat_toNat] at hn

/-- Identifiers have capitals besides, and these are the letters that are no small ones. -/
theorem ascii_classes (c : Char) (hc : c.toNat < 128) :
    (Text.isIdentifierStart c = (isSnakeStart c || c.isUpper)) ∧
    (Text.isIdentifierPart c = (isSnakePart c || c.isUpper)) ∧
    (Text.Casing.IsSmall c ↔ c.isUpper = false) :=
  forall_ascii (P := fun c => (Text.isIdentifierStart c = (isSnakeStart c || c.isUpper)) ∧
    (Text.isIdentifierPart c = (isSnakePart c || c.isUpper)) ∧
    (Text.Casing.IsSmall c ↔ c.isUpper = false)) (by decide +kernel) c hc

theorem isNameChar_of_isSnakePart {c : Char} (h : isSnakePart c = true) : isNameChar c = true := by
  simp only [isSnakePart, isSnakeStart, Bool.or_eq_true] at h
  rcases h with (h | h) | h
  · exact isNameChar_of_isAlphanum (isAlphanum_of_isLower h)
  · simp [isNameChar, h]
  · exact isNameChar_of_isDigit h

theorem ascii_of_isNameChar {c : Char} (h : isNameChar c = true) : c.toNat < 128 := by
  simp only [isNameChar, Bool.or_eq_true, beq_iff_eq] at h
  rcases h with h | rfl
  · exact toNat_of_isAlphanum h
  · decide

/-- No character is a small letter and a capital, or a digit and a capital. -/
theorem not_isUpper_of_isSnakePart {c : Char} (h : isSnakePart c = true) : c.isUpper = false :=
  forall_ascii (P := fun c => isSnakePart c = true → c.isUpper = false) (by decide) c
    (ascii_of_isNameChar (isNameChar_of_isSnakePart h)) h

theorem not_isDigit_of_isSnakeStart {c : Char} (h : isSnakeStart c = true) : c.isDigit = false := by
  have hpart : isSnakePart c = true := by simp [isSnakePart, h]
  exact forall_ascii (P := fun c => isSnakeStart c = true → c.isDigit = false) (by decide) c
    (ascii_of_isNameChar (isNameChar_of_isSnakePart hpart)) h

theorem lower_eq_self_iff {t : Text} : Text.lower t = t ↔ ∀ c ∈ t, Text.Casing.IsSmall c := by
  constructor
  · intro h
    rw [← h]
    exact Text.Casing.lowerFrom_isSmall [] t
  · exact fun h => Text.Casing.lowerFrom_of_isSmall h []

/-! ## The check -/

theorem moduleNameFaults_eq_nil {name : Text} : moduleNameFaults name = [] ↔
    Text.isIdentifier name = true ∧ Text.isAscii name = true ∧ Text.lower name = name ∧
      name ∉ keywords := by
  rw [moduleNameFaults]
  by_cases hempty : name = []
  · subst hempty
    simp [Text.isIdentifier]
  · have hsmall : name = Text.lower name ↔ Text.lower name = name := eq_comm
    rw [if_neg hempty, List.append_eq_nil_iff, List.append_eq_nil_iff, ite_eq_left_iff,
      ite_eq_left_iff, ite_eq_right_iff, Bool.and_eq_true, hsmall]
    simp only [imp_false, Decidable.not_not, List.cons_ne_nil, and_assoc]

/-- The classes that are checked leave small letters, digits and underscores. -/
theorem snake_iff {name : Text} :
    (Text.isIdentifier name = true ∧ Text.isAscii name = true ∧ Text.lower name = name) ↔
      name.head?.any isSnakeStart = true ∧ ∀ c ∈ name, isSnakePart c = true := by
  cases name with
  | nil => simp [Text.isIdentifier]
  | cons c rest =>
    simp only [Text.isIdentifier, Text.isAscii, lower_eq_self_iff, List.all_eq_true,
      Bool.and_eq_true, decide_eq_true_eq, List.head?_cons, Option.any_some]
    constructor
    · rintro ⟨⟨hstart, hparts⟩, hascii, hsmall⟩
      have hsnake {d : Char} (hd : d ∈ c :: rest) {b : Bool}
          (h : (b || d.isUpper) = true) : b = true := by
        rw [((ascii_classes d (hascii d hd)).2.2).mp (hsmall d hd), Bool.or_false] at h
        exact h
      have hfirst := hsnake List.mem_cons_self
        ((ascii_classes c (hascii c List.mem_cons_self)).1 ▸ hstart)
      refine ⟨hfirst, List.forall_mem_cons.mpr ⟨by simp [isSnakePart, hfirst], fun d hd => ?_⟩⟩
      have hmem := List.mem_cons_of_mem c hd
      exact hsnake hmem ((ascii_classes d (hascii d hmem)).2.1 ▸ hparts d hd)
    · rintro ⟨hstart, hparts⟩
      have hascii : ∀ d ∈ c :: rest, d.toNat < 128 :=
        fun d hd => ascii_of_isNameChar (isNameChar_of_isSnakePart (hparts d hd))
      refine ⟨⟨?_, fun d hd => ?_⟩, hascii, fun d hd => ?_⟩
      · rw [(ascii_classes c (hascii c List.mem_cons_self)).1, hstart, Bool.true_or]
      · have hmem := List.mem_cons_of_mem c hd
        rw [(ascii_classes d (hascii d hmem)).2.1, hparts d hmem, Bool.true_or]
      · exact ((ascii_classes d (hascii d hd)).2.2).mpr (not_isUpper_of_isSnakePart (hparts d hd))

theorem moduleNameFaults_eq_nil_iff {name : Text} :
    moduleNameFaults name = [] ↔ IsModuleName name ∨ name = "_" := by
  rw [moduleNameFaults_eq_nil, ← and_assoc, ← and_assoc,
    and_assoc (a := Text.isIdentifier name = true), snake_iff]
  constructor
  · rintro ⟨⟨hstart, hparts⟩, hfree⟩
    by_cases hnamed : name = "_"
    · exact .inr hnamed
    · exact .inl ⟨hstart, hparts, hnamed, hfree⟩
  · rintro (h | rfl)
    · exact ⟨⟨h.start, h.parts⟩, h.free⟩
    · exact ⟨⟨by decide, List.all_eq_true.mp rfl⟩, by decide⟩

/-! ## The path -/

theorem IsModuleName.isSegment {name : Text} (h : IsModuleName name) : IsSegment name where
  start := by
    have hstart := h.start
    cases name with
    | nil => cases hstart
    | cons c rest =>
      have hname := isNameChar_of_isSnakePart (h.parts c List.mem_cons_self)
      have hdigit := not_isDigit_of_isSnakeStart (c := c) hstart
      simp [hname, hdigit]
  parts := fun c hc => isNameChar_of_isSnakePart (h.parts c hc)
  named := h.named
  free := h.free

theorem isSegment_wrapperName : IsSegment wrapperName where
  start := by decide
  parts := List.all_eq_true.mp (by decide : wrapperName.all isNameChar = true)
  named := by decide
  free := by decide +kernel

theorem joinWith_three (separator a b c : Text) :
    Text.joinWith separator [a, b, c] = a ++ separator ++ (b ++ (separator ++ c)) := by
  rw [Text.joinWith_cons_cons, Text.joinWith_cons_cons, Text.joinWith,
    List.intercalate_singleton, List.append_assoc b]

theorem pathOf_eq_join (name : Text) :
    pathOf name = Text.joinWith "::" ["crate", name, wrapperName] :=
  have hroot : "crate::".toList = "crate".toList ++ "::".toList := by decide
  (congrArg (· ++ (name ++ ("::" ++ wrapperName))) hroot).trans (joinWith_three _ _ _ _).symm

theorem isCratePath_of_isModuleName {name : Text} (h : IsModuleName name) :
    IsCratePath (pathOf name) := by
  refine ⟨[name, wrapperName], List.cons_ne_nil _ _, ?_, pathOf_eq_join name⟩
  simp only [List.forall_mem_cons]
  exact ⟨h.isSegment, isSegment_wrapperName, List.forall_mem_nil _⟩

/-- The first segment of a path is what stands before the next colon. -/
theorem not_isCratePath_underscore : ¬ IsCratePath (pathOf "_") := by
  rintro ⟨segments, hne, hsegments, hpath⟩
  obtain ⟨s, rest, rfl⟩ := List.exists_cons_of_ne_nil hne
  obtain ⟨hs, -⟩ := List.forall_mem_cons.mp hsegments
  have hnocolon : ∀ c ∈ s, (c != ':') = true := by
    intro c hc
    have hname := hs.parts c hc
    rw [bne_iff_ne]
    rintro rfl
    exact absurd hname (by decide)
  obtain ⟨behind, hbehind, hjoin⟩ : ∃ behind, (behind.head?.all (· == ':')) = true ∧
      Text.joinWith "::" (s :: rest) = s ++ behind := by
    cases rest with
    | nil => exact ⟨[], rfl, by simp [Text.joinWith]⟩
    | cons u rest =>
      exact ⟨_, rfl, (Text.joinWith_cons_cons _ s u rest).trans (List.append_assoc ..)⟩
  rw [Text.joinWith_cons_cons, hjoin] at hpath
  have hshown : '_' :: ("::" ++ wrapperName) = s ++ behind := List.append_cancel_left hpath
  have hfirst : (s ++ behind).takeWhile (· != ':') = s := by
    rw [List.takeWhile_append_of_pos hnocolon]
    cases behind with
    | nil => simp
    | cons c behind => simp_all
  exact hs.named (by rw [← hfirst, ← hshown]; rfl)

/-! ## What is said about a name -/

/-- How each warning about the name of the module begins. -/
def remark : Text := "Module name:"

/-- What is said about a name. -/
def remarks (name : Text) : List Text :=
  (moduleNameFaults name).map fun f => "Module name: " ++ f.message

def Unremarked (warnings : List Text) : Prop := ∀ w ∈ warnings, ¬ remark <+: w

theorem unremarked_append {a b : List Text} :
    Unremarked (a ++ b) ↔ Unremarked a ∧ Unremarked b := List.forall_mem_append

theorem not_remark_of_head {c : Char} {w : Text} (hc : c ≠ 'M') (h : w.head? = some c) :
    ¬ remark <+: w := by
  rintro ⟨rest, rfl⟩
  exact hc (Option.some.inj h).symm

theorem moduleWarnings_of_name {p : Plan} {name : Text} (h : p.module = .str name) :
    moduleWarnings p = .ok (remarks name) := by
  rw [moduleWarnings, h]
  dsimp only
  split
  · rfl
  · next hempty =>
    obtain rfl : name = [] := by simpa [Json.truthy] using hempty
    rfl

theorem unremarked_remarks_iff {name : Text} :
    Unremarked (remarks name) ↔ moduleNameFaults name = [] := by
  constructor
  · intro h
    by_contra hne
    obtain ⟨f, hf⟩ := List.exists_mem_of_ne_nil _ hne
    exact h _ (List.mem_map_of_mem hf) ⟨' ' :: f.message, rfl⟩
  · intro h
    rw [remarks, h]
    exact List.forall_mem_nil _

variable {p : Plan} {enums : List Definition} {warnings : List Text}

/-- Other warnings are about enums and their values. -/
theorem unremarked_enumsWarnings {before : List (Text × Text)}
    (h : Generator.enumsWarnings p before enums = .ok warnings) : Unremarked warnings := by
  induction enums generalizing before warnings with
  | nil =>
    obtain rfl := Except.ok.inj h
    exact List.forall_mem_nil _
  | cons d enums ih =>
    obtain ⟨here, hhere, h⟩ := bind_eq_ok.mp h
    obtain ⟨rest, hrest, hdone⟩ := bind_eq_ok.mp h
    obtain ⟨members, -, hmade⟩ := bind_eq_ok.mp hhere
    obtain rfl := Except.ok.inj hdone
    obtain rfl := Except.ok.inj hmade
    refine unremarked_append.mpr ⟨unremarked_append.mpr ⟨unremarked_append.mpr ⟨?_, ?_⟩, ?_⟩,
      ih hrest⟩
    · exact fun w hw => not_remark_of_head (by decide) (Generator.head?_nameWarnings w hw)
    · intro w hw
      obtain ⟨m, -, hw⟩ := List.mem_flatMap.mp hw
      exact not_remark_of_head (by decide) (Generator.head?_memberWarnings w hw)
    · exact fun w hw => not_remark_of_head (by decide) (Generator.head?_placeholderWarnings w hw)

/-! ## Main result -/

/-- A module name that is given as a text is checked for all enums that can be named. Nothing is
said about it when it is a name of a module in small letters, and, which is wrong, when it is
the underscore. All code then names the wrapper by the same path, which can be read
unless the name is the underscore. -/
theorem module_name_passes_iff {config : Config} {g : Generator} {name : Text}
    (hg : Generator.ofConfig Rust.backend config none = .ok g)
    (hname : config.moduleName = .str name)
    (hmembers : ∀ d ∈ enums, ∃ members, g.plan.namedMembers d = .ok members) :
    ∃ warnings, g.validate enums = .ok warnings ∧
      (Unremarked warnings ↔ IsModuleName name ∨ name = "_") ∧
      (Unremarked warnings → wrapperPath g.module = .ok (pathOf name) ∧
        (IsCratePath (pathOf name) ↔ name ≠ "_") ∧
        ∀ (d : Definition) body, Gives (g.backend.single g.plan d) body →
          NamesWrapper name (g.plan.typeName d.name) body) := by
  obtain ⟨hb, hp⟩ := Generator.ofConfig_ok hg
  have hmodule : g.plan.module = .str name := by rw [Plan.module, hp.config_eq, hname]
  obtain ⟨found, hfound⟩ := Generator.enumsWarnings_ok [] hmembers
  have hothers : g.backend.moduleWarnings g.plan = .ok (remarks name) := by
    rw [hb]
    exact moduleWarnings_of_name hmodule
  have hpasses : Unremarked (found ++ remarks name) ↔ IsModuleName name ∨ name = "_" := by
    rw [unremarked_append, and_iff_right (unremarked_enumsWarnings hfound),
      unremarked_remarks_iff, moduleNameFaults_eq_nil_iff]
  refine ⟨_, bind_eq_ok.mpr ⟨found, hfound, bind_eq_ok.mpr ⟨_, hothers, rfl⟩⟩, hpasses,
    fun hquiet => ?_⟩
  have hshape := hpasses.mp hquiet
  have hident : Text.isIdentifier name = true :=
    (moduleNameFaults_eq_nil.mp (moduleNameFaults_eq_nil_iff.mpr hshape)).1
  refine ⟨?_, ⟨?_, fun hne => ?_⟩, fun d body h => ?_⟩
  · rw [Generator.module, hmodule]
    exact wrapperPath_of_isIdentifier hident
  · rintro hpath rfl
    exact not_isCratePath_underscore hpath
  · exact isCratePath_of_isModuleName (hshape.resolve_right hne)
  · rw [hb] at h
    exact namesWrapper_single hp hmodule hident h

/-- The standard configuration with another name. -/
def named (name : Text) : Config := { Config.standard with moduleName := .str name }

theorem wire_types_passes : ∃ g warnings,
    Generator.ofConfig Rust.backend (named "wire_types") none = .ok g ∧
      g.validate [Generator.oneValued "Level" "low"] = .ok warnings ∧ Unremarked warnings ∧
      IsCratePath "crate::wire_types::UnknownVariantValue" := by
  have hsorted := sortMembers_of_pairwise (List.pairwise_singleton _ (Member.ofValue "low"))
  obtain ⟨g, hg, hmembers⟩ : ∃ g,
      Generator.ofConfig Rust.backend (named "wire_types") none = .ok g ∧
        ∃ members, g.plan.namedMembers (Generator.oneValued "Level" "low") = .ok members := by
    refine ⟨_, rfl, [(Member.ofValue "low").withIdentifier (some "Low")], ?_⟩
    rw [Plan.namedMembers, deriveMembers, Generator.oneValued, hsorted]
    rfl
  have hname : IsModuleName "wire_types" :=
    ⟨by decide, List.all_eq_true.mp rfl, by decide, by decide +kernel⟩
  obtain ⟨warnings, hvalid, hpasses, hpath⟩ :=
    module_name_passes_iff hg rfl (List.forall_mem_singleton.mpr hmembers)
  have hquiet := hpasses.mpr (.inl hname)
  exact ⟨g, warnings, hg, hvalid, hquiet, (hpath hquiet).2.1.mpr hname.named⟩

/-- The underscore is no name of a module, but nothing is said about it. -/
theorem underscore_passes : ¬ IsModuleName "_" ∧ ∃ g,
    Generator.ofConfig Rust.backend (named "_") none = .ok g ∧ g.validate [] = .ok [] ∧
      wrapperPath g.module = .ok "crate::_::UnknownVariantValue" ∧
      ¬ IsCratePath "crate::_::UnknownVariantValue" := by
  have hfaults : moduleNameFaults "_" = [] := moduleNameFaults_eq_nil_iff.mpr (.inr rfl)
  obtain ⟨g, hg, hb, hmodule⟩ : ∃ g, Generator.ofConfig Rust.backend (named "_") none = .ok g ∧
      g.backend = backend ∧ g.plan.module = .str "_" := ⟨_, rfl, rfl, rfl⟩
  have hothers : g.backend.moduleWarnings g.plan = .ok [] := by
    have h := moduleWarnings_of_name hmodule
    rw [remarks, hfaults] at h
    rw [hb]
    exact h
  have hpath : wrapperPath g.module = .ok (pathOf "_") := by
    rw [Generator.module, hmodule]
    exact wrapperPath_of_isIdentifier (by decide +kernel)
  exact ⟨fun h => h.named rfl, g, hg, bind_eq_ok.mpr ⟨[], rfl, bind_eq_ok.mpr ⟨[], hothers, rfl⟩⟩,
    hpath, not_isCratePath_underscore⟩

end CatchAll.Target.Rust
