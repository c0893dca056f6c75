import CatchAll.Proofs.Target.PythonDocstring
import CatchAll.Proofs.Target.PythonLines

/-!
# The source of a Python class

The template of a class puts the conversion below whatever documentation there
is, quiet lines below the conversion, and one assignment for each constant at the
end. Reading the source gives the cases and the constants of the context.
-/

set_option autoImplicit false

namespace CatchAll.Target.Python

open scoped Text Template
open Naming Schema Outcome Text.Literal
open Template (Node Slot render render_lit render_text render_each render_cond lines_line lines_lit
  lines_lits lines_named lines_named_lits lines_named_twice Closes closes_line)

/-- What the template of a class is filled with; each variant is a member with its
documentation. -/
structure Filling where
  metadata : Text
  typeName : Text
  summary : Text
  docs : Text
  variants : List (Option Text × Member)
  members : Text
  fromImpl : Text
  fromStrImpl : Text
  arms : Text
  values : List Text

def Filling.fields (f : Filling) : Fields :=
  [("metadata", .str f.metadata),
   ("enum_name", .str f.typeName),
   ("summary", .str f.summary),
   ("docs", .str f.docs),
   ("variants", .arr (f.variants.map fun v => variantFields v.1 v.2)),
   ("unknown_value", .str wrapperName),
   ("unknown_variant", .str catchAllName),
   ("additional_members", .str f.members),
   ("from_impl", .str f.fromImpl),
   ("from_str_impl", .str f.fromStrImpl),
   ("additional_as_str_arms", .str f.arms),
   ("values", Json.strings f.values)]

def Filling.constants (f : Filling) : List (Text × Text) :=
  f.variants.map fun v => (v.2.identifier.getD [], v.2.value)

/-- What a constant is made with. -/
def made (typeName : Text) (arm : Text × Text) : Text :=
  " = " ++ typeName ++ "(" ++ literal arm.1 ++ ", " ++ literal arm.2 ++ ")"

def assignment (typeName : Text) (arm : Text × Text) : Text :=
  typeName ++ "." ++ (arm.1 ++ made typeName arm)

/-! ## Up to the conversion -/

def docsEnd : Text := "    \"\"\""

def slotsLine : Text := "    __slots__ = (\"_name\", \"_value\")"

def classVar (typeName name : Text) : Text :=
  "    " ++ (name ++ (": ClassVar[" ++ (typeName ++ "]")))

def commentLines (docs : Text) : List Text :=
  if docs = [] then [] else ["    \"\"\"" ++ (docs ++ "\"\"\"")]

/-- What a constant is declared with. -/
def annotationLines (typeName : Text) (v : Option Text × Member) : List Text :=
  classVar typeName (v.2.identifier.getD []) :: commentLines (memberDocs v.1 v.2.deprecated)

def initHeader : Text := "    def __init__(self, name: str, value: str | "

def initLines : List Text :=
  [initHeader ++ (wrapperName ++ ") -> None:"), "        self._name = name",
   "        self._value = value"]

def documentationLines (docs : Text) : List Text :=
  if docs = [] then [] else Text.lines (Template.indentLines 4 docs)

/-- The documentation below its first line, as it stands in the class. -/
def documentationBlock (docs : Text) : Text :=
  if docs = [] then [] else "\n" ++ (Template.indentLines 4 docs ++ "\n")

/-- The class from the end of its documentation up to the conversion. -/
def declaredLines (f : Filling) : List Text :=
  docsEnd :: [] :: slotsLine :: [] :: (f.variants.flatMap (annotationLines f.typeName) ++
    [] :: (initLines ++ [] :: Text.lines (Template.indentLines 4 f.members)))

theorem lineFeed_not_mem_memberDocs (documentation : Option Text) (deprecated : Bool) :
    '\n' ∉ memberDocs documentation deprecated := by
  have hdocs {t : Text} (h : '\n' ∉ t) : '\n' ∉ (if t = [] then [] else docstring t) := by
    split
    · exact List.not_mem_nil
    · intro hmem
      rcases mem_docstring hmem with hmem | hmem | hmem
      · exact h hmem
      · cases hmem
      · cases hmem
  have hmarked {line : Text} (h : '\n' ∉ line) :
      '\n' ∉ (if deprecated then Text.strip ("Deprecated. " ++ line) else line) := by
    split
    · intro hmem
      rcases List.mem_append.mp (Text.mem_of_mem_strip hmem) with hmem | hmem
      · exact absurd hmem (by decide)
      · exact h hmem
    · exact h
  cases documentation with
  | none => exact hdocs (hmarked List.not_mem_nil)
  | some t =>
    have hjoined : '\n' ∉ Text.joinWith " " (Text.words t) :=
      Text.lineFeed_not_mem_joinWith (by decide) fun _ hw => Text.lineFeed_not_mem_word hw
    exact hdocs (hmarked hjoined)

theorem lineFeed_not_mem_annotationLines {typeName : Text} (hT : '\n' ∉ typeName)
    {v : Option Text × Member} (hname : '\n' ∉ v.2.identifier.getD []) :
    ∀ l ∈ annotationLines typeName v, '\n' ∉ l := by
  refine List.forall_mem_cons.mpr ⟨?_, ?_⟩
  · unfold classVar
    simp [hname, hT]
  · rw [commentLines]
    split
    · exact List.forall_mem_nil _
    · simp [lineFeed_not_mem_memberDocs]

theorem render_comment {values : Fields} {slot : Slot} {docs : Text}
    (hslot : slot.value values = .ok (.str docs)) :
    render false values (if (Json.str docs).truthy then
        [.lit "    \"\"\"", .put slot, .lit "\"\"\"\n"] else []) =
      .ok ((commentLines docs).map fun l => l ++ ['\n']).flatten := by
  by_cases h : docs = []
  · subst h
    rfl
  · have hshown : (Json.str docs).truthy = true := by simp [Json.truthy, h]
    have hend : ("\"\"\"\n" : Text) = "\"\"\"" ++ ['\n'] := by decide
    rw [hshown, if_pos rfl, commentLines, if_neg h]
    refine (render_lit _ <| render_text hslot <| Template.render_last _).trans ?_
    rw [hend, List.map_singleton, List.flatten_singleton]
    simp only [List.append_assoc]

theorem render_annotations (f : Filling) :
    (f.variants.map fun v => variantFields v.1 v.2).mapM (fun item =>
      render false (("variant", item) :: f.fields)
        [.lit "    ", .put (variantSlot "name"), .lit ": ClassVar[", .put "enum_name", .lit "]\n",
         .cond (variantSlot "docs")
          [.lit "    \"\"\"", .put (variantSlot "docs"), .lit "\"\"\"\n"] []]) =
      .ok (f.variants.map fun v =>
        ((annotationLines f.typeName v).map fun l => l ++ ['\n']).flatten) := by
  rw [mapM_eq_ok, List.forall₂_map_left_iff, List.forall₂_map_right_iff, List.forall₂_same]
  intro v _
  have hdocs : (variantSlot "docs").value (("variant", variantFields v.1 v.2) :: f.fields) =
      .ok (.str (memberDocs v.1 v.2.deprecated)) := rfl
  have hend : ("]\n" : Text) = "]" ++ ['\n'] := by decide
  refine (render_lit _ <| render_text rfl <| render_lit _ <| render_text rfl <| render_lit _ <|
    render_cond hdocs (render_comment hdocs) rfl).trans ?_
  rw [annotationLines, classVar, List.map_cons, List.flatten_cons, hend]
  simp only [List.append_assoc, List.append_nil]

section

variable {f : Filling} (hT : '\n' ∉ f.typeName)
  (hnames : ∀ v ∈ f.variants, '\n' ∉ v.2.identifier.getD [])
include hT hnames

theorem render_declared : ∃ t, render false f.fields ((classTemplate.drop 8).take 10) = .ok t ∧
    Text.lines t = declaredLines f := by
  have hannotations : (f.variants.map fun v =>
      ((annotationLines f.typeName v).map fun l => l ++ ['\n']).flatten).flatten =
      ((f.variants.flatMap (annotationLines f.typeName)).map fun l => l ++ ['\n']).flatten := by
    rw [List.map_flatMap, List.flatMap_def, List.flatten_flatten, List.map_map]
    rfl
  have hlines : ∀ l ∈ f.variants.flatMap (annotationLines f.typeName), '\n' ∉ l := by
    intro l hl
    obtain ⟨v, hv, hl⟩ := List.mem_flatMap.mp hl
    exact lineFeed_not_mem_annotationLines hT (hnames v hv) l hl
  refine ⟨_, render_lit _ <| render_lit _ <| render_each rfl (render_annotations f) <|
    render_lit _ <| render_lit _ <| render_text rfl <| render_lit _ <| render_lit _ <|
    render_lit _ <| render_text rfl rfl, ?_⟩
  rw [hannotations, List.append_nil, declaredLines]
  refine lines_lits [docsEnd, []] (by decide +kernel) <|
    lines_lits [slotsLine, []] (by decide +kernel) <| Template.lines_ended hlines <|
    lines_lit (by decide) <| lines_named (by decide +kernel) (by decide) (by decide) <|
    lines_lit (by decide +kernel) ?_
  exact lines_lits ["        self._value = value", []] (by decide +kernel) rfl

/-- The front of a class as a text: its header, the first line of its documentation, the rest
of the documentation and what is declared. -/
theorem render_head : ∃ declared, Text.lines declared = declaredLines f ∧
    render false f.fields (classTemplate.take 18) =
      .ok (f.metadata ++ ("class " ++ (f.typeName ++ (":\n" ++ ("    \"\"\"" ++ (f.summary ++
        ("\n" ++ (documentationBlock f.docs ++ declared)))))))) := by
  obtain ⟨t, hdeclared, hlines⟩ := render_declared hT hnames
  have hdocs : render false f.fields (if (Json.str f.docs).truthy then
      [.lit "\n", .put (Slot.through "docs" (.indent 4)), .lit "\n"] else []) =
      .ok (documentationBlock f.docs) := by
    rw [documentationBlock]
    by_cases h : f.docs = []
    · rw [if_pos h, h]
      rfl
    · have hshown : (Json.str f.docs).truthy = true := by simp [Json.truthy, h]
      have hvalue : (Slot.through "docs" (.indent 4)).value f.fields =
          .ok (.str (Template.indentLines 4 f.docs)) := rfl
      rw [hshown, if_pos rfl, if_neg h]
      exact render_lit _ <| render_text hvalue <| Template.render_last _
  exact ⟨t, hlines, render_text rfl <| render_lit _ <| render_text rfl <| render_lit _ <|
    render_lit _ <| render_text rfl <| render_lit _ <| render_cond rfl hdocs hdeclared⟩

theorem render_front : ∃ front, render false f.fields (classTemplate.take 18) = .ok front ∧
    Closes (documentationLines f.docs ++ declaredLines f) front := by
  obtain ⟨t, hlines, hfront⟩ := render_head hT hnames
  have hfeed : Template.isLine [] "\n" = true := by decide
  refine ⟨_, hfront, ?_⟩
  by_cases h : f.docs = []
  · rw [documentationLines, documentationBlock, if_pos h, if_pos h, List.nil_append,
      List.nil_append]
    iterate 6 refine Closes.append _ ?_
    exact closes_line hfeed hlines
  · rw [documentationLines, documentationBlock, if_neg h, if_neg h, List.append_assoc,
      List.append_assoc]
    iterate 7 refine Closes.append _ ?_
    exact closes_line hfeed ((Text.lines_append_lineFeed _ _).trans (congrArg (_ ++ ·) hlines))

end

/-! ## Below the conversion -/

theorem lines_flatten_lineFeeds {ls : List Text} (h : ∀ l ∈ ls, '\n' ∉ l) :
    Text.lines (ls.map (· ++ ['\n'])).flatten = ls ++ [[]] := by
  have hlines := Template.lines_ended (t := []) h rfl
  rwa [List.append_nil] at hlines

theorem render_assignments (f : Filling) :
    render false f.fields (classTemplate.drop 62) =
      .ok ((f.constants.map (assignment f.typeName)).map (· ++ ['\n'])).flatten := by
  have hround : ∀ v : Option Text × Member,
      render false (("variant", variantFields v.1 v.2) :: f.fields)
        [.put "enum_name", .lit ".", .put (variantSlot "name"), .lit " = ", .put "enum_name",
         .lit "(", .put (variantSlot "name_literal"), .lit ", ", .put (variantSlot "value"),
         .lit ")\n"] =
        .ok (assignment f.typeName (v.2.identifier.getD [], v.2.value) ++ ['\n']) := by
    intro v
    refine (render_text rfl <| render_lit _ <| render_text rfl <| render_lit _ <|
      render_text rfl <| render_lit _ <| render_text rfl <| render_lit _ <| render_text rfl <|
      render_lit _ rfl).trans ?_
    unfold assignment made
    simp
  have hparts : (f.variants.map fun v => variantFields v.1 v.2).mapM (fun item =>
      render false (("variant", item) :: f.fields)
        [.put "enum_name", .lit ".", .put (variantSlot "name"), .lit " = ", .put "enum_name",
         .lit "(", .put (variantSlot "name_literal"), .lit ", ", .put (variantSlot "value"),
         .lit ")\n"]) = .ok ((f.constants.map (assignment f.typeName)).map (· ++ ['\n'])) := by
    rw [mapM_eq_ok, Filling.constants, List.map_map, List.map_map, List.forall₂_map_left_iff,
      List.forall₂_map_right_iff, List.forall₂_same]
    exact fun v _ => hround v
  exact (render_each rfl hparts rfl).trans (congrArg Except.ok (List.append_nil _))

theorem value_values (f : Filling) :
    (Slot.through "values" (.join ", ")).value f.fields =
      .ok (.str (Text.joinWith ", " f.values)) := by
  have hshown : (f.values.map Json.str).map Json.shown = f.values := by
    rw [List.map_map]
    exact List.map_id f.values
  exact congrArg (fun values => Except.ok (Json.str (Text.joinWith ", " values))) hshown

def valuesHeader : Text := "    def values(cls) -> tuple[str, ...]:"

def valuesMargin : Text := "        return ("

def valuesLine (f : Filling) : Text := valuesMargin ++ (Text.joinWith ", " f.values ++ ",)")

/-- The methods below the list of all values. -/
def objectLines (typeName : Text) : List Text :=
  [[], "    @property", "    def name(self) -> str:", "        \"\"\"Name of the variant.\"\"\"",
   "        return self._name", [], "    def __eq__(self, other: object) -> bool:",
   "        if not isinstance(other, " ++ (typeName ++ "):"), "            return NotImplemented",
   "        return self._name == other._name and self._value == other._value", [],
   "    def __hash__(self) -> int:", "        return hash((self._name, self._value))", [],
   "    def __repr__(self) -> str:",
   "        if isinstance(self._value, " ++ (wrapperName ++ "):"),
   "            return f\"" ++ (typeName ++ ("." ++ (catchAllName ++ "(\x7bself._value!r\x7d)\""))),
   "        return f\"" ++ (typeName ++ ".\x7bself._name\x7d\""), [],
   "    def __str__(self) -> str:", "        return self.as_str()", [], []]

/-- The class from the list of all values up to the assignments. -/
def valuesLines (f : Filling) : List Text :=
  valuesHeader ::
    "        \"\"\"Returns all the string representations of the enum members.\"\"\"" ::
      valuesLine f :: objectLines f.typeName

def assignmentLines (f : Filling) : List Text := f.constants.map (assignment f.typeName) ++ [[]]

section

variable {f : Filling} (hT : '\n' ∉ f.typeName) (hvalues : ∀ v ∈ f.values, '\n' ∉ v)
  (hconstants : ∀ arm ∈ f.constants, '\n' ∉ arm.1)
include hT hvalues hconstants

theorem render_values : ∃ t, render false f.fields (classTemplate.drop 31) = .ok t ∧
    Text.lines t = valuesLines f ++ assignmentLines f := by
  have hjoined : '\n' ∉ Text.joinWith ", " f.values :=
    Text.lineFeed_not_mem_joinWith (by decide) hvalues
  have hassignments : Text.lines
      ((f.constants.map (assignment f.typeName)).map (· ++ ['\n'])).flatten = assignmentLines f := by
    refine lines_flatten_lineFeeds fun l hl => ?_
    obtain ⟨arm, harm, rfl⟩ := List.mem_map.mp hl
    unfold assignment made
    simp [hT, hconstants arm harm, lineFeed_not_mem_literal]
  refine ⟨_, render_lit _ <| render_lit _ <| render_lit _ <| render_text (value_values f) <|
    render_lit _ <| render_lit _ <| render_lit _ <| render_lit _ <| render_lit _ <|
    render_lit _ <| render_lit _ <| render_text rfl <| render_lit _ <| render_lit _ <|
    render_lit _ <| render_lit _ <| render_lit _ <| render_lit _ <| render_lit _ <|
    render_text rfl <| render_lit _ <| render_lit _ <| render_text rfl <| render_lit _ <|
    render_text rfl <| render_lit _ <| render_lit _ <| render_text rfl <| render_lit _ <|
    render_lit _ <| render_lit _ <| render_assignments f, ?_⟩
  rw [valuesLines, objectLines]
  refine lines_lit (by decide +kernel) <| lines_lit (by decide +kernel) <|
    lines_named_lits [[]] (by decide) hjoined (by decide +kernel) ?_
  -- the name and the comparison
  refine lines_lit (by decide +kernel) <| lines_lit (by decide +kernel) <|
    lines_lit (by decide +kernel) <|
    lines_lits ["        return self._name", []] (by decide +kernel) <|
    lines_lit (by decide +kernel) <| lines_named (by decide +kernel) hT (by decide) <|
    lines_lit (by decide +kernel) <| lines_lits
      ["        return self._name == other._name and self._value == other._value", []]
      (by decide +kernel) ?_
  -- the hash and what is shown
  refine lines_lit (by decide +kernel) <|
    lines_lits ["        return hash((self._name, self._value))", []] (by decide +kernel) <|
    lines_lit (by decide +kernel) <| lines_named (by decide +kernel) (by decide) (by decide) <|
    lines_named_twice (by decide +kernel) hT (by decide) (by decide) (by decide +kernel) <|
    lines_named_lits [[]] (by decide +kernel) hT (by decide +kernel) <|
    lines_lit (by decide +kernel) <|
    lines_lits ["        return self.as_str()", [], []] (by decide +kernel) hassignments

theorem render_rest
    (hparse : ∀ l ∈ Text.lines (Template.indentLines 4 f.fromStrImpl), quietLine l = true) :
    ∃ rest, render false f.fields (classTemplate.drop 21) = .ok rest ∧
      Leads (valuesLines f ++ assignmentLines f) rest := by
  obtain ⟨t, ht, hlines⟩ := render_values hT hvalues hconstants
  have hbelow : Leads (valuesLines f ++ assignmentLines f) t := ⟨[], hlines, List.forall_mem_nil _⟩
  refine ⟨_, render_text rfl <| render_lit _ <| render_lit _ <| render_lit _ <| render_lit _ <|
    render_text rfl <| render_lit _ <| render_lit _ <| render_lit _ <| render_lit _ ht, ?_⟩
  refine .paragraph hparse ?_
  -- the conversion to a text
  refine .lines (by decide +kernel) <| .lines (by decide +kernel) <| .lines (by decide +kernel) ?_
  refine .feed (fun l hl => quietLine_deep hl) ?_
  exact .lines (by decide +kernel) <| .lines (by decide +kernel) <|
    .lines (by decide +kernel) hbelow

end

theorem quietLine_valuesLines (f : Filling) : ∀ l ∈ valuesLines f, quietLine l = true := by
  simp only [valuesLines, objectLines, List.forall_mem_cons]
  exact ⟨rfl, rfl, rfl, rfl, rfl, rfl, rfl, rfl, rfl, rfl, rfl, rfl, rfl, rfl, rfl, rfl, rfl, rfl,
    rfl, rfl, rfl, rfl, rfl, rfl, rfl, rfl, List.forall_mem_nil _⟩

/-! ## Reading the source -/

theorem readAssignment_assignment (typeName : Text) {arm : Text × Text} (h : IsName arm.1) :
    readAssignment typeName (assignment typeName arm) = some (arm.1, arm) := by
  have hconstant : (assignment typeName arm).dropPrefix? (typeName ++ ".") =
      some (arm.1 ++ made typeName arm) := by
    rw [← dropPrefix?_append (typeName ++ "." : Text), assignment, List.append_assoc]
  have hname : (made typeName arm).dropPrefix? (" = " ++ typeName ++ "(") =
      some (literal arm.1 ++ (", " ++ (literal arm.2 ++ [')']))) := by
    unfold made
    rw [← dropPrefix?_append (" = " ++ typeName ++ "(" : Text)]
    simp only [List.append_assoc]
    rfl
  have hblank : ∀ c, (made typeName arm).head? = some c → isNameChar c = false :=
    fun c hc => Option.some.inj hc ▸ rfl
  rw [readAssignment, hconstant]
  simp only [Option.bind_eq_bind, Option.bind_some, cutName_append h.chars hblank, hname,
    unquote?_literal, dropPrefix?_append]
  rfl

theorem mapM_readAssignment (typeName : Text) {arms : List (Text × Text)}
    (h : ∀ arm ∈ arms, IsName arm.1) :
    (arms.map (assignment typeName)).mapM (readAssignment typeName) =
      some (arms.map fun arm => (arm.1, arm)) := by
  induction arms with
  | nil => rfl
  | cons arm arms ih =>
    rw [List.map_cons, List.mapM_cons, readAssignment_assignment typeName (h arm (by simp)),
      ih fun a ha => h a (List.mem_cons_of_mem arm ha)]
    rfl

theorem isBlank_of_isNameChar {c : Char} (h : isNameChar c = true) : Text.isBlank c = false := by
  rw [isNameChar, Bool.or_eq_true, beq_iff_eq] at h
  rcases h with h | rfl
  · exact forall_isAlphanum (P := fun c => Text.isBlank c = false) (by decide) c h
  · rfl

theorem atMargin_assignment {typeName : Text} (hT : IsName typeName) (arm : Text × Text) :
    atMargin (assignment typeName arm) = true := by
  obtain ⟨c, rest, rfl⟩ := List.exists_cons_of_ne_nil hT.ne_nil
  show (!Text.isBlank c) = true
  rw [isBlank_of_isNameChar (hT.chars c (by simp))]
  rfl

theorem not_atMargin_of_quietLine {line : Text} (h : quietLine line = true) :
    atMargin line = false := by
  rw [quietLine, Bool.and_eq_true, Bool.not_eq_true'] at h
  exact h.1

/-- Filled for a context, with the fragments of the catch-all policy. -/
structure Filling.Of (f : Filling) (layout : Layout) (c : Context) : Prop where
  typeName : f.typeName = c.typeName
  fromImpl : f.fromImpl = fromImplText layout c
  fromStrImpl : f.fromStrImpl = fromStrImplText layout c
  constants : f.constants = c.arms
  values : f.values = c.values.map literal

/-- Nothing but the assignments is read from what is below the conversion. -/
theorem filter_atMargin {typeName : Text} (hT : IsName typeName) {quiet : List Text}
    (hquiet : ∀ l ∈ quiet, quietLine l = true) (arms : List (Text × Text)) :
    (quiet ++ (arms.map (assignment typeName) ++ [[]])).filter atMargin =
      arms.map (assignment typeName) := by
  have hnone : quiet.filter atMargin = [] :=
    List.filter_eq_nil_iff.mpr fun l hl => by simp [not_atMargin_of_quietLine (hquiet l hl)]
  have hall : (arms.map (assignment typeName)).filter atMargin =
      arms.map (assignment typeName) := by
    refine List.filter_eq_self.mpr fun l hl => ?_
    obtain ⟨arm, -, rfl⟩ := List.mem_map.mp hl
    exact atMargin_assignment hT arm
  rw [List.filter_append, List.filter_append, hnone, hall]
  exact List.append_nil _

theorem header_not_mem {typeName : Text} (hT : IsName typeName) {quiet : List Text}
    (hquiet : ∀ l ∈ quiet, quietLine l = true) (arms : List (Text × Text)) :
    "    " ++ fromStrHeader typeName ∉ quiet ++ (arms.map (assignment typeName) ++ [[]]) := by
  intro hmem
  rcases List.mem_append.mp hmem with hmem | hmem
  · have hheader := hquiet _ hmem
    rw [not_quietLine_header] at hheader
    cases hheader
  · rcases List.mem_append.mp hmem with hmem | hmem
    · obtain ⟨arm, -, harm⟩ := List.mem_map.mp hmem
      have hmargin := atMargin_assignment hT arm
      rw [harm] at hmargin
      cases hmargin
    · exact absurd (List.mem_singleton.mp hmem) (List.cons_ne_nil _ _)

theorem quietLine_methodBody {unit : Text} {c : Context} (hne : unit ≠ []) (hunit : IsMargin unit)
    (hT : IsName c.typeName) (hfits : ∀ arm ∈ c.arms, FitsVariant arm.1) :
    ∀ l ∈ (methodBody unit c).map (List.replicate 4 ' ' ++ ·), quietLine l = true := by
  intro l hl
  obtain ⟨line, hline, rfl⟩ := List.mem_map.mp hl
  obtain ⟨shown, rfl, -, -⟩ := mem_methodBody (lineFeed_not_mem_margin hunit)
    (lineFeed_not_mem_of_isName hT)
    (fun arm harm => lineFeed_not_mem_of_isName (hfits arm harm).isName) hline
  exact quietLine_unit hne hunit shown

/-- A conversion with quiet lines and the assignments below it is read as it was written. -/
theorem readClass_of_lines {unit code : Text} {c : Context} {front quiet : List Text}
    (hne : unit ≠ []) (hunit : IsMargin unit) (hT : IsName c.typeName)
    (hfits : ∀ arm ∈ c.arms, FitsVariant arm.1) (hown : ∀ arm ∈ c.arms, arm.1 ∉ ownNames)
    (hquiet : ∀ l ∈ quiet, quietLine l = true)
    (hcode : Text.lines code = front ++ ("    " ++ fromStrHeader c.typeName) ::
      ((methodBody unit c).map (List.replicate 4 ' ' ++ ·) ++
        (quiet ++ (c.arms.map (assignment c.typeName) ++ [[]])))) :
    readClass c.typeName code = some
      ⟨c.arms.map Prod.swap, Table.ofPairs (c.arms.map fun arm => (arm.1, arm))⟩ := by
  have hbelow : ∀ l ∈ (methodBody unit c).map (List.replicate 4 ' ' ++ ·) ++ quiet,
      quietLine l = true :=
    List.forall_mem_append.mpr ⟨quietLine_methodBody hne hunit hT hfits, hquiet⟩
  have hcases := readFromStr_methodBody isMargin_four hunit hT.chars hfits
    (quiet ++ (c.arms.map (assignment c.typeName) ++ [[]]))
  have hlast := afterLast_append (header_not_mem hT hbelow c.arms) front
  have hfilter := filter_atMargin hT hbelow c.arms
  rw [List.append_assoc] at hlast hfilter
  have hfree : (c.arms.map fun arm => (arm.1, arm)).any (fun a => a.1 ∈ ownNames) = false := by
    simpa [List.any_eq_false] using hown
  have hread := mapM_readAssignment c.typeName fun arm harm => (hfits arm harm).isName
  rw [readClass, hcode, hlast, Option.bind_eq_bind, Option.bind_some, hcases, Option.bind_eq_bind,
    Option.bind_some, hfilter, hread, Option.bind_eq_bind, Option.bind_some, hfree]
  rfl

/-- The lines of the source, with whatever documentation and quiet lines there are. -/
structure SourceLines (f : Filling) (layout : Layout) (c : Context) (code : Text) where
  above : List Text
  quiet : List Text
  lines : Text.lines code =
    (above ++ (documentationLines f.docs ++ declaredLines f) ++ [[], "    @classmethod"]) ++
      ("    " ++ fromStrHeader c.typeName) ::
        ((methodBody layout.unit c).map (List.replicate 4 ' ' ++ ·) ++
          ((quiet ++ valuesLines f) ++ (c.arms.map (assignment c.typeName) ++ [[]])))
  isQuiet : ∀ l ∈ quiet ++ valuesLines f, quietLine l = true

/-- No name in a filling for a context has a line feed. -/
theorem Filling.Of.single {f : Filling} {layout : Layout} {c : Context} (hf : f.Of layout c)
    (hT : '\n' ∉ c.typeName) (harms : ∀ arm ∈ c.arms, '\n' ∉ arm.1) :
    '\n' ∉ f.typeName ∧ ∀ v ∈ f.variants, '\n' ∉ v.2.identifier.getD [] := by
  refine ⟨by rwa [hf.typeName], fun v hv => ?_⟩
  refine harms (v.2.identifier.getD [], v.2.value) ?_
  rw [← hf.constants]
  exact List.mem_map_of_mem hv

/-- The source is emitted, and this is what stands below its front. -/
theorem lines_below {f : Filling} {layout : Layout} {c : Context} (hf : f.Of layout c)
    (hne : layout.unit ≠ []) (hunit : IsMargin layout.unit) (hT : '\n' ∉ c.typeName)
    (harms : ∀ arm ∈ c.arms, '\n' ∉ arm.1) {front : Text}
    (hfront : render false f.fields (classTemplate.take 18) = .ok front) :
    ∃ code quiet, Template.renderNamed shelf "class.py.j2" f.fields = .ok code ∧
      (∀ l ∈ quiet ++ valuesLines f, quietLine l = true) ∧
      Text.lines code = Text.lines front ++ [[], "    @classmethod"] ++
        ("    " ++ fromStrHeader c.typeName) ::
          ((methodBody layout.unit c).map (List.replicate 4 ' ' ++ ·) ++
            ((quiet ++ valuesLines f) ++ (c.arms.map (assignment c.typeName) ++ [[]]))) := by
  have hvalues : ∀ v ∈ f.values, '\n' ∉ v := by
    rw [hf.values, List.forall_mem_map]
    exact fun v _ => lineFeed_not_mem_literal v
  have hparse : ∀ l ∈ Text.lines (Template.indentLines 4 f.fromStrImpl), quietLine l = true := by
    rw [hf.fromStrImpl]
    exact quietLine_of_fromStrImplText hne hunit hT
  obtain ⟨rest, hrest, before, hlines, hquiet⟩ :=
    render_rest (hf.single hT harms).1 hvalues (by rwa [hf.constants]) hparse
  have hback : render false f.fields (classTemplate.drop 18) =
      .ok ("\n\n" ++ (Template.indentLines 4 (fromImplText layout c) ++ ("\n\n" ++ rest))) := by
    rw [← hf.fromImpl]
    exact render_lit _ <| render_text rfl <| render_lit _ hrest
  have hrender := Template.render_append hfront hback
  rw [List.take_append_drop] at hrender
  have hfind : shelf.find? (·.1 == "class.py.j2".toList) =
      some ("class.py.j2".toList, classTemplate) := rfl
  refine ⟨_, [] :: before, Template.renderNamed_of_render hfind rfl rfl hrender,
    List.forall_mem_append.mpr ⟨List.forall_mem_cons.mpr ⟨rfl, hquiet⟩,
      quietLine_valuesLines f⟩, ?_⟩
  rw [Text.lines_paragraph, Text.lines_paragraph, lines_fromImplText hunit hT harms, hlines,
    assignmentLines, hf.constants, hf.typeName]
  simp only [List.append_assoc, List.cons_append, List.nil_append]

/-- The source is emitted. -/
theorem lines_source {f : Filling} {layout : Layout} {c : Context} (hf : f.Of layout c)
    (hne : layout.unit ≠ []) (hunit : IsMargin layout.unit) (hT : '\n' ∉ c.typeName)
    (harms : ∀ arm ∈ c.arms, '\n' ∉ arm.1) :
    ∃ code, Template.renderNamed shelf "class.py.j2" f.fields = .ok code ∧
      Nonempty (SourceLines f layout c code) := by
  obtain ⟨hTf, hnames⟩ := hf.single hT harms
  obtain ⟨front, hfront, first, above, habove⟩ := render_front hTf hnames
  obtain ⟨code, quiet, hcode, hquiet, hlines⟩ := lines_below hf hne hunit hT harms hfront
  refine ⟨code, hcode, ⟨⟨first :: above, quiet, ?_, hquiet⟩⟩⟩
  rw [hlines, habove]
  rfl

/-- The source gives back the arms both as cases and as constants. -/
theorem readClass_source {f : Filling} {layout : Layout} {c : Context} (hf : f.Of layout c)
    (hne : layout.unit ≠ []) (hunit : IsMargin layout.unit) (hT : IsName c.typeName)
    (hfits : ∀ arm ∈ c.arms, FitsVariant arm.1) (hown : ∀ arm ∈ c.arms, arm.1 ∉ ownNames) :
    ∃ code, Template.renderNamed shelf "class.py.j2" f.fields = .ok code ∧
      readClass c.typeName code = some
        ⟨c.arms.map Prod.swap, Table.ofPairs (c.arms.map fun arm => (arm.1, arm))⟩ := by
  obtain ⟨code, hcode, ⟨source⟩⟩ := lines_source hf hne hunit (lineFeed_not_mem_of_isName hT)
    fun arm harm => lineFeed_not_mem_of_isName (hfits arm harm).isName
  exact ⟨code, hcode, readClass_of_lines hne hunit hT hfits hown source.isQuiet source.lines⟩

end CatchAll.Target.Python
