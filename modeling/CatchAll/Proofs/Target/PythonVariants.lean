import CatchAll.Proofs.Target.PythonExample
import CatchAll.Proofs.Target.PythonRoundTrip

/-!
# The lists of variants of a Python class

The source of a class is taken apart at the last line that opens the conversion:
above it stand the documentation, the slots and what the class declares, below
it the cases, the other methods and the assignments. Each list of variants is
that of the context, whatever the documentation is.
-/

set_option autoImplicit false

namespace CatchAll.Target.Python

open scoped Text
open Naming Schema Outcome Emission

/-! ## Readers -/

def annotationMargin : Text := "    "

def commentHead : Text := "    \"\"\""

def annotationEnd (typeName : Text) : Text := ": ClassVar[" ++ (typeName ++ "]")

/-- The names that are annotated, up to an empty line. -/
def readAnnotations (typeName : Text) : List Text → Option (List Text)
  | [] => none
  | line :: rest =>
    if line = [] then some []
    else if commentHead.isPrefixOf line then readAnnotations typeName rest
    else do
      let (name, end_) := cutName (← line.dropPrefix? annotationMargin)
      if end_ = annotationEnd typeName then return name :: (← readAnnotations typeName rest)
      else none

/-- The documentation of a class, and what it declares below its slots. -/
def readFront (typeName code : Text) : Option (List Text × List Text) := do
  let (above, _) ← cutAtLast ("    " ++ fromStrHeader typeName) (Text.lines code)
  cutAtLast slotsLine above

/-- The variants that a class is declared with. -/
def readDeclared (typeName code : Text) : Option (List Arm) := do
  let (_, below) ← readFront typeName code
  return (← readAnnotations typeName (below.drop 1)).map .variant

/-- The cases of the match in the documentation of a class. -/
def readExample (typeName code : Text) : Option (List Arm) := do
  let (docs, _) ← readFront typeName code
  readExampleMatch typeName docs

/-- The cases of the conversion from a text. -/
def readConversion (typeName code : Text) : Option (Table Text) := do
  let rest ← afterLast ("    " ++ fromStrHeader typeName) (Text.lines code)
  readFromStr rest

/-- What the cases of the conversion from a text give. -/
def readConverted (typeName code : Text) : Option (List Arm) := do
  return (← readConversion typeName code).map (fun case_ => .variant case_.2) ++ [.catchAll]

/-- The constants, each with the name and the value that it is made with. -/
def readConstants (typeName code : Text) : Option (List (Text × (Text × Text))) := do
  let rest ← afterLast ("    " ++ fromStrHeader typeName) (Text.lines code)
  (rest.filter atMargin).mapM (readAssignment typeName)

/-- The variants that are assigned below a class. -/
def readAssigned (typeName code : Text) : Option (List Arm) := do
  return (← readConstants typeName code).map fun constant => .variant constant.1

/-- The list of all values. -/
def readValues (code : Text) : Option (List Text) := do
  let (_, below) ← cutAtLast valuesHeader (Text.lines code)
  let values ← (← (below.drop 1).head?).dropPrefix? valuesMargin
  readLiterals escapes ",)" values.length values

/-! ## What a class declares -/

theorem readAnnotations_comment (typeName docs : Text) (rest : List Text) :
    readAnnotations typeName ((commentHead ++ docs) :: rest) = readAnnotations typeName rest := by
  have hne : commentHead ≠ [] := List.cons_ne_nil _ _
  rw [readAnnotations, if_neg (List.append_ne_nil_of_left_ne_nil hne _),
    if_pos (List.isPrefixOf_iff_prefix.mpr (List.prefix_append _ _))]

theorem readAnnotations_classVar {typeName name : Text} (h : IsName name) (rest : List Text) :
    readAnnotations typeName (classVar typeName name :: rest) =
      (readAnnotations typeName rest).map (name :: ·) := by
  have hne : annotationMargin ≠ [] := List.cons_ne_nil _ _
  obtain ⟨x, more, hname⟩ := List.exists_cons_of_ne_nil h.ne_nil
  have hx : isNameChar x = true := h.chars x (hname ▸ List.mem_cons_self)
  have hnotComment : commentHead.isPrefixOf
      (annotationMargin ++ (name ++ annotationEnd typeName)) = false := by
    rw [Bool.eq_false_iff]
    intro hcomment
    obtain ⟨rest', hrest⟩ := List.isPrefixOf_iff_prefix.mp hcomment
    rw [hname] at hrest
    obtain rfl : '"' = x := Option.some.inj (congrArg (fun l : Text => l[4]?) hrest)
    exact absurd hx (by decide)
  have hboundary : ∀ y, (annotationEnd typeName).head? = some y → isNameChar y = false :=
    fun y hy => Option.some.inj hy ▸ rfl
  show readAnnotations typeName ((annotationMargin ++ (name ++ annotationEnd typeName)) :: rest) = _
  rw [readAnnotations, if_neg (List.append_ne_nil_of_left_ne_nil hne _), hnotComment,
    if_neg Bool.false_ne_true, dropPrefix?_append, Option.bind_eq_bind, Option.bind_some,
    cutName_append h.chars hboundary]
  dsimp only
  rw [if_pos rfl]
  cases readAnnotations typeName rest <;> rfl

theorem readAnnotations_variant {typeName : Text} {v : Option Text × Member}
    (h : IsName (v.2.identifier.getD [])) (rest : List Text) :
    readAnnotations typeName (annotationLines typeName v ++ rest) =
      (readAnnotations typeName rest).map (v.2.identifier.getD [] :: ·) := by
  have hcomments : readAnnotations typeName (commentLines (memberDocs v.1 v.2.deprecated) ++ rest) =
      readAnnotations typeName rest := by
    rw [commentLines]
    split
    · rfl
    · exact readAnnotations_comment typeName _ rest
  rw [annotationLines, List.cons_append, readAnnotations_classVar h, hcomments]

theorem readAnnotations_variants {typeName : Text} {variants : List (Option Text × Member)}
    (h : ∀ v ∈ variants, IsName (v.2.identifier.getD [])) (rest : List Text) :
    readAnnotations typeName (variants.flatMap (annotationLines typeName) ++ [] :: rest) =
      some (variants.map fun v => v.2.identifier.getD []) := by
  induction variants with
  | nil => rfl
  | cons v variants ih =>
    obtain ⟨hv, hvariants⟩ := List.forall_mem_cons.mp h
    rw [List.flatMap_cons, List.append_assoc, readAnnotations_variant hv, ih hvariants]
    rfl

/-! ## Below the slots -/

def catchAllFront : Text := "def " ++ catchAllName ++ "(cls, value: " ++ wrapperName ++ ") -> "

def catchAllHeader (typeName : Text) : Text := catchAllFront ++ typeName ++ ":"

def catchAllDocs : Text :=
  "\"\"\"``" ++ catchAllName ++
    "`` contains new variants that have been added since this code was generated.\"\"\""

def catchAllBody : Text := "return cls(" ++ literal catchAllName ++ ", value)"

theorem lines_membersText {layout : Layout} {c : Context} (hT : '\n' ∉ c.typeName)
    (hunit : '\n' ∉ layout.unit) : Text.lines (membersText layout c) =
      ("@classmethod" : Text) :: [catchAllHeader c.typeName, layout.unit ++ catchAllDocs,
        layout.unit ++ catchAllBody] := by
  have hclass : (Writer.start layout).write "@classmethod" =
      (Writer.start layout).append ["@classmethod".toList] :=
    Writer.write_line (by decide) (by decide)
  have hheader : '\n' ∉ catchAllHeader c.typeName := by
    have hfront : '\n' ∉ catchAllFront := by decide +kernel
    unfold catchAllHeader
    simp [hfront, hT]
  have hbody (w : Writer) : (w.write catchAllDocs).write catchAllBody =
      w.append [w.indentation ++ catchAllDocs, w.indentation ++ catchAllBody] := by
    have hdocs : w.write catchAllDocs = w.append [w.indentation ++ catchAllDocs] :=
      Writer.write_line (by decide +kernel) (by decide +kernel)
    have hreturn (w : Writer) : w.write catchAllBody = w.append [w.indentation ++ catchAllBody] :=
      Writer.write_line (by decide +kernel) (by decide +kernel)
    rw [hdocs, hreturn, Writer.append_append]
    rfl
  have hsuite (w : Writer) : suite w (catchAllHeader c.typeName)
      (fun w => (w.write catchAllDocs).write catchAllBody) =
      w.append [w.indentation ++ catchAllHeader c.typeName,
        w.layout.unit ++ w.indentation ++ catchAllDocs,
        w.layout.unit ++ w.indentation ++ catchAllBody] :=
    suite_eq hheader (Writer.shown_of_mem (c := 'd') List.mem_cons_self (by decide)) (hbody _)
  have hwritten : membersText layout c =
      ((Writer.start layout).append (("@classmethod" : Text) :: [catchAllHeader c.typeName,
        layout.unit ++ [] ++ catchAllDocs, layout.unit ++ [] ++ catchAllBody])).render := by
    show (suite ((Writer.start layout).write "@classmethod") (catchAllHeader c.typeName) fun w =>
      (w.write catchAllDocs).write catchAllBody).render = _
    rw [hclass, hsuite, Writer.append_append]
    rfl
  rw [hwritten, List.append_nil]
  refine Writer.lines_start_append layout (List.cons_ne_nil _ _) ?_
  simp only [List.forall_mem_cons]
  refine ⟨by decide, hheader, ?_, ?_, List.forall_mem_nil _⟩
  all_goals
    rw [List.mem_append, not_or]
    exact ⟨hunit, by decide +kernel⟩

theorem ne_slotsLine {l : Text} (h : l.head? ≠ some '_') : List.replicate 4 ' ' ++ l ≠ slotsLine := by
  intro heq
  refine h ?_
  rw [← @List.drop_left _ (List.replicate 4 ' ') l, heq]
  rfl

theorem slotsLine_not_mem_membersText {layout : Layout} {c : Context} (hT : '\n' ∉ c.typeName)
    (hne : layout.unit ≠ []) (hunit : IsMargin layout.unit) :
    slotsLine ∉ Text.lines (Template.indentLines 4 (membersText layout c)) := by
  have hinside (line : Text) : (layout.unit ++ line).head? ≠ some '_' := by
    obtain ⟨x, unit, hx⟩ := List.exists_cons_of_ne_nil hne
    rw [hx]
    intro hhead
    obtain rfl : x = '_' := Option.some.inj hhead
    exact absurd (hunit '_' (hx ▸ List.mem_cons_self)) (by decide)
  have hall : ∀ l ∈ Text.lines (membersText layout c), l.head? ≠ some '_' := by
    rw [lines_membersText hT (lineFeed_not_mem_margin hunit)]
    simp only [List.forall_mem_cons]
    exact ⟨by decide, fun h => absurd (Option.some.inj h) (by decide), hinside _, hinside _,
      List.forall_mem_nil _⟩
  rw [Template.lines_indentLines, List.mem_map]
  rintro ⟨line, hline, heq⟩
  split at heq
  · rename_i hblank
    rw [heq] at hblank
    exact absurd hblank (by decide +kernel)
  · exact ne_slotsLine (hall line hline) heq

/-- What a class declares below its slots. -/
def belowSlots (f : Filling) : List Text :=
  [] :: (f.variants.flatMap (annotationLines f.typeName) ++
    [] :: (initLines ++ [] :: Text.lines (Template.indentLines 4 f.members)))

theorem slotsLine_not_mem_belowSlots {f : Filling}
    (hmembers : slotsLine ∉ Text.lines (Template.indentLines 4 f.members)) :
    slotsLine ∉ belowSlots f ++ [[], "    @classmethod"] := by
  have hclassVar (v : Option Text × Member) : ∀ l ∈ annotationLines f.typeName v,
      l ≠ slotsLine := by
    refine List.forall_mem_cons.mpr ⟨?_, ?_⟩
    · have hcolon : ':' ∈ classVar f.typeName (v.2.identifier.getD []) := by
        unfold classVar
        simp
      intro heq
      rw [heq] at hcolon
      exact absurd hcolon (by decide +kernel)
    · rw [commentLines]
      split
      · exact List.forall_mem_nil _
      · rw [List.forall_mem_singleton]
        exact ne_slotsLine (l := "\"\"\"" ++ _) (fun h => absurd (Option.some.inj h) (by decide))
  have hinit : ∀ l ∈ initLines, l ≠ slotsLine := by decide +kernel
  have hall : ∀ l ∈ belowSlots f ++ [[], "    @classmethod"], l ≠ slotsLine := by
    simp only [belowSlots, List.forall_mem_append, List.forall_mem_cons]
    refine ⟨⟨by decide, fun l hl => ?_, by decide, hinit, by decide, fun l hl heq => ?_⟩, by decide,
      by decide +kernel, List.forall_mem_nil _⟩
    · obtain ⟨v, -, hl⟩ := List.mem_flatMap.mp hl
      exact hclassVar v l hl
    · exact hmembers (heq ▸ hl)
  exact fun hmem => hall _ hmem rfl

/-! ## Reading the lists -/

section

variable {f : Filling} {layout : Layout} {c : Context} {code : Text}
  (src : SourceLines f layout c code) (hf : f.Of layout c) (hT : IsName c.typeName)
  (hfits : ∀ arm ∈ c.arms, FitsVariant arm.1) (hne : layout.unit ≠ [])
  (hunit : IsMargin layout.unit)
include src hT hfits hne hunit

theorem readFront_of_lines
    (hmembers : slotsLine ∉ Text.lines (Template.indentLines 4 f.members)) :
    readFront c.typeName code = some (src.above ++ (documentationLines f.docs ++ [docsEnd, []]),
      belowSlots f ++ [[], "    @classmethod"]) := by
  have hbelow := header_not_mem hT (List.forall_mem_append.mpr
    ⟨quietLine_methodBody hne hunit hT hfits, src.isQuiet⟩) c.arms
  rw [List.append_assoc] at hbelow
  have hfront : src.above ++ (documentationLines f.docs ++ declaredLines f) ++
      [[], "    @classmethod"] = (src.above ++ (documentationLines f.docs ++ [docsEnd, []])) ++
        slotsLine :: (belowSlots f ++ [[], "    @classmethod"]) := by
    unfold declaredLines belowSlots
    simp only [List.append_assoc, List.cons_append, List.nil_append]
  rw [readFront, src.lines, cutAtLast_append hbelow, Option.bind_eq_bind, Option.bind_some]
  dsimp only
  rw [hfront, cutAtLast_append (slotsLine_not_mem_belowSlots hmembers)]

theorem readBelow_of_lines :
    afterLast ("    " ++ fromStrHeader c.typeName) (Text.lines code) =
      some ((methodBody layout.unit c).map (List.replicate 4 ' ' ++ ·) ++
        ((src.quiet ++ valuesLines f) ++ (c.arms.map (assignment c.typeName) ++ [[]]))) := by
  have hbelow := header_not_mem hT (List.forall_mem_append.mpr
    ⟨quietLine_methodBody hne hunit hT hfits, src.isQuiet⟩) c.arms
  rw [List.append_assoc] at hbelow
  rw [src.lines, afterLast_append hbelow]

theorem readConversion_of_lines :
    readConversion c.typeName code = some (c.arms.map Prod.swap) := by
  rw [readConversion, readBelow_of_lines src hT hfits hne hunit, Option.bind_eq_bind,
    Option.bind_some, readFromStr_methodBody isMargin_four hunit hT.chars hfits]

theorem readConstants_of_lines :
    readConstants c.typeName code = some (c.arms.map fun arm => (arm.1, arm)) := by
  have hfilter := filter_atMargin hT (List.forall_mem_append.mpr
    ⟨quietLine_methodBody hne hunit hT hfits, src.isQuiet⟩) c.arms
  rw [List.append_assoc] at hfilter
  rw [readConstants, readBelow_of_lines src hT hfits hne hunit, Option.bind_eq_bind,
    Option.bind_some, hfilter]
  exact mapM_readAssignment c.typeName fun arm harm => (hfits arm harm).isName

include hf in
theorem readDeclared_of_lines
    (hmembers : slotsLine ∉ Text.lines (Template.indentLines 4 f.members)) :
    readDeclared c.typeName code = some (c.variants.map .variant) := by
  have hnames : f.variants.map (fun v => v.2.identifier.getD []) = c.variants := by
    rw [← c.keys_arms, ← hf.constants, Filling.constants, Table.keys, List.map_map]
    rfl
  have hall : ∀ v ∈ f.variants, IsName (v.2.identifier.getD []) := by
    intro v hv
    refine (hfits (v.2.identifier.getD [], v.2.value) ?_).isName
    rw [← hf.constants]
    exact List.mem_map_of_mem hv
  have hread := @readAnnotations_variants f.typeName _ hall
    (initLines ++ [] :: Text.lines (Template.indentLines 4 f.members) ++ [[], "    @classmethod"])
  have hdrop : (belowSlots f ++ [[], "    @classmethod"]).drop 1 =
      f.variants.flatMap (annotationLines f.typeName) ++ [] ::
        (initLines ++ [] :: Text.lines (Template.indentLines 4 f.members) ++
          [[], "    @classmethod"]) := by
    rw [belowSlots, List.cons_append, List.drop_succ_cons, List.drop_zero, List.append_assoc]
    rfl
  rw [readDeclared, readFront_of_lines src hT hfits hne hunit hmembers, Option.bind_eq_bind,
    Option.bind_some]
  dsimp only
  rw [hdrop, ← hf.typeName, hread, hnames]
  rfl

theorem readExample_of_lines {case : Case} (hd : f.Describes layout case c)
    (hmark : layout.docMark = []) (hvariants : ∀ v ∈ c.variants, IsName v)
    (hmembers : slotsLine ∉ Text.lines (Template.indentLines 4 f.members)) :
    readExample c.typeName code =
      some (c.variants.map .variant ++ [.guard (placeholder case c.members), .default]) := by
  obtain ⟨documentation, hdocs⟩ := hd.docs
  obtain ⟨own, hown⟩ := @lines_classDocs layout c case hT hvariants hmark hunit documentation
  have htitle : exampleHeadline ∈ docsLines layout.unit case c :=
    List.mem_append_right _ (List.mem_cons_of_mem _ List.mem_cons_self)
  have hshown : f.docs ≠ [] := by
    intro hnil
    rw [← hdocs, hnil] at hown
    have hmem := List.mem_append_right own (List.mem_map_of_mem (f := inClass) htitle)
    rw [← hown] at hmem
    exact absurd hmem (by decide +kernel)
  have hlines : src.above ++ (documentationLines f.docs ++ [docsEnd, []]) =
      (src.above ++ own) ++ ((docsLines layout.unit case c).map inClass ++ [docsEnd, []]) := by
    rw [documentationLines, if_neg hshown, hdocs, hown]
    simp only [List.append_assoc]
  rw [readExample, readFront_of_lines src hT hfits hne hunit hmembers, Option.bind_eq_bind,
    Option.bind_some]
  dsimp only
  rw [hlines]
  exact readExampleMatch_docs hT hvariants hne hunit _ (by decide +kernel)

end

theorem valuesHeader_not_mem {c : Context} (hT : IsName c.typeName) (f : Filling) :
    valuesHeader ∉ (valuesLines f).tail ++ (c.arms.map (assignment c.typeName) ++ [[]]) := by
  have hother {l : Text} (h : ("    def v" : Text).isPrefixOf l = false) : l ≠ valuesHeader := by
    rintro rfl
    exact absurd h (by decide +kernel)
  have hmargin {l : Text} (h : atMargin l = true) : l ≠ valuesHeader := by
    rintro rfl
    exact absurd h (by decide +kernel)
  have hall : ∀ l ∈ (valuesLines f).tail ++ (c.arms.map (assignment c.typeName) ++ [[]]),
      l ≠ valuesHeader := by
    simp only [valuesLines, List.tail_cons, objectLines, List.forall_mem_append,
      List.forall_mem_cons, List.forall_mem_map]
    refine ⟨⟨hother rfl, hother rfl, hother rfl, hother rfl, hother rfl, hother rfl, hother rfl,
      hother rfl, hother rfl, hother rfl, hother rfl, hother rfl, hother rfl, hother rfl, hother rfl,
      hother rfl, hother rfl, hother rfl, hother rfl, hother rfl, hother rfl, hother rfl, hother rfl,
      hother rfl, hother rfl, List.forall_mem_nil _⟩, fun arm _ => ?_, hother rfl,
      List.forall_mem_nil _⟩
    exact hmargin (atMargin_assignment hT arm)
  exact fun hmem => hall _ hmem rfl

/-- The list of all values is the last of its kind. -/
theorem readValues_of_lines {f : Filling} {layout : Layout} {c : Context} {code : Text}
    (src : SourceLines f layout c code) (hf : f.Of layout c) (hT : IsName c.typeName)
    (hvalues : c.values ≠ []) : readValues code = some c.values := by
  have hlines : Text.lines code =
      (((src.above ++ (documentationLines f.docs ++ declaredLines f) ++ [[], "    @classmethod"]) ++
        ("    " ++ fromStrHeader c.typeName) ::
          ((methodBody layout.unit c).map (List.replicate 4 ' ' ++ ·) ++ src.quiet))) ++
        valuesHeader :: ((valuesLines f).tail ++ (c.arms.map (assignment c.typeName) ++ [[]])) := by
    rw [src.lines]
    simp only [valuesLines, List.tail_cons, List.append_assoc, List.cons_append]
  have hrest : (((valuesLines f).tail ++ (c.arms.map (assignment c.typeName) ++ [[]])).drop
      1).head? = some (valuesMargin ++ (Text.joinWith ", " (c.values.map literal) ++ ",)")) := by
    rw [← hf.values]
    rfl
  rw [readValues, hlines, cutAtLast_append (valuesHeader_not_mem hT f), Option.bind_eq_bind,
    Option.bind_some]
  dsimp only
  rw [hrest, Option.bind_eq_bind, Option.bind_some, dropPrefix?_append]
  exact readLiterals_joinWith unquote?_literal (by decide) hvalues

/-- What is read from the class that is emitted for a context. -/
structure Shows (code : Text) (case : Case) (c : Context) : Prop where
  declared : readDeclared c.typeName code = some (c.variants.map .variant)
  assigned : readAssigned c.typeName code = some (c.variants.map .variant)
  converted : readConverted c.typeName code = some (c.variants.map .variant ++ [.catchAll])
  documented : readExample c.typeName code =
    some (c.variants.map .variant ++ [.guard (placeholder case c.members), .default])
  cases : readConversion c.typeName code = some (c.arms.map Prod.swap)
  constants : readConstants c.typeName code = some (c.arms.map fun arm => (arm.1, arm))
  values : readValues code = some c.values

/-- How the class of a context is made: what fills the template, and the lines that come of it. -/
structure Made (p : Plan) (c : Context) (f : Filling) (layout : Layout) (code : Text) : Prop where
  filling : f.Of layout c
  describes : f.Describes layout p.settings.variantCase c
  plans : p.layout = .ok layout
  docMark : layout.docMark = p.docMark
  unit_ne_nil : layout.unit ≠ []
  isMargin : IsMargin layout.unit
  typeName : IsName c.typeName
  fits : ∀ arm ∈ c.arms, FitsVariant arm.1
  rendered : Template.renderNamed shelf "class.py.j2" f.fields = .ok code
  source : Nonempty (SourceLines f layout c code)

theorem single_made {config : Config} {p : Plan} {d : Definition} {code : Text}
    {register register' : Register} {j j' : Journal} (hp : backend.Plans config p)
    (h : (single p d).run register j = ((.ok code, register'), j')) :
    ∃ c f layout, c.Of p d ∧ Made p c f layout code := by
  have hpolicy : p.policy = .python := hp.policy
  have hv : p.memberVocabulary.EndsInLetters := hp.memberVocabulary ▸ endsInLetters_pythonMembers
  obtain ⟨c, hc, register₁, j₁, hclass⟩ := single_ok hv hpolicy h
  obtain ⟨f, layout, hf, hd, hlayout, hcode⟩ := classText_made hpolicy hp.shelf hclass
  obtain ⟨hne, hmargin, hmark⟩ := layout_margin hp hlayout
  have hT := isName_typeName hp hc
  have hfits := fits_arms hp hc
  obtain ⟨code', hcode', source⟩ := lines_source hf hne hmargin (lineFeed_not_mem_of_isName hT)
    fun arm harm => lineFeed_not_mem_of_isName (hfits arm harm).isName
  obtain rfl : code = code' := Except.ok.inj (hcode.symm.trans hcode')
  exact ⟨c, f, _, hc, hf, hd, hlayout, hmark.trans hp.docMark.symm, hne, hmargin, hT, hfits,
    hcode, source⟩

theorem shows_of_single {config : Config} {p : Plan} {d : Definition} {code : Text}
    {register register' : Register} {j j' : Journal} (hp : backend.Plans config p)
    (h : (single p d).run register j = ((.ok code, register'), j')) :
    ∃ c, c.Of p d ∧ Shows code p.settings.variantCase c := by
  obtain ⟨c, f, layout, hc, hmade⟩ := single_made hp h
  obtain ⟨src⟩ := hmade.source
  have hT := hmade.typeName
  have hmembers : slotsLine ∉ Text.lines (Template.indentLines 4 f.members) := by
    rw [hmade.describes.members]
    exact slotsLine_not_mem_membersText (lineFeed_not_mem_of_isName hT) hmade.unit_ne_nil
      hmade.isMargin
  have hconstants := readConstants_of_lines src hT hmade.fits hmade.unit_ne_nil hmade.isMargin
  have hcases := readConversion_of_lines src hT hmade.fits hmade.unit_ne_nil hmade.isMargin
  refine ⟨c, hc, readDeclared_of_lines src hmade.filling hT hmade.fits hmade.unit_ne_nil
    hmade.isMargin hmembers, ?_, ?_, readExample_of_lines src hT hmade.fits hmade.unit_ne_nil
    hmade.isMargin hmade.describes (hmade.docMark.trans hp.docMark) hc.isName_variants hmembers,
    hcases, hconstants, readValues_of_lines src hmade.filling hT hc.values_ne_nil⟩
  · rw [readAssigned, hconstants, ← c.keys_arms]
    simp [Table.keys]
  · rw [readConverted, hcases, ← c.keys_arms]
    simp [Table.keys]

end CatchAll.Target.Python
