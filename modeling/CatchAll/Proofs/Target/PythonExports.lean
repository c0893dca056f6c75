import CatchAll.Proofs.Target.PythonHeader

/-!
# The classes and the exports of a Python module

All that a class has in it is indented, and the assignments below it begin with its name,
so the code of an enum declares one class and so does the wrapper. The list of exports is
the last part of the module, and names the classes in their order.
-/

set_option autoImplicit false

namespace CatchAll.Target.Python

open scoped Text Template
open Naming Schema Outcome Emission
open Template (Slot render render_lit render_text render_each render_cond lines_named lines_flatten)

variable {config : Config} {p : Plan} {d : Definition} {c : Context}

/-! ## Reading the exports -/

def exportsHeader : Text := "__all__ = ["

def exportMargin : Text := "    \""

def exportEnd : Text := "\","

def exportsEnd : Text := "]"

def readExport (line : Text) : Option Text := do
  let (name, rest) := cutName (← line.dropPrefix? exportMargin)
  if rest = exportEnd then return name else none

/-- The names that a module exports. -/
def readExports (code : Text) : Option (List Text) := do
  let rest ← afterLast exportsHeader (Text.lines code)
  (rest.takeWhile (· ≠ exportsEnd)).mapM readExport

/-! ## Lines that declare no class -/

theorem className?_of_margin {line : Text} (h : atMargin line = false) : className? line = none := by
  refine className?_of_head fun hhead => ?_
  rw [atMargin, hhead] at h
  exact absurd h (by decide)

theorem className?_assignment {typeName : Text} (hT : IsName typeName) (arm : Text × Text) :
    className? (assignment typeName arm) = none := by
  rw [className?, Option.map_eq_none_iff]
  cases hdrop : (assignment typeName arm).dropPrefix? classKeyword with
  | none => rfl
  | some rest =>
    -- the name ends at a dot, and the keyword at a blank
    obtain ⟨front, hline, hfront⟩ := List.dropPrefix?_eq_some_iff.mp hdrop
    obtain rfl : front = classKeyword := beq_iff_eq.mp hfront
    have hname : cutName (assignment typeName arm) =
        (typeName, '.' :: (arm.1 ++ made typeName arm)) := by
      rw [assignment, show (typeName ++ ".".toList) = typeName ++ ['.'] from rfl, List.append_assoc]
      exact cutName_append hT.chars fun c hc => Option.some.inj hc ▸ rfl
    have hchars : ∀ c ∈ "class".toList, isNameChar c = true := List.all_eq_true.mp rfl
    have hkeyword : cutName (classKeyword ++ rest) = ("class".toList, ' ' :: rest) :=
      cutName_append hchars fun c hc => Option.some.inj hc ▸ rfl
    rw [hline, hkeyword] at hname
    exact absurd (congrArg (fun cut => cut.2.head?) hname) (by simp)

theorem className?_header {typeName : Text} (hT : IsName typeName) :
    className? (classKeyword ++ (typeName ++ ":")) = some typeName := by
  have hend : ∀ c, (":" : Text).head? = some c → isNameChar c = false :=
    fun c hc => Option.some.inj hc ▸ rfl
  rw [className?, dropPrefix?_append, Option.map_some, cutName_append hT.chars hend]

theorem not_atMargin_indentLines {width : Nat} (hwidth : width ≠ 0) (t : Text) :
    ∀ l ∈ Text.lines (Template.indentLines width t), atMargin l = false := by
  rw [Template.lines_indentLines, List.forall_mem_map]
  intro line _
  split
  · exact not_atMargin_of_quietLine (quietLine_of_blank ‹_›)
  · obtain ⟨n, rfl⟩ := Nat.exists_eq_succ_of_ne_zero hwidth
    rfl

/-! ## The class of an enum -/

/-- Decorators stand on lines of their own. -/
theorem lines_decorators {names : List Text} {metadata : Text}
    (h : (Decoration.decorators names).render = .ok metadata) :
    ∃ head, (∀ l ∈ head, l.head? = some '@' ∧ '\n' ∉ l) ∧
      ∀ t, Text.lines (metadata ++ t) = head ++ Text.lines t := by
  have hknown : ∀ name ∈ decoratorImports.map (·.2), '\n' ∉ name := by decide
  obtain ⟨written, hwritten, hdone⟩ := bind_eq_ok.mp h
  obtain rfl := Except.ok.inj hdone
  have hsingle : ∀ name ∈ written, '\n' ∉ "@".toList ++ name := by
    intro name hname
    obtain ⟨decorator, -, hlook⟩ := mem_of_mapM_ok hwritten hname
    rw [List.mem_append, not_or]
    exact ⟨by decide, hknown name (mem_of_lookUp hlook)⟩
  refine ⟨written.map ("@".toList ++ ·), List.forall_mem_map.mpr fun name hname =>
    ⟨rfl, hsingle name hname⟩, fun t => ?_⟩
  rw [List.flatMap_def]
  exact Template.lines_flatten _ hsingle rfl

theorem lineFeed_not_mem_summary (documentation : Option Text) : '\n' ∉ summary documentation := by
  cases documentation with
  | none => decide +kernel
  | some t =>
    intro hmem
    rcases mem_docstring hmem with hmem | hmem | hmem
    · obtain ⟨first, rest, hlines⟩ := List.exists_cons_of_ne_nil (Text.lines_ne_nil (Text.strip t))
      rw [hlines] at hmem
      exact Text.lineFeed_not_mem_line (hlines ▸ List.mem_cons_self) hmem
    · cases hmem
    · cases hmem

theorem not_atMargin_declaredLines (f : Filling) : ∀ l ∈ declaredLines f, atMargin l = false := by
  simp only [declaredLines, initLines, annotationLines, List.forall_mem_cons,
    List.forall_mem_append, List.forall_mem_flatMap]
  refine ⟨rfl, rfl, rfl, rfl, fun v _ => ⟨rfl, ?_⟩, rfl, ⟨rfl, rfl, rfl, List.forall_mem_nil _⟩, rfl,
    not_atMargin_indentLines (by decide) f.members⟩
  rw [commentLines]
  split
  · exact List.forall_mem_nil _
  · exact List.forall_mem_singleton.mpr rfl

theorem lines_documentationBlock (docs : Text) : ∃ block, (∀ l ∈ block, atMargin l = false) ∧
    ∀ t, Text.lines (documentationBlock docs ++ t) = block ++ Text.lines t := by
  rw [documentationBlock]
  split
  · exact ⟨[], List.forall_mem_nil _, fun _ => rfl⟩
  · refine ⟨[] :: Text.lines (Template.indentLines 4 docs), List.forall_mem_cons.mpr
      ⟨rfl, not_atMargin_indentLines (by decide) docs⟩, fun t => ?_⟩
    have hempty : Template.isLine [] "\n" = true := by decide
    rw [List.append_assoc, List.append_assoc]
    exact Template.lines_lit hempty (Text.lines_append_lineFeed _ t)

def docsStart : Text := "    \"\"\""

/-- Below its header a class has no line at the margin, up to the assignments. -/
theorem lines_class {names : List Text} {f : Filling} {layout : Layout} {body : Text}
    (hmade : Made p c f layout body) (hdecoration : c.decoration = some (.decorators names)) :
    ∃ head below, (∀ l ∈ head, l.head? = some '@') ∧ (∀ l ∈ below, atMargin l = false) ∧
      Text.lines body = head ++ (classKeyword ++ (c.typeName ++ ":")) ::
        (below ++ (c.arms.map (assignment c.typeName) ++ [[]])) := by
  have hT := lineFeed_not_mem_of_isName hmade.typeName
  have harms : ∀ arm ∈ c.arms, '\n' ∉ arm.1 :=
    fun arm harm => lineFeed_not_mem_of_isName (hmade.fits arm harm).isName
  obtain ⟨hTf, hnames⟩ := hmade.filling.single hT harms
  obtain ⟨head, hhead, hmetadata⟩ := lines_decorators (hmade.describes.decorated _ hdecoration)
  obtain ⟨documentation, hsummary⟩ := hmade.describes.headed
  obtain ⟨declared, hdeclared, hfront⟩ := render_head hTf hnames
  obtain ⟨code, quiet, hcode, hquiet, hlines⟩ := lines_below hmade.filling hmade.unit_ne_nil
    hmade.isMargin hT harms hfront
  obtain rfl : body = code := Except.ok.inj (hmade.rendered.symm.trans hcode)
  have hsingle : '\n' ∉ f.summary := hsummary ▸ lineFeed_not_mem_summary documentation
  obtain ⟨block, hblock, hdocs⟩ := lines_documentationBlock f.docs
  have htop : Text.lines (f.metadata ++ ("class " ++ (f.typeName ++ (":\n" ++ ("    \"\"\"" ++
      (f.summary ++ ("\n" ++ (documentationBlock f.docs ++ declared)))))))) =
      head ++ (classKeyword ++ (f.typeName ++ ":")) :: (docsStart ++ (f.summary ++ [])) ::
        (block ++ declaredLines f) := by
    rw [hmetadata, ← hdeclared, ← hdocs]
    have hcolon : Template.isLine ":" ":\n" = true := by decide
    refine congrArg (head ++ ·) (Template.lines_named (by decide) hTf hcolon ?_)
    · exact Template.lines_named (by decide) hsingle (by decide) rfl
  have hbody := quietLine_methodBody hmade.unit_ne_nil hmade.isMargin hmade.typeName hmade.fits
  refine ⟨head, (docsStart ++ (f.summary ++ [])) :: (block ++ (declaredLines f ++
    ([[], "    @classmethod"] ++ ("    " ++ fromStrHeader c.typeName) ::
      ((methodBody layout.unit c).map (List.replicate 4 ' ' ++ ·) ++ (quiet ++ valuesLines f))))),
    fun l hl => (hhead l hl).1, ?_, ?_⟩
  · have hconversion : ∀ l ∈ (methodBody layout.unit c).map (List.replicate 4 ' ' ++ ·) ++
        (quiet ++ valuesLines f), atMargin l = false := fun l hl =>
      not_atMargin_of_quietLine (List.forall_mem_append.mpr ⟨hbody, hquiet⟩ l hl)
    refine List.forall_mem_cons.mpr ⟨rfl, List.forall_mem_append.mpr ⟨hblock, ?_⟩⟩
    refine List.forall_mem_append.mpr ⟨not_atMargin_declaredLines f, ?_⟩
    exact List.forall_mem_append.mpr ⟨by decide, List.forall_mem_cons.mpr ⟨rfl, hconversion⟩⟩
  · rw [hlines, htop, hmade.filling.typeName]
    simp only [List.append_assoc, List.cons_append, List.nil_append]

/-- The code of an enum declares its class. -/
theorem readLines_class {names : List Text} {f : Filling} {layout : Layout} {body : Text}
    (hmade : Made p c f layout body) (hdecoration : c.decoration = some (.decorators names)) :
    readLines className? body = [c.typeName] := by
  obtain ⟨head, below, hhead, hbelow, hlines⟩ := lines_class hmade hdecoration
  refine readLines_one hlines (className?_header hmade.typeName)
    (fun l hl => className?_of_head (by simp [hhead l hl])) ?_
  rw [List.forall_mem_append, List.forall_mem_append, List.forall_mem_map]
  exact ⟨fun l hl => className?_of_margin (hbelow l hl),
    fun arm _ => className?_assignment hmade.typeName arm, by decide⟩

/-! ## The wrapper -/

/-- The method that shows what the wrapper holds. -/
def wrapperMethod (w : Writer) : Writer :=
  suite w "def _as_str(self) -> str:" fun w =>
    (w.write "# Private: code outside this module must not read the wrapped string").write
      "return self._value"

/-- What the wrapper has in it. -/
def wrapperBody (w : Writer) : Writer :=
  (wrapperMethod (w.write wrapperInit).blank).blank.write wrapperMethods

theorem below_wrapperMethod {w : Writer} (hlevel : w.level ≠ 0) (hunit : '\n' ∉ w.layout.unit) :
    Writer.Below w (wrapperMethod w) := by
  unfold wrapperMethod suite
  refine Writer.below_block hlevel hunit _ none fun v hlayout hv => ?_
  have hunit : '\n' ∉ v.layout.unit := by rwa [hlayout]
  exact (Writer.below_write hv hunit _).trans
    (Writer.below_write (w := v.write _) hv hunit _)

theorem below_wrapperBody {w : Writer} (hlevel : w.level ≠ 0) (hunit : '\n' ∉ w.layout.unit) :
    Writer.Below w (wrapperBody w) := by
  have hinit := (Writer.below_write hlevel hunit wrapperInit).trans (Writer.below_blank _)
  unfold wrapperBody
  generalize (w.write wrapperInit).blank = v at hinit ⊢
  have hmethod := below_wrapperMethod (w := v) (by rwa [hinit.level]) (by rwa [hinit.layout])
  have hopened := (hinit.trans hmethod).trans (Writer.below_blank _)
  generalize (wrapperMethod v).blank = u at hopened ⊢
  exact hopened.trans
    (Writer.below_write (by rwa [hopened.level]) (by rwa [hopened.layout]) wrapperMethods)

def wrapperHeader : Text := classKeyword ++ (wrapperName ++ ":")

theorem lines_wrapperText {names : List Text} {metadata : Text} {layout : Layout}
    (hunit : '\n' ∉ layout.unit) (h : (Decoration.decorators names).render = .ok metadata) :
    ∃ head below, (∀ l ∈ head, l.head? = some '@') ∧
      (∀ l ∈ below, Writer.Inside layout.unit l) ∧
      Text.lines (wrapperText layout metadata) = head ++ wrapperHeader :: below := by
  obtain ⟨head, hhead, hmetadata⟩ := lines_decorators h
  have htitle : metadata ++ "class " ++ wrapperName ++ ":" = metadata ++ wrapperHeader := by
    rw [wrapperHeader, classKeyword]
    simp only [List.append_assoc]
  have hlines : Text.lines (metadata ++ wrapperHeader) = head ++ [wrapperHeader] := by
    rw [hmetadata, Text.lines_of_single (by decide)]
  have hshown : ∀ l ∈ Text.lines (metadata ++ wrapperHeader),
      ∃ c, l.head? = some c ∧ Text.isBlank c = false := by
    rw [hlines, List.forall_mem_append, List.forall_mem_singleton]
    exact ⟨fun l hl => ⟨'@', (hhead l hl).1, by decide⟩, 'c', rfl, by decide⟩
  have hwritten := Writer.write_shown (w := Writer.start layout) rfl hshown
  rw [hlines] at hwritten
  obtain ⟨below, hbelow, hinside⟩ := (below_wrapperBody
    (w := ((Writer.start layout).append (head ++ [wrapperHeader])).enter)
    (Nat.succ_ne_zero _) hunit).lines
  have hrender : wrapperText layout metadata =
      Text.unlines (wrapperBody ((Writer.start layout).append
        (head ++ [wrapperHeader])).enter).lines := by
    rw [← hwritten, ← htitle]
    rfl
  have hsingle : ∀ l ∈ (head ++ [wrapperHeader]) ++ below, '\n' ∉ l := by
    rw [List.forall_mem_append, List.forall_mem_append, List.forall_mem_singleton]
    exact ⟨⟨fun l hl => (hhead l hl).2, by decide⟩, fun l hl => (hinside l hl).2⟩
  refine ⟨head, below, fun l hl => (hhead l hl).1, hinside, ?_⟩
  rw [hrender, hbelow]
  exact (Text.lines_unlines _ (by simp) hsingle).trans (by simp)

/-- The wrapper declares its own class. -/
theorem readLines_wrapperText {names : List Text} {metadata : Text} {layout : Layout}
    (hne : layout.unit ≠ []) (hunit : IsMargin layout.unit)
    (h : (Decoration.decorators names).render = .ok metadata) :
    readLines className? (wrapperText layout metadata) = [wrapperName] := by
  obtain ⟨head, below, hhead, hbelow, hlines⟩ :=
    lines_wrapperText (lineFeed_not_mem_margin hunit) h
  exact readLines_one hlines (by decide +kernel)
    (fun l hl => className?_of_head (by simp [hhead l hl]))
    fun l hl => className?_of_head (head?_of_inside hne hunit (hbelow l hl) (by decide))

/-! ## The footer -/

def exportLine (name : Text) : Text := exportMargin ++ (name ++ exportEnd)

def exportLines (names : List Text) : List Text :=
  exportsHeader :: (names.map exportLine ++ [exportsEnd])

theorem render_footer {names : List Text} (hnames : ∀ name ∈ names, '\n' ∉ name) :
    ∃ t, Template.renderNamed shelf "footer.py.j2" [("exports", Json.strings names)] = .ok t ∧
      Text.lines t = exportLines names := by
  have hrounds : (names.map Json.str).mapM (fun item =>
      render false (("name", item) :: [("exports", Json.strings names)])
        [.lit "    \"", .put "name", .lit "\",\n"]) =
      .ok (names.map fun name => exportLine name ++ ['\n']) := by
    rw [mapM_eq_ok, List.forall₂_map_left_iff, List.forall₂_map_right_iff, List.forall₂_same]
    intro name _
    have hround : render false (("name", .str name) :: [("exports", Json.strings names)])
        [.lit "    \"", .put "name", .lit "\",\n"] =
        .ok (exportMargin ++ (name ++ "\",\n".toList)) :=
      render_lit _ (render_text rfl (Template.render_last _))
    have hend : "\",\n".toList = exportEnd ++ ['\n'] := by decide
    rw [hround, hend, exportLine, List.append_assoc, List.append_assoc]
  have hsingle : ∀ name ∈ names, '\n' ∉ exportLine name := by
    intro name hname
    unfold exportLine exportMargin exportEnd
    simp [hnames name hname]
  refine ⟨_, Template.renderNamed_of_render rfl (by decide) rfl <|
    render_lit _ <| render_each rfl hrounds <| Template.render_last _, ?_⟩
  exact Template.lines_lit (by decide) (lines_flatten exportLine hsingle (by decide))

/-- What the footer exports: the enums and, if the module has it, the wrapper. -/
def exported (p : Plan) (enums : List Definition) (register : Register) : List Text :=
  enums.map (fun d => p.typeName d.name) ++
    if register.isDefined p.module.shown wrapperName then [wrapperName] else []

theorem footer_made (hp : backend.Plans config p) {enums : List Definition}
    {register register' : Register} {j j' : Journal} {t : Text}
    (hnames : ∀ name ∈ exported p enums register, IsName name)
    (h : (footer p enums).run register j = ((.ok t, register'), j')) :
    Text.lines t = exportLines (exported p enums register) := by
  obtain ⟨_, _, _, hget, h⟩ := run_bind_ok.mp h
  cases hget
  obtain ⟨key, _, _, hkey, h⟩ := run_bind_ok.mp h
  obtain rfl := moduleKey_ok (run_ofOutside_ok.mp hkey).1
  have hexports : exported p enums register =
      if register.isDefined p.module.shown wrapperName then
        enums.map (fun d => p.typeName d.name) ++ [wrapperName]
      else enums.map fun d => p.typeName d.name := by
    rw [exported]
    split
    · rfl
    · exact List.append_nil _
  obtain ⟨footer, hfooter, hlines⟩ :=
    render_footer fun name hname => lineFeed_not_mem_of_isName (hnames name hname)
  have hfilled := (run_ofTemplate_ok.mp h).1
  rw [hp.shelf, ← hexports] at hfilled
  rw [← hlines, Except.ok.inj (hfilled.symm.trans hfooter)]

theorem readExport_exportLine {name : Text} (h : IsName name) :
    readExport (exportLine name) = some name := by
  have hend : ∀ c, exportEnd.head? = some c → isNameChar c = false :=
    fun c hc => Option.some.inj hc ▸ rfl
  rw [readExport, exportLine, dropPrefix?_append, Option.bind_eq_bind, Option.bind_some,
    cutName_append h.chars hend]
  exact if_pos rfl

/-- The exports are found at the end of a module. -/
theorem readExports_of_footer {names : List Text} (hnames : ∀ name ∈ names, IsName name)
    {footer : Text} (h : Text.lines footer = exportLines names) (parts : List Text) :
    readExports (Text.joinWith "\n\n" (parts ++ [footer]) ++ "\n") = some names := by
  obtain ⟨before, hlines⟩ := lines_last_part parts footer
  have hinside (name : Text) : exportLine name ≠ exportsHeader ∧ exportLine name ≠ exportsEnd := by
    have hhead : (exportLine name).head? = some ' ' := rfl
    constructor
    all_goals
      intro heq
      rw [heq] at hhead
      exact absurd hhead (by decide)
  have hheader : exportsHeader ∉ names.map exportLine ++ [exportsEnd] ++ [[]] := by
    simp only [List.mem_append, List.mem_map, List.mem_singleton, not_or, not_exists, not_and]
    exact ⟨⟨fun name _ => (hinside name).1, by decide⟩, by decide⟩
  have hnamed : (names.map exportLine ++ [exportsEnd] ++ [[]]).takeWhile (· ≠ exportsEnd) =
      names.map exportLine := by
    rw [List.append_assoc]
    refine takeWhile_ne (fun hmem => ?_) [[]]
    obtain ⟨name, -, heq⟩ := List.mem_map.mp hmem
    exact (hinside name).2 heq
  rw [readExports, hlines, h, exportLines, List.cons_append, afterLast_append hheader,
    Option.bind_eq_bind, Option.bind_some, hnamed,
    mapM_map_of_forall fun name hname => readExport_exportLine (hnames name hname), List.map_id']

/-- The list of exports declares no class. -/
theorem readLines_footer {names : List Text} {footer : Text}
    (h : Text.lines footer = exportLines names) : readLines className? footer = [] := by
  rw [readLines, h, List.filterMap_eq_nil_iff, exportLines]
  simp only [List.forall_mem_cons, List.forall_mem_append, List.forall_mem_map]
  exact ⟨by decide, fun name _ => className?_of_margin rfl, by decide, List.forall_mem_nil _⟩

/-! ## The parts of a module -/

theorem decoration_of_plans (hp : backend.Plans config p) :
    ∃ names, p.decoration = some (.decorators names) := by
  obtain ⟨decoration, hdecoration, hdone⟩ := bind_eq_ok.mp hp.decoration
  obtain ⟨names, rfl, -⟩ := decorationOf_ok hdecoration
  exact ⟨names, (Except.ok.inj hdone).symm⟩

theorem readLines_single (hp : backend.Plans config p) {body : Text}
    (h : Gives (single p d) body) : readLines className? body = [p.typeName d.name] := by
  obtain ⟨_, _, _, _, hrun⟩ := h
  obtain ⟨c, f, layout, hc, hmade⟩ := single_made hp hrun
  obtain ⟨names, hdecoration⟩ := decoration_of_plans hp
  rw [readLines_class hmade (hc.decoration.trans hdecoration), hc.typeName]

theorem readLines_wrapper (hp : backend.Plans config p) {source : Text} (h : p.Wraps source) :
    readLines className? source = [wrapperName] := by
  obtain ⟨c, hc, hwraps⟩ := h
  rw [hp.policy] at hwraps
  obtain ⟨layout, hlayout, hsource⟩ := hwraps
  obtain ⟨names, hdecoration⟩ := decoration_of_plans hp
  obtain ⟨hne, hmargin, -⟩ := layout_margin hp hlayout
  rw [wrapperSource, hc, hdecoration] at hsource
  obtain ⟨metadata, hmetadata, hdone⟩ := bind_eq_ok.mp hsource
  obtain rfl := Except.ok.inj hdone
  exact readLines_wrapperText hne hmargin hmetadata

/-- The code of an enum names the wrapper of its own module: where a value is held that was not
known, where it is made from a text, and where it is told apart. -/
structure NamesWrapper (body : Text) : Prop where
  held : initHeader ++ (wrapperName ++ ") -> None:") ∈ Text.lines body
  made : ∃ margin, IsMargin margin ∧ margin ++ catchAllReturn ∈ Text.lines body
  told : "        if isinstance(self._value, " ++ (wrapperName ++ "):") ∈ Text.lines body

theorem namesWrapper_single (hp : backend.Plans config p) {body : Text}
    (h : Gives (single p d) body) : NamesWrapper body := by
  obtain ⟨_, _, _, _, hrun⟩ := h
  obtain ⟨c, f, layout, hc, hmade⟩ := single_made hp hrun
  obtain ⟨src⟩ := hmade.source
  have hunit := hmade.isMargin
  refine ⟨?_, ⟨List.replicate 4 ' ' ++ (layout.unit ++ (layout.unit ++ layout.unit)),
    isMargin_four.append (hunit.append (hunit.append hunit)), ?_⟩, ?_⟩
  · rw [src.lines]
    simp [declaredLines, initLines]
  · rw [src.lines]
    simp [methodBody]
  · rw [src.lines]
    simp [valuesLines, objectLines]

end CatchAll.Target.Python

namespace CatchAll.Generator

open scoped Text
open Schema Target
open Target.Python hiding backend

/-- The footer exports what the module declares. -/
theorem exported_eq {g : Generator} {enums : List Definition} {register : Register}
    (h : Shares g.module.shown enums register) :
    exported g.plan enums register = g.declared enums register := by
  rw [declared_eq h, exported]
  rw [Shares] at h
  split at h
  · rw [h, if_pos (c := enums = []) ‹_›]
    rfl
  · obtain ⟨source, rfl⟩ := h
    have hdefined : Register.isDefined [⟨g.module.shown, wrapperName, source⟩]
        g.plan.module.shown wrapperName = true := by simp [Register.isDefined, Generator.module]
    rw [if_pos hdefined, if_neg (c := enums = []) ‹_›]
    rfl

/-- The classes of a module are those of its enums and then the wrapper, and it exports the
classes that it declares in the order in which it declares them. -/
theorem Assembly.Of.exports_classes {config : Config} {p : Plan} {enums : List Definition}
    {a : Assembly} {code : Text} (hp : Python.backend.Plans config p)
    (h : a.Of ⟨Python.backend, p⟩ enums code) :
    a.header ≠ [] ∧ a.footer ≠ [] ∧
      readClasses code = typeNames p enums ++ (if enums = [] then [] else [wrapperName]) ∧
      readExports code = some (readClasses code) := by
  have hshares := h.shared.shares
  have hexported := exported_eq hshares
  have hnames : ∀ name ∈ exported p enums a.shared, Naming.IsName name := by
    rw [hexported]
    exact fun name => isName_declared (.inr rfl) hp hshares
  have htypes := h.readLines_types (fun d _ => readLines_single (d := d) hp)
    fun _ => readLines_wrapper hp
  obtain ⟨_, _, _, hrun⟩ := h.footer
  have hfooter := footer_made hp hnames hrun
  obtain ⟨docs, marked, names, himports, hheader⟩ := header_made hp h.header
  have hheaded : a.header ≠ [] := by
    rw [hheader]
    cases docs <;> cases marked <;> exact List.cons_ne_nil _ _
  have hfooted : a.footer ≠ [] := by
    intro hnil
    rw [hnil, exportLines] at hfooter
    exact absurd (congrArg List.length hfooter) (by simp [Text.lines, Text.cut])
  have hcode : code = Text.joinWith "\n\n" (a.header :: ((a.bodies ++
      a.shared.definitions (Generator.module ⟨Python.backend, p⟩).shown) ++ [a.footer])) ++ "\n" := by
    rw [h.code_eq, Assembly.parts, part, part, if_neg hheaded, if_neg hfooted]
    simp only [List.append_assoc, List.cons_append, List.nil_append]
  have hclasses : readClasses code =
      typeNames p enums ++ (if enums = [] then [] else [wrapperName]) := by
    rw [hcode, hheader, readClasses_below_header himports (by simp), List.flatMap_append, htypes,
      List.flatMap_singleton, readLines_footer hfooter, List.append_nil]
  refine ⟨hheaded, hfooted, hclasses, ?_⟩
  rw [hclasses, hcode, ← List.cons_append, readExports_of_footer hnames hfooter, hexported,
    declared_eq hshares]

end CatchAll.Generator
