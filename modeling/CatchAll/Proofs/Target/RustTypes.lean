import CatchAll.Proofs.Target.ModuleParts
import CatchAll.Proofs.Target.Assembly

/-!
# The types that a Rust module declares

A type is declared by a line that begins with its visibility. Documentation, attributes,
implementations and all that is indented begin with something else, so the code of an enum
declares one type and so does the wrapper.
-/

set_option autoImplicit false

namespace CatchAll.Target.Rust

open scoped Text
open Naming Schema Outcome Emission

/-! ## Reading types -/

def typeKeywords : List Text := [" enum ", " struct "]

/-- The type that a line declares. -/
def typeName? (line : Text) : Option Text :=
  if line.takeWhile (· ≠ ' ') ∈ visibilities then
    typeKeywords.findSome? fun keyword =>
      ((line.dropWhile (· ≠ ' ')).dropPrefix? keyword).map fun rest => (cutName rest).1
  else none

/-- The types that a module declares. -/
def readTypes (code : Text) : List Text := readLines typeName? code

theorem typeName?_of_head {line : Text} (h : line.head? ≠ some 'p') : typeName? line = none := by
  have hvisible : ∀ visibility ∈ visibilities, visibility.head? = some 'p' := by decide
  refine if_neg fun hmem => h ?_
  have hhead := hvisible _ hmem
  cases line with
  | nil => cases hhead
  | cons c rest =>
    rw [List.takeWhile_cons] at hhead
    split at hhead
    · exact hhead
    · cases hhead

theorem typeName?_declaration {visibility keyword name : Text}
    (hvisibility : visibility ∈ visibilities)
    (hkeyword : keyword = " enum ".toList ∨ keyword = " struct ".toList) (hname : IsName name)
    {rest : Text} (hrest : ∀ c, rest.head? = some c → isNameChar c = false) :
    typeName? (visibility ++ (keyword ++ (name ++ rest))) = some name := by
  have hplain : ∀ visibility ∈ visibilities, ∀ c ∈ visibility, decide (c ≠ ' ') = true := by
    intro visibility h
    simp only [visibilities, List.mem_cons, List.not_mem_nil, or_false] at h
    rcases h with rfl | rfl <;> exact List.all_eq_true.mp rfl
  have hcut : (cutName (name ++ rest)).1 = name := by rw [cutName_append hname.chars hrest]
  have htake : (visibility ++ (keyword ++ (name ++ rest))).takeWhile (· ≠ ' ') = visibility := by
    refine takeWhile_upTo (hplain _ hvisibility) ?_
    rcases hkeyword with rfl | rfl <;> exact fun c hc => Option.some.inj hc ▸ rfl
  have hdrop : (visibility ++ (keyword ++ (name ++ rest))).dropWhile (· ≠ ' ') =
      keyword ++ (name ++ rest) := by
    rw [List.dropWhile_append_of_pos (hplain _ hvisibility)]
    rcases hkeyword with rfl | rfl <;> rfl
  rw [typeName?, htake, if_pos hvisibility, hdrop, typeKeywords]
  rcases hkeyword with rfl | rfl
  · rw [List.findSome?_cons, dropPrefix?_append, Option.map_some, hcut]
  · have hother : (" struct ".toList ++ (name ++ rest)).dropPrefix? " enum ".toList = none := rfl
    rw [List.findSome?_cons, hother, Option.map_none, List.findSome?_cons, dropPrefix?_append,
      Option.map_some, hcut]

/-! ## The code of an enum -/

variable {config : Config} {p : Plan} {d : Definition} {c : Context}

def parsingHeader (typeName : Text) : Text := "impl ::std::str::FromStr for " ++ typeName ++ " \x7b"

/-- The conversion that could fail is an implementation, with its body below the margin. -/
theorem lines_fromStrImplText {layout : Layout} (hunit : '\n' ∉ layout.unit)
    (hT : '\n' ∉ c.typeName) : ∃ inside, (∀ l ∈ inside, Writer.Inside layout.unit l) ∧
      Text.lines (fromStrImplText layout c) =
        parsingHeader c.typeName :: (inside ++ [bodyEnd]) := by
  have hheader : '\n' ∉ parsingHeader c.typeName := by
    unfold parsingHeader
    simp [hT]
  have hshown : Text.allBlank (parsingHeader c.typeName) = false :=
    Writer.shown_of_mem (c := 'i') List.mem_cons_self (by decide)
  have hend : '\n' ∉ bodyEnd ∧ Text.allBlank bodyEnd = false := by decide
  obtain ⟨inside, hwritten, hinside⟩ := Writer.block_shown (w := Writer.start layout) rfl
    ⟨hheader, hshown⟩ hend (fun w => ((w.write "type Err = ::std::convert::Infallible;").blank).block
      "fn from_str(s: &str) -> ::std::result::Result<Self, <Self as ::std::str::FromStr>::Err> \x7b"
      (some "\x7d") fun w => w.write ("::std::result::Result::Ok(" ++ c.typeName ++ "::from(s))"))
    fun v hlayout hlevel => by
      have hv : '\n' ∉ v.layout.unit := by rwa [hlayout]
      refine ((Writer.below_write hlevel hv _).trans (Writer.below_blank _)).trans
        (Writer.below_block (w := (v.write _).blank) hlevel hv _ _ fun u hu hinner => ?_)
      exact Writer.below_write hinner (by rwa [hu]) _
  refine ⟨inside, hinside, ?_⟩
  have hrender : fromStrImplText layout c =
      ((Writer.start layout).append (parsingHeader c.typeName :: (inside ++ [bodyEnd]))).render := by
    rw [← hwritten]
    rfl
  rw [hrender, Writer.lines_start_append layout (List.cons_ne_nil _ _)]
  simp only [List.forall_mem_cons, List.forall_mem_append]
  exact ⟨hheader, fun l hl => (hinside l hl).2, by decide, List.forall_mem_nil _⟩

theorem head?_ne {l : Text} {x y : Char} (h : l.head? = some x) (hne : x ≠ y) : l.head? ≠ some y :=
  fun hy => hne (Option.some.inj (h.symm.trans hy))

theorem head?_conversionLines (parts : Parts) (c : Context) :
    ∀ l ∈ conversionLines parts c, l.head? ≠ some 'p' := by
  have hinside (line : Text) : (inMatch line).head? ≠ some 'p' := by
    rw [inMatch]
    split
    · decide
    · exact head?_ne (x := ' ') rfl (by decide)
  rw [conversionLines, opening_eq]
  simp only [List.forall_mem_append, List.forall_mem_cons, List.forall_mem_map]
  exact ⟨⟨head?_ne (x := 'i') rfl (by decide), by decide⟩, fun arm _ => hinside _,
    fun line _ => hinside line, by decide⟩

theorem head?_parsingLines {parts : Parts} (hne : parts.layout.unit ≠ [])
    (hmargin : Python.IsMargin parts.layout.unit) (hT : '\n' ∉ c.typeName) :
    ∀ l ∈ parsingLines parts c, l.head? ≠ some 'p' := by
  obtain ⟨inside, hinside, hparsing⟩ :=
    lines_fromStrImplText (Python.lineFeed_not_mem_margin hmargin) hT
  rw [parsingLines, hparsing]
  simp only [List.forall_mem_append, List.forall_mem_cons]
  exact ⟨by decide, by decide, ⟨head?_ne (x := 'i') rfl (by decide),
    fun l hl => head?_of_inside hne hmargin (hinside l hl) (by decide), by decide,
    List.forall_mem_nil _⟩, by decide, fun l hl => head?_ne (head?_allowLines _ l hl) (by decide)⟩

theorem head?_methodLines (c : Context) : ∀ l ∈ methodLines c, l.head? ≠ some 'p' := by
  have htraits : ∀ l ∈ traitLines c.typeName, l.head? ≠ some 'p' := by
    unfold traitLines
    simp only [List.forall_mem_cons]
    refine ⟨by decide, by decide, by decide, head?_ne (x := 'i') rfl (by decide), by decide,
      by decide, by decide, by decide, by decide, head?_ne (x := 'i') rfl (by decide), by decide,
      by decide, by decide, by decide, List.forall_mem_nil _⟩
  simp only [methodLines, List.forall_mem_append, List.forall_mem_map, List.forall_mem_cons]
  exact ⟨by decide, fun l _ => head?_ne (x := ' ') rfl (by decide), by decide,
    head?_ne (x := ' ') rfl (by decide), htraits⟩

/-- The code of an enum declares its type. -/
theorem readTypes_single (hp : backend.Plans config p) {body : Text} (h : Gives (single p d) body) :
    readTypes body = [p.typeName d.name] := by
  obtain ⟨_, _, _, _, hrun⟩ := h
  obtain ⟨c, hc, parts, implemented, hparts, -, himplemented, rfl⟩ := single_ok hp hrun
  obtain ⟨frame, hframe, hcode⟩ := lines_code hp hc hparts himplemented
  have hT : IsName c.typeName := hc.isName_typeName (hp.vocabulary ▸ endsInLetters_rust)
  obtain ⟨hne, hmargin, hmark⟩ := Python.layout_margin hp hparts.layout
  have habove : ∀ l ∈ frame.above c, l.head? ≠ some 'p' := by
    intro l hl
    rcases hframe.head?_above c l hl with h | h <;> exact head?_ne h (by decide)
  have hheader : typeName? (enumHeader frame.visibility c.typeName) = some c.typeName :=
    typeName?_declaration hframe.visibility (.inl rfl) hT fun x hx => Option.some.inj hx ▸ rfl
  have hdeclared : ∀ l ∈ declaredLines parts, l.head? ≠ some 'p' := by
    intro l hl
    rcases head?_body hmark parts.variants parts.path l hl with rfl | h
    · decide
    · exact head?_ne h (by decide)
  have hgap : ∀ l ∈ gapLines c, l.head? ≠ some 'p' := by
    simp only [gapLines, List.forall_mem_cons]
    exact ⟨by decide, by decide, fun l hl => head?_ne (head?_allowLines _ l hl) (by decide)⟩
  rw [← hc.typeName]
  refine readLines_one hcode hheader (fun l hl => typeName?_of_head (habove l hl))
    fun l hl => typeName?_of_head ?_
  revert l
  simp only [List.forall_mem_append, List.forall_mem_cons]
  exact ⟨hdeclared, hgap, head?_conversionLines parts c,
    head?_parsingLines hne hmargin (lineFeed_not_mem_of_isName hT),
    head?_ne (x := 'i') rfl (by decide), head?_methodLines c⟩

/-! ## The wrapper -/

def wrapperLine : Text := "struct " ++ (wrapperName ++ "(pub(crate) String);")

def wrapperImpl : Text := "impl " ++ wrapperName ++ " \x7b"

/-- What is written below the documentation of the wrapper. -/
def wrapperItems (metadata : Text) (w : Writer) : Writer :=
  (w.write (metadata ++ wrapperLine)).block wrapperImpl (some bodyEnd) fun w =>
    w.block "pub(crate) fn as_str(&self) -> &str \x7b" (some "\x7d") fun w => w.write "&self.0"

theorem wrapperText_eq (layout : Layout) (metadata : Text) : wrapperText layout metadata =
    (wrapperItems metadata ((Writer.start layout).docs wrapperDocs)).render := by
  have hline : metadata ++ "struct " ++ wrapperName ++ "(pub(crate) String);" =
      metadata ++ wrapperLine := by
    unfold wrapperLine
    simp only [List.append_assoc]
  rw [wrapperItems, ← hline]
  rfl

/-- The line of the wrapper, with what it derives above and an implementation below. -/
theorem wrapperItems_eq {w : Writer} (hlevel : w.level = 0) (hunit : '\n' ∉ w.layout.unit)
    {traits : List Text} {visibility metadata : Text} (hvisibility : visibility ∈ visibilities)
    (h : (Decoration.derives traits visibility).render = .ok metadata) :
    ∃ head inside : List Text, (∀ l ∈ head, l.head? = some '#') ∧
      (∀ l ∈ inside, Writer.Inside w.layout.unit l) ∧
      Text.lines (metadata ++ wrapperLine) = head ++ [visibility ++ (" " ++ wrapperLine)] ∧
      wrapperItems metadata w = w.append (Text.lines (metadata ++ wrapperLine) ++
        wrapperImpl :: (inside ++ [bodyEnd])) := by
  have hvisible : ∀ visibility ∈ visibilities, visibility.head? = some 'p' := by decide
  obtain ⟨head, hhead, hlines⟩ := lines_derives hvisibility h
  replace hlines := hlines (by decide : '\n' ∉ wrapperLine)
  have hwritten : w.write (metadata ++ wrapperLine) =
      w.append (Text.lines (metadata ++ wrapperLine)) := by
    refine Writer.write_shown hlevel ?_
    rw [hlines, List.forall_mem_append, List.forall_mem_singleton]
    exact ⟨fun l hl => ⟨'#', hhead l hl, by decide⟩, 'p', by simp [hvisible _ hvisibility],
      by decide⟩
  have hopen : '\n' ∉ wrapperImpl ∧ Text.allBlank wrapperImpl = false := by decide
  have hend : '\n' ∉ bodyEnd ∧ Text.allBlank bodyEnd = false := by decide
  obtain ⟨inside, hblock, hinside⟩ := Writer.block_shown
    (w := w.append (Text.lines (metadata ++ wrapperLine))) hlevel hopen hend
    (fun w => w.block "pub(crate) fn as_str(&self) -> &str \x7b" (some "\x7d")
      fun w => w.write "&self.0")
    fun v hv hdeep => by
      have hv : '\n' ∉ v.layout.unit := by rwa [hv]
      exact Writer.below_block hdeep hv _ _ fun u hu hinner =>
        Writer.below_write hinner (by rwa [hu]) _
  refine ⟨head, inside, hhead, hinside, hlines, ?_⟩
  rw [wrapperItems, hwritten, hblock, Writer.append_append]

/-- The wrapper declares its own type. -/
theorem readTypes_wrapperText {layout : Layout} (hmark : layout.docMark = "///")
    (hne : layout.unit ≠ []) (hmargin : Python.IsMargin layout.unit) {traits : List Text}
    {visibility metadata : Text} (hvisibility : visibility ∈ visibilities)
    (h : (Decoration.derives traits visibility).render = .ok metadata) :
    readTypes (wrapperText layout metadata) = [wrapperName] := by
  have hdocs := (documents_start hmark).docs wrapperDocs
  have hlayout : ((Writer.start layout).docs wrapperDocs).layout = layout := rfl
  rw [wrapperText_eq]
  generalize (Writer.start layout).docs wrapperDocs = w at hdocs hlayout ⊢
  subst hlayout
  obtain ⟨head, inside, hhead, hinside, hlines, hitems⟩ :=
    wrapperItems_eq hdocs.margin (Python.lineFeed_not_mem_margin hmargin) hvisibility h
  have hline : typeName? (visibility ++ (" " ++ wrapperLine)) = some wrapperName :=
    typeName?_declaration hvisibility (.inr rfl) Generator.isName_wrapperName
      fun x hx => Option.some.inj hx ▸ rfl
  have hsingle : ∀ l ∈ w.lines ++ (Text.lines (metadata ++ wrapperLine) ++
      wrapperImpl :: (inside ++ [bodyEnd])), '\n' ∉ l := by
    simp only [List.forall_mem_append, List.forall_mem_cons]
    exact ⟨fun l hl => (hdocs.lines l hl).single, fun l hl => Text.lineFeed_not_mem_line hl,
      by decide, fun l hl => (hinside l hl).2, by decide, List.forall_mem_nil _⟩
  have hrender : Text.lines (wrapperItems metadata w).render = (w.lines ++ head) ++
      (visibility ++ (" " ++ wrapperLine)) :: wrapperImpl :: (inside ++ [bodyEnd]) := by
    rw [hitems]
    refine (Text.lines_unlines _ (by simp [hlines]) hsingle).trans ?_
    rw [hlines]
    simp only [List.append_assoc, List.cons_append, List.nil_append]
  refine readLines_one hrender hline ?_ ?_
  · rw [List.forall_mem_append]
    exact ⟨fun l hl => typeName?_of_head (head?_ne (hdocs.lines l hl).head? (by decide)),
      fun l hl => typeName?_of_head (head?_ne (hhead l hl) (by decide))⟩
  · simp only [List.forall_mem_cons, List.forall_mem_append]
    exact ⟨by decide, fun l hl =>
      typeName?_of_head (head?_of_inside hne hmargin (hinside l hl) (by decide)), by decide,
      List.forall_mem_nil _⟩

theorem decoration_of_plans (hp : backend.Plans config p) :
    ∃ traits visibility, p.decoration = some (.derives traits visibility) ∧
      visibility ∈ visibilities := by
  obtain ⟨decoration, hdecoration, hdone⟩ := bind_eq_ok.mp hp.decoration
  obtain ⟨traits, visibility, rfl, -, hvisibility⟩ := decorationOf_ok hdecoration
  exact ⟨traits, visibility, (Except.ok.inj hdone).symm, hvisibility⟩

theorem readTypes_wrapper (hp : backend.Plans config p) {source : Text} (h : p.Wraps source) :
    readTypes source = [wrapperName] := by
  obtain ⟨c, hc, hwraps⟩ := h
  rw [hp.policy] at hwraps
  obtain ⟨layout, hlayout, hsource⟩ := hwraps
  obtain ⟨traits, visibility, hdecoration, hvisibility⟩ := decoration_of_plans hp
  obtain ⟨hne, hmargin, hmark⟩ := Python.layout_margin hp hlayout
  rw [wrapperSource, hc, hdecoration] at hsource
  obtain ⟨metadata, hmetadata, hdone⟩ := bind_eq_ok.mp hsource
  obtain rfl := Except.ok.inj hdone
  exact readTypes_wrapperText hmark hne hmargin hvisibility hmetadata

/-! ## The header -/

theorem head?_of_isComment {line : Text} (h : isComment line = true) :
    line.head? ≠ some 'p' := by
  obtain ⟨mark, hmark, before, rest, hbefore, rfl⟩ := isComment_iff.mp h
  intro hhead
  cases before with
  | nil =>
    simp only [commentMarks, List.mem_cons, List.not_mem_nil, or_false] at hmark
    rcases hmark with rfl | rfl | rfl <;> exact absurd (Option.some.inj hhead) (by decide)
  | cons c before =>
    obtain rfl : c = 'p' := Option.some.inj hhead
    exact absurd hbefore (by simp [Text.allBlank, show Text.isBlank 'p' = false by decide])

/-- The header declares no type. -/
theorem readTypes_header (hp : backend.Plans config p) {t : Text} (h : Gives (header p) t) :
    readTypes t = [] := by
  have hempty : typeName? [] = none := rfl
  have htext (docs : Json) : readTypes (headerText docs) = [] := by
    have hline : readTypes headerLine = [] := by decide +kernel
    rw [headerText, readTypes, readLines_append_lineFeed, ← readTypes, hline, List.nil_append]
    split
    · rw [readLines_append_lineFeed, readLines_nil hempty, List.append_nil]
      exact readLines_eq_nil fun l hl =>
        typeName?_of_head (head?_of_isComment (isCommentary_commentLines _ l hl))
    · exact readLines_nil hempty
  obtain ⟨register, j, register', j', h⟩ := h
  unfold header at h
  split at h
  · obtain ⟨docs, _, _, -, h⟩ := run_bind_ok.mp h
    have hfilled := (run_ofTemplate_ok.mp h).1
    rw [hp.shelf] at hfilled
    rw [Except.ok.inj (hfilled.symm.trans (render_header docs))]
    exact htext docs
  · obtain ⟨rfl, -, -⟩ := run_pure_ok.mp h
    exact readLines_nil hempty

/-! ## Names of the wrapper -/

/-- The path of the wrapper of a module. -/
def pathOf (name : Text) : Text := "crate::" ++ (name ++ ("::" ++ wrapperName))

theorem wrapperPath_of_isIdentifier {name : Text} (h : Text.isIdentifier name = true) :
    wrapperPath (.str name) = .ok (pathOf name) := by
  have hne : name ≠ [] := by
    rintro rfl
    cases h
  have htruthy : (Json.str name).truthy = true := by simp [Json.truthy, hne]
  have hpieces : ["crate".toList, name, wrapperName].filter (· ≠ []) =
      ["crate".toList, name, wrapperName] := by
    refine List.filter_eq_self.mpr ?_
    simp only [List.forall_mem_cons]
    exact ⟨by decide, by simp [hne], by decide, List.forall_mem_nil _⟩
  rw [wrapperPath, htruthy, if_pos rfl]
  refine congrArg Except.ok ?_
  have hlast : Text.joinWith "::" [wrapperName] = wrapperName := by simp [Text.joinWith]
  rw [TypeReference.qualified, hpieces, Text.joinWith_cons_cons, Text.joinWith_cons_cons, hlast]
  simp only [List.append_assoc]
  rfl

/-- The code of an enum names the wrapper of its own module: as what the catch-all holds, and
where a value that was not known is wrapped. -/
structure NamesWrapper (name typeName body : Text) : Prop where
  held : bodyMargin ++ (catchAllStart ++ (pathOf name ++ catchAllEnd)) ∈ Text.lines body
  made : armMargin ++ catchAllArm typeName (pathOf name) ∈ Text.lines body

theorem namesWrapper_single (hp : backend.Plans config p) {name : Text}
    (hmodule : p.module = .str name) (hname : Text.isIdentifier name = true) {body : Text}
    (h : Gives (single p d) body) : NamesWrapper name (p.typeName d.name) body := by
  obtain ⟨_, _, _, _, hrun⟩ := h
  obtain ⟨c, hc, parts, implemented, hparts, hpath, himplemented, rfl⟩ := single_ok hp hrun
  obtain ⟨frame, -, hcode⟩ := lines_code hp hc hparts himplemented
  rw [hmodule, wrapperPath_of_isIdentifier hname] at hpath
  have hfed : '\n' ∉ pathOf name := by
    unfold pathOf wrapperName
    simp [Text.lineFeed_not_mem_of_isIdentifier hname]
  have hT := lineFeed_not_mem_typeName hp hc
  obtain hpath : parts.path = pathOf name := (Except.ok.inj hpath).symm
  have hheld : '\n' ∉ catchAllStart ++ (pathOf name ++ catchAllEnd) := by
    rw [List.mem_append, List.mem_append, not_or, not_or]
    exact ⟨by decide, hfed, by decide⟩
  have hmade : '\n' ∉ catchAllArm c.typeName (pathOf name) := by
    unfold catchAllArm catchAllName
    simp [hT, hfed]
  have hshown : Text.allBlank (catchAllStart ++ (pathOf name ++ catchAllEnd)) = false :=
    Writer.shown_of_mem (c := 'U') List.mem_cons_self (by decide)
  have hmade_shown : Text.allBlank (catchAllArm c.typeName (pathOf name)) = false :=
    Writer.shown_of_mem (c := 'o') List.mem_cons_self (by decide)
  rw [← hc.typeName]
  constructor
  · rw [hcode, Frame.lines, declaredLines, catchAllLines, hpath, Text.lines_of_single hheld,
      List.map_singleton, hshown, if_neg Bool.false_ne_true]
    have hline : bodyMargin ++ (catchAllStart ++ (pathOf name ++ catchAllEnd)) =
        inBody (catchAllStart ++ (pathOf name ++ catchAllEnd)) := (inBody_of_shown hshown).symm
    rw [hline]
    simp
  · rw [hcode, Frame.lines, conversionLines, hpath, Text.lines_of_single hmade]
    have hline : armMargin ++ catchAllArm c.typeName (pathOf name) =
        inMatch (catchAllArm c.typeName (pathOf name)) := (inMatch_of_shown hmade_shown).symm
    rw [hline]
    simp

end CatchAll.Target.Rust

namespace CatchAll.Generator

open scoped Text
open Schema Target Outcome Emission
open Target.Rust (readTypes typeName?)

/-- The types of a module are those of its enums and then the wrapper, and nothing follows. -/
theorem Assembly.Of.declares_types {config : Config} {p : Plan} {enums : List Definition}
    {a : Assembly} {code : Text} (hp : Rust.backend.Plans config p)
    (h : a.Of ⟨Rust.backend, p⟩ enums code) :
    a.footer = [] ∧
      readTypes code = typeNames p enums ++ (if enums = [] then [] else [wrapperName]) := by
  have hempty : typeName? [] = none := rfl
  have htypes := h.readLines_types (fun d _ => Rust.readTypes_single (d := d) hp)
    fun _ => Rust.readTypes_wrapper hp
  obtain ⟨_, _, _, hfooter⟩ := h.footer
  have hfooter : [] = a.footer := (run_pure_ok.mp hfooter).1
  have hheader : (part a.header).flatMap readTypes = [] := by
    rw [part]
    split
    · rfl
    · rw [List.flatMap_singleton]
      exact Rust.readTypes_header hp h.header
  refine ⟨hfooter.symm, ?_⟩
  rw [h.code_eq, readTypes, readLines_parts hempty, Assembly.parts, ← hfooter,
    show part [] = [] from rfl, List.append_nil, List.append_assoc, List.flatMap_append,
    show (part a.header).flatMap (readLines typeName?) = [] from hheader, htypes,
    List.nil_append]

end CatchAll.Generator
