import CatchAll.Proofs.Target.RustExample
import CatchAll.Proofs.Target.RustSource

/-!
# The variants that a Rust enum declares

A declaration has its documentation first, then the header of the enum and its
body. All in the body is indented, so the body ends at the first brace at the
margin, whatever the documentation of members and the path of the wrapper are.
-/

set_option autoImplicit false

namespace CatchAll.Target.Rust

open scoped Text
open Naming Schema

/-! ## Readers -/

def enumHeader (visibility typeName : Text) : Text :=
  visibility ++ (" enum " ++ (typeName ++ " \x7b"))

/-- The header of an enum that modules may see. -/
def opensEnum (typeName line : Text) : Bool :=
  visibilities.any fun visibility => line = enumHeader visibility typeName

def bodyMargin : Text := "    "

def catchAllEntry : Text := "    Unknown("

def catchAllEnd : Text := "),"

def deprecatedLine : Text := "    #[deprecated]"

/-- The variants in the body of an enum. The catch-all is the last one. -/
def readVariants : List Text → Option (List Arm)
  | [] => none
  | line :: rest =>
    if catchAllEntry.isPrefixOf line then
      if catchAllEnd.isSuffixOf (Text.unlines (line :: rest)) then some [.catchAll] else none
    else if isComment line || line = deprecatedLine then readVariants rest
    else do
      let (name, rest') := cutName (← line.dropPrefix? bodyMargin)
      if rest' = [','] && isPlainVariant name then return .variant name :: (← readVariants rest)
      else none

def bodyEnd : Text := "\x7d"

/-- The variants that an enum is declared with. -/
def readDeclared (typeName code : Text) : Option (List Arm) :=
  match (Text.lines code).dropWhile (!opensEnum typeName ·) with
  | _ :: rest => readVariants (rest.takeWhile (· ≠ bodyEnd))
  | [] => none

/-! ## Lines of the body -/

/-- A line as it stands in the body. -/
def inBody (line : Text) : Text :=
  if Text.allBlank line then line else List.replicate 4 ' ' ++ line

theorem inBody_of_shown {line : Text} (h : Text.allBlank line = false) :
    inBody line = List.replicate 4 ' ' ++ line := by
  rw [inBody, h]
  exact if_neg Bool.false_ne_true

def nameLine (name : Text) : Text := bodyMargin ++ (name ++ [','])

/-- The lines of a variant. -/
def variantLines (layout : Layout) (v : Option Text × Member) : List Text :=
  Text.lines (variantComment layout v.1) ++
    ((if v.2.deprecated then [deprecatedLine] else []) ++ [nameLine (v.2.identifier.getD [])])

def membersNote : Text :=
  "`" ++ catchAllName ++
    "` contains new variants that have been added since this code was generated."

def catchAllStart : Text := "Unknown("

/-- The lines of the catch-all, whose path may be of any shape. -/
def catchAllLines (path : Text) : List Text :=
  marked membersNote :: (Text.lines (catchAllStart ++ (path ++ catchAllEnd))).map
    fun line => if Text.allBlank line then [] else line

variable {layout : Layout}

/-- A path between the start and the end of the catch-all. -/
theorem lines_catchAllEntry (path : Text) : ∃ first rest init last,
    Text.lines (catchAllStart ++ (path ++ catchAllEnd)) = (catchAllStart ++ first) :: rest ∧
    Text.lines (catchAllStart ++ (path ++ catchAllEnd)) = init ++ [last ++ catchAllEnd] := by
  obtain ⟨first, rest, -, hfirst⟩ :=
    Text.lines_append_left (t := catchAllStart) (by decide) (path ++ catchAllEnd)
  obtain ⟨init, last, -, hlast⟩ :=
    Text.lines_append_right (catchAllStart ++ path) (u := catchAllEnd) (by decide)
  rw [List.append_assoc] at hlast
  exact ⟨first, rest, init, last, hfirst, hlast⟩

theorem lines_membersText (hmark : layout.docMark = "///") (path : Text) :
    Text.lines (membersText layout path) = catchAllLines path := by
  have hsingle : '\n' ∉ membersNote := by decide +kernel
  have hdocs : (Writer.start layout).docs membersNote =
      (Writer.start layout).append [marked membersNote] := by
    rw [show Writer.start layout = documented layout [] from rfl, documented_docs hmark,
      Text.passage_of_single hsingle]
    rfl
  have hentry : catchAllName ++ "(" ++ path ++ ")," = catchAllStart ++ (path ++ catchAllEnd) := by
    rw [List.append_assoc]
    rfl
  obtain ⟨first, rest, init, last, hfirst, hlast⟩ := lines_catchAllEntry path
  have hcontent : Text.hasContent (last ++ catchAllEnd) = true := by
    rw [Text.hasContent, List.all_append, show catchAllEnd.all Text.isIndent = false by decide,
      Bool.and_false]
    rfl
  have hwritten : membersText layout path =
      ((Writer.start layout).append (catchAllLines path)).render := by
    show (((Writer.start layout).docs membersNote).write
      (catchAllName ++ "(" ++ path ++ "),")).render = _
    rw [hdocs, hentry, Writer.write_of_head hfirst (c := 'U') rfl rfl hlast hcontent,
      Writer.append_append]
    rfl
  rw [hwritten]
  refine Text.lines_unlines _ (List.cons_ne_nil _ _) fun l hl => ?_
  rcases List.mem_cons.mp hl with rfl | hl
  · exact lineFeed_not_mem_marked hsingle
  · obtain ⟨line, hline, rfl⟩ := List.mem_map.mp hl
    split
    · exact List.not_mem_nil
    · exact Text.lineFeed_not_mem_line hline

theorem lines_variants (variants : List (Option Text × Member))
    (hnames : ∀ v ∈ variants, '\n' ∉ v.2.identifier.getD []) (tail : Text) :
    Text.lines ((variants.map (variantText layout)).flatten ++ tail) =
      variants.flatMap (variantLines layout) ++ Text.lines tail := by
  induction variants with
  | nil => rfl
  | cons v variants ih =>
    obtain ⟨hname, hnames⟩ := List.forall_mem_cons.mp hnames
    have hline : '\n' ∉ nameLine (v.2.identifier.getD []) := by
      unfold nameLine bodyMargin
      simp [hname]
    have hcode : Text.lines (variantCode v.2) = (if v.2.deprecated then [deprecatedLine] else []) ++
        [nameLine (v.2.identifier.getD [])] := by
      rw [variantCode]
      cases v.2.deprecated with
      | false => exact Text.lines_of_single hline
      | true => exact Template.lines_lit (by decide) (Text.lines_of_single hline)
    have hsplit : ((v :: variants).map (variantText layout)).flatten ++ tail =
        variantComment layout v.1 ++ '\n' :: (variantCode v.2 ++ '\n' ::
          ((variants.map (variantText layout)).flatten ++ tail)) := by
      simp [variantText]
    rw [hsplit, Text.lines_append_lineFeed, Text.lines_append_lineFeed, hcode, ih hnames,
      List.flatMap_cons, variantLines]
    simp only [List.append_assoc]

theorem lines_declaration (hmark : layout.docMark = "///") (docs metadata typeName path : Text)
    {variants : List (Option Text × Member)}
    (hnames : ∀ v ∈ variants, '\n' ∉ v.2.identifier.getD []) :
    Text.lines (declarationText layout docs metadata typeName (membersText layout path) variants) =
      Text.lines docs ++ (Text.lines (metadata ++ ("enum " ++ (typeName ++ " \x7b"))) ++
        (variants.flatMap (variantLines layout) ++
          ((catchAllLines path).map inBody ++ [bodyEnd]))) := by
  have hend : ("\n\x7d" : Text) = '\n' :: bodyEnd := by decide
  rw [declarationText, Text.lines_append_lineFeed, Text.lines_append_lineFeed,
    lines_variants _ hnames, hend, Text.lines_append_lineFeed, Template.lines_indentLines,
    lines_membersText hmark]
  rfl

/-! ## Reading the body -/

theorem isComment_entry (t : Text) : isComment (catchAllEntry ++ t) = false := rfl

/-- Comment lines are no entries. -/
theorem readVariants_comments {comments : List Text} (h : ∀ l ∈ comments, isComment l = true)
    (rest : List Text) : readVariants (comments ++ rest) = readVariants rest := by
  induction comments with
  | nil => rfl
  | cons l comments ih =>
    obtain ⟨hl, hcomments⟩ := List.forall_mem_cons.mp h
    have hentry : catchAllEntry.isPrefixOf l = false := by
      rw [Bool.eq_false_iff]
      intro hprefix
      obtain ⟨t, rfl⟩ := List.isPrefixOf_iff_prefix.mp hprefix
      rw [isComment_entry] at hl
      cases hl
    rw [List.cons_append, readVariants, hentry, hl, if_neg Bool.false_ne_true, Bool.true_or,
      if_pos rfl, ih hcomments]

theorem readVariants_deprecated (rest : List Text) :
    readVariants (deprecatedLine :: rest) = readVariants rest := by
  have hentry : catchAllEntry.isPrefixOf deprecatedLine = false := by decide
  rw [readVariants, hentry, if_neg Bool.false_ne_true, decide_eq_true (rfl : deprecatedLine = _),
    Bool.or_true, if_pos rfl]

theorem not_mem_nameLine {name : Text} (h : IsName name) {x : Char} (hx : isNameChar x = false)
    (hspace : x ≠ ' ') (hcomma : x ≠ ',') : x ∉ nameLine name := by
  have hmargin : x ∉ bodyMargin := fun hmem => hspace (List.eq_of_mem_replicate (n := 4) hmem)
  have hname : x ∉ name := fun hmem => by
    rw [h.chars x hmem] at hx
    cases hx
  simp [nameLine, hmargin, hname, hcomma]

theorem readVariants_nameLine {name : Text} (h : FitsVariant name) (rest : List Text) :
    readVariants (nameLine name :: rest) = (readVariants rest).map (.variant name :: ·) := by
  have hcomma : ∀ x, [','].head? = some x → isNameChar x = false :=
    fun x hx => Option.some.inj hx ▸ rfl
  have hparen : '(' ∉ nameLine name := not_mem_nameLine h.isName rfl (by decide) (by decide)
  have hslash : '/' ∉ nameLine name := not_mem_nameLine h.isName rfl (by decide) (by decide)
  have hhash : '#' ∉ nameLine name := not_mem_nameLine h.isName rfl (by decide) (by decide)
  have hentry : catchAllEntry.isPrefixOf (nameLine name) = false := by
    rw [Bool.eq_false_iff]
    exact fun hstart => hparen ((List.isPrefixOf_iff_prefix.mp hstart).subset (by decide))
  have hmarks : ∀ mark ∈ commentMarks, '/' ∈ mark ∨ '#' ∈ mark := by decide
  have hcomment : isComment (nameLine name) = false := by
    rw [Bool.eq_false_iff]
    intro hcomment
    obtain ⟨mark, hmark, before, rest, -, hline⟩ := isComment_iff.mp hcomment
    rw [hline] at hslash hhash
    rcases hmarks mark hmark with hmem | hmem
    · exact hslash (List.mem_append_right _ (List.mem_append_left _ hmem))
    · exact hhash (List.mem_append_right _ (List.mem_append_left _ hmem))
  have hdeprecated : nameLine name ≠ deprecatedLine := by
    intro heq
    rw [heq] at hhash
    exact hhash (by decide)
  rw [readVariants, hentry, if_neg Bool.false_ne_true, hcomment, decide_eq_false hdeprecated,
    Bool.or_self, if_neg Bool.false_ne_true, nameLine, dropPrefix?_append, Option.bind_eq_bind,
    Option.bind_some, cutName_append h.isName.chars hcomma]
  dsimp only
  rw [plain_of_fits h]
  cases readVariants rest <;> rfl

/-- The catch-all ends the body, whatever its path is. -/
theorem readVariants_catchAllLines (path : Text) :
    readVariants ((catchAllLines path).map inBody) = some [.catchAll] := by
  have hnote : ∀ l ∈ [inBody (marked membersNote)], isComment l = true := by decide +kernel
  have hbody (line : Text) : inBody (if Text.allBlank line then [] else line) =
      if Text.allBlank line then [] else List.replicate 4 ' ' ++ line := by
    split
    · rfl
    · exact inBody_of_shown (eq_false_of_ne_true ‹_›)
  obtain ⟨first, rest, init, last, hfirst, hlast⟩ := lines_catchAllEntry path
  have hshown : Text.allBlank (catchAllStart ++ first) = false :=
    Writer.shown_of_mem (c := 'U') List.mem_cons_self (by decide)
  have hend : Text.allBlank (last ++ catchAllEnd) = false :=
    Writer.allBlank_append_of_shown last (Writer.shown_of_mem (c := ',') (by decide) (by decide))
  have hentry : List.replicate 4 ' ' ++ (catchAllStart ++ first) = catchAllEntry ++ first := by
    rw [← List.append_assoc]
    rfl
  have hsuffix : catchAllEnd.isSuffixOf (Text.unlines
      ((Text.lines (catchAllStart ++ (path ++ catchAllEnd))).map fun line =>
        if Text.allBlank line then [] else List.replicate 4 ' ' ++ line)) = true := by
    rw [List.isSuffixOf_iff_suffix, hlast, List.map_append, List.map_singleton, hend,
      if_neg Bool.false_ne_true, ← List.append_assoc, Text.unlines_concat_append]
    exact List.suffix_append _ _
  rw [catchAllLines, List.map_cons, ← List.singleton_append, readVariants_comments hnote,
    List.map_map, Function.comp_def]
  simp only [hbody]
  rw [hfirst, List.map_cons, hshown, if_neg Bool.false_ne_true, hentry] at hsuffix ⊢
  rw [readVariants, if_pos (List.isPrefixOf_iff_prefix.mpr (List.prefix_append _ _)),
    if_pos hsuffix]

theorem readVariants_append (hmark : layout.docMark = "///")
    {variants : List (Option Text × Member)}
    (hfits : ∀ v ∈ variants, FitsVariant (v.2.identifier.getD [])) (rest : List Text) :
    readVariants (variants.flatMap (variantLines layout) ++ rest) =
      (readVariants rest).map
        (variants.map (fun v => Arm.variant (v.2.identifier.getD [])) ++ ·) := by
  induction variants with
  | nil => simp
  | cons v variants ih =>
    obtain ⟨hv, hvariants⟩ := List.forall_mem_cons.mp hfits
    have hcomments := variantComment_isCommentary hmark v.1
    have hmarkSkipped (rest : List Text) :
        readVariants ((if v.2.deprecated then [deprecatedLine] else []) ++ rest) =
          readVariants rest := by
      cases v.2.deprecated with
      | false => rfl
      | true => exact readVariants_deprecated rest
    rw [List.flatMap_cons, variantLines, List.append_assoc, List.append_assoc, List.append_assoc,
      readVariants_comments hcomments, hmarkSkipped, List.singleton_append,
      readVariants_nameLine hv, ih hvariants]
    cases readVariants rest <;> rfl

/-! ## Where the body ends -/

theorem head?_variantLines (hmark : layout.docMark = "///") (v : Option Text × Member) :
    ∀ l ∈ variantLines layout v, l.head? = some ' ' := by
  have hcomment : ∀ l ∈ Text.lines (variantComment layout v.1), l.head? = some ' ' := by
    cases v.1 with
    | none =>
      have hsingle : '\n' ∉ missingDocs := by decide +kernel
      show ∀ l ∈ Text.lines missingDocs, _
      rw [Text.lines_of_single hsingle, List.forall_mem_singleton]
      rfl
    | some t =>
      show ∀ l ∈ Text.lines (Template.indentLines 4 ((Writer.start layout).docs t).render), _
      rw [Template.lines_indentLines, List.forall_mem_map]
      intro line hline
      rw [isComment_shown (docs_isCommentary hmark t line hline)]
      rfl
  rw [variantLines, List.forall_mem_append, List.forall_mem_append]
  refine ⟨hcomment, ?_, List.forall_mem_singleton.mpr rfl⟩
  cases v.2.deprecated with
  | false => exact List.forall_mem_nil _
  | true => exact List.forall_mem_singleton.mpr rfl

theorem head?_catchAllLines (path : Text) :
    ∀ l ∈ (catchAllLines path).map inBody, l = [] ∨ l.head? = some ' ' := by
  rw [catchAllLines, List.map_cons, List.forall_mem_cons, List.map_map, List.forall_mem_map]
  refine ⟨.inr (by decide +kernel), fun line _ => ?_⟩
  rw [Function.comp_apply]
  split
  · exact .inl rfl
  · rw [inBody_of_shown (eq_false_of_ne_true ‹_›)]
    exact .inr rfl

/-- What the body of an enum begins its lines with. -/
theorem head?_body (hmark : layout.docMark = "///") (variants : List (Option Text × Member))
    (path : Text) :
    ∀ l ∈ variants.flatMap (variantLines layout) ++ (catchAllLines path).map inBody,
      l = [] ∨ l.head? = some ' ' := by
  rw [List.forall_mem_append]
  refine ⟨fun l hl => ?_, head?_catchAllLines path⟩
  obtain ⟨v, -, hl⟩ := List.mem_flatMap.mp hl
  exact .inr (head?_variantLines hmark v l hl)

theorem head?_opensEnum {typeName line : Text} (h : opensEnum typeName line = true) :
    line.head? = some 'p' := by
  obtain ⟨visibility, hvisibility, hline⟩ := List.any_eq_true.mp h
  obtain rfl := of_decide_eq_true hline
  simp only [visibilities, List.mem_cons, List.not_mem_nil, or_false] at hvisibility
  rcases hvisibility with rfl | rfl <;> rfl

/-- The variants are those of the context, whatever stands before and after the body. -/
theorem readDeclared_of_lines (hmark : layout.docMark = "///") {typeName visibility code : Text}
    {variants : List (Option Text × Member)} {path : Text} {before rest : List Text}
    (hfits : ∀ v ∈ variants, FitsVariant (v.2.identifier.getD []))
    (hvisibility : visibility ∈ visibilities) (hbefore : ∀ l ∈ before, l.head? ≠ some 'p')
    (hcode : Text.lines code = before ++ enumHeader visibility typeName ::
      (variants.flatMap (variantLines layout) ++
        ((catchAllLines path).map inBody ++ bodyEnd :: rest))) :
    readDeclared typeName code =
      some (variants.map (fun v => Arm.variant (v.2.identifier.getD [])) ++ [.catchAll]) := by
  have hopens : opensEnum typeName (enumHeader visibility typeName) = true :=
    List.any_eq_true.mpr ⟨visibility, hvisibility, decide_eq_true rfl⟩
  have hfront : ∀ l ∈ before, (!opensEnum typeName l) = true := by
    intro l hl
    rw [Bool.not_eq_true', Bool.eq_false_iff]
    exact fun h => hbefore l hl (head?_opensEnum h)
  have hdrop : (Text.lines code).dropWhile (!opensEnum typeName ·) =
      enumHeader visibility typeName :: (variants.flatMap (variantLines layout) ++
        ((catchAllLines path).map inBody ++ bodyEnd :: rest)) := by
    rw [hcode, List.dropWhile_append_of_pos hfront, List.dropWhile_cons_of_neg (by simp [hopens])]
  have hbody : (variants.flatMap (variantLines layout) ++
      ((catchAllLines path).map inBody ++ bodyEnd :: rest)).takeWhile (· ≠ bodyEnd) =
      variants.flatMap (variantLines layout) ++ (catchAllLines path).map inBody := by
    rw [← List.append_assoc]
    exact takeWhile_ne (fun hl => absurd (head?_body hmark variants path _ hl) (by decide)) rest
  rw [readDeclared, hdrop]
  dsimp only
  rw [hbody, readVariants_append hmark hfits, readVariants_catchAllLines]
  rfl

end CatchAll.Target.Rust
