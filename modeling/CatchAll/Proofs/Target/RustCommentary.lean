import CatchAll.Proofs.Target.CommentLines
import CatchAll.Proofs.Template.Rendering
import CatchAll.Proofs.Writer
import CatchAll.Target.RustModule

/-!
# The documentation of a Rust enum

A writer marks each line of a documentation, whatever the line is, so what is
written for an enum or for a member is made of comment lines. Members without
documentation get a comment line in its place. So two declarations that differ
in documentation have the same code.
-/

set_option autoImplicit false

namespace CatchAll.Target.Rust

open scoped Text
open Schema Template

/-! ## Written documentation -/

/-- A line of documentation at the margin. -/
structure DocLine (line : Text) : Prop where
  mark : ("///" : Text) <+: line
  single : '\n' ∉ line

/-- A writer at the margin that has written documentation alone. -/
structure Documents (w : Writer) : Prop where
  docMark : w.layout.docMark = "///"
  margin : w.level = 0
  lines : ∀ line ∈ w.lines, DocLine line

variable {w v : Writer} {line t : Text}

theorem DocLine.isComment (h : DocLine line) : isComment line = true := by
  obtain ⟨rest, hrest⟩ := h.mark
  exact isComment_iff.mpr ⟨"///", by decide, [], rest, rfl, hrest.symm⟩

theorem DocLine.head? (h : DocLine line) : line.head? = some '/' := by
  obtain ⟨rest, rfl⟩ := h.mark
  rfl

theorem IsCommentary.ne_nil (h : IsCommentary t) : t ≠ [] := by
  rintro rfl
  exact absurd (h [] (by decide)) (by decide)

theorem documents_start {layout : Layout} (h : layout.docMark = "///") :
    Documents (Writer.start layout) :=
  ⟨h, rfl, fun _ hline => absurd hline List.not_mem_nil⟩

namespace Documents

theorem indentation (h : Documents w) : w.indentation = [] := by
  rw [Writer.indentation, h.margin]
  rfl

theorem docLine (h : Documents w) (hsingle : '\n' ∉ line) : DocLine (w.docLine line) := by
  have hmarked : Writer.marked w.layout.docMark line =
      "///" ++ (if line = [] then [] else ' ' :: line) := by
    rw [Writer.marked, h.docMark, if_neg (by decide)]
    split <;> simp
  rw [Writer.docLine, hmarked, h.indentation, if_neg (by simp)]
  refine ⟨List.prefix_append _ _, ?_⟩
  split
  · decide
  · simpa using hsingle

theorem docs (h : Documents w) (t : Text) : Documents (w.docs t) := by
  refine ⟨h.docMark, h.margin, fun line hline => ?_⟩
  rcases List.mem_append.mp hline with hline | hline
  · exact h.lines line hline
  · obtain ⟨l, hl, rfl⟩ := List.mem_map.mp hline
    exact h.docLine (Text.lineFeed_not_mem_passage hl)

theorem foldl {α : Type} (h : Documents w) (f : α → Text) (items : List α) :
    Documents (items.foldl (fun w item => w.docs (f item)) w) := by
  induction items generalizing w with
  | nil => exact h
  | cons item items ih => exact ih (h.docs (f item))

theorem lines_render (h : Documents w) (hne : w.lines ≠ []) : Text.lines w.render = w.lines :=
  Text.lines_unlines _ hne fun line hline => (h.lines line hline).single

theorem isCommentary (h : Documents w) (hne : w.lines ≠ []) : IsCommentary w.render := by
  intro line hline
  rw [h.lines_render hne] at hline
  exact (h.lines line hline).isComment

/-- Documentation that was written elsewhere keeps its lines. -/
theorem write_eq (h : Documents w) (hv : Documents v) (hne : v.lines ≠ []) :
    w.write v.render = w.append v.lines := by
  have hlines := hv.lines_render hne
  obtain ⟨first, rest, hfirst⟩ := List.exists_cons_of_ne_nil hne
  obtain ⟨init, last, hlast⟩ : ∃ init last, v.lines = init ++ [last] :=
    ⟨_, _, (List.dropLast_append_getLast hne).symm⟩
  have hhead : first.head? = some '/' := (hv.lines first (by simp [hfirst])).head?
  have hcontent : Text.hasContent last = true :=
    Text.hasContent_of_head (hv.lines last (by simp [hlast])).head? (by decide)
  have hcode : v.lines.map w.codeLine = v.lines := by
    rw [List.map_congr_left (g := id), List.map_id]
    intro line hline
    rw [Writer.codeLine_of_shown (isComment_shown (hv.lines line hline).isComment),
      h.indentation]
    rfl
  rw [Writer.write_of_head (hlines.trans hfirst) hhead (by decide) (hlines.trans hlast) hcontent,
    hlines, hcode]

theorem write (h : Documents w) (hv : Documents v) (hne : v.lines ≠ []) :
    Documents (w.write v.render) ∧ (w.write v.render).lines ≠ [] := by
  rw [h.write_eq hv hne]
  refine ⟨⟨h.docMark, h.margin, fun line hline => ?_⟩, ?_⟩
  · exact (List.mem_append.mp hline).elim (h.lines line) (hv.lines line)
  · exact List.append_ne_nil_of_right_ne_nil _ hne

end Documents

theorem lines_docs_ne_nil (w : Writer) (t : Text) : (w.docs t).lines ≠ [] :=
  List.append_ne_nil_of_right_ne_nil _ (by simp [Text.passage_ne_nil])

/-- The documentation of the policy. -/
theorem docsText_documents {layout : Layout} (h : layout.docMark = "///") (c : Context) :
    ∃ w, Documents w ∧ w.lines ≠ [] ∧ docsText layout c = w.render := by
  refine ⟨_, ?_, lines_docs_ne_nil _ _, rfl⟩
  -- what follows the variants, the variants, and what stands before them
  iterate 7 refine Documents.docs ?_ _
  refine Documents.foldl ?_ _ _
  iterate 7 refine Documents.docs ?_ _
  exact documents_start h

theorem enumDocs_isCommentary {layout : Layout} (h : layout.docMark = "///") (c : Context)
    (documentation : Option Text) :
    IsCommentary (enumDocs layout documentation (docsText layout c)) := by
  obtain ⟨v, hv, hne, hdocs⟩ := docsText_documents h c
  have hnonempty : docsText layout c ≠ [] := by
    rw [hdocs]
    exact (hv.isCommentary hne).ne_nil
  simp only [enumDocs, if_neg hnonempty]
  rw [hdocs]
  have hstart := documents_start h
  cases documentation with
  | none =>
    obtain ⟨hwritten, hlines⟩ := hstart.write hv hne
    exact hwritten.isCommentary hlines
  | some t =>
    obtain ⟨hwritten, hlines⟩ := ((hstart.docs t).docs []).write hv hne
    exact hwritten.isCommentary hlines

/-! ## Declarations -/

/-- The line in place of the documentation of a variant. -/
def missingDocs : Text := "    #[allow(missing_docs)] // documentation missing in model"

/-- What stands before a variant. -/
def variantComment (layout : Layout) (documentation : Option Text) : Text :=
  match documentation with
  | some t => indentLines 4 ((Writer.start layout).docs t).render
  | none => missingDocs

def deprecatedMark : Text := "    #[deprecated]\n"

def variantCode (m : Member) : Text :=
  (if m.deprecated then deprecatedMark else []) ++ ("    " ++ (m.identifier.getD [] ++ [',']))

def variantText (layout : Layout) (v : Option Text × Member) : Text :=
  variantComment layout v.1 ++ '\n' :: (variantCode v.2 ++ ['\n'])

theorem isCommentary_indentLines (width : Nat) (h : IsCommentary t) :
    IsCommentary (indentLines width t) := by
  intro line hline
  rw [lines_indentLines] at hline
  obtain ⟨l, hl, rfl⟩ := List.mem_map.mp hline
  rw [isComment_shown (h l hl)]
  exact isComment_indented width (h l hl)

theorem docs_isCommentary {layout : Layout} (h : layout.docMark = "///") (t : Text) :
    IsCommentary ((Writer.start layout).docs t).render :=
  ((documents_start h).docs t).isCommentary (lines_docs_ne_nil _ t)

theorem variantComment_isCommentary {layout : Layout} (h : layout.docMark = "///")
    (documentation : Option Text) : IsCommentary (variantComment layout documentation) := by
  cases documentation with
  | some t =>
    rw [variantComment]
    exact isCommentary_indentLines 4 (docs_isCommentary h t)
  | none =>
    rw [variantComment]
    intro line hline
    have hsingle : '\n' ∉ missingDocs := by
      unfold missingDocs
      decide
    rw [Text.lines_of_single hsingle, List.mem_singleton] at hline
    rw [hline]
    exact isComment_iff.mpr ⟨"#[allow(missing_docs)]", by decide, "    ",
      " // documentation missing in model", by decide, rfl⟩

/-- The part of the template for one variant. -/
def variantNodes : List Node :=
  [.cond (variantSlot "docs")
     [.put ((variantSlot "docs").through (.indent 4)), .lit "\n"]
     [.lit "    #[allow(missing_docs)] // documentation missing in model\n"],
   .cond (variantSlot "deprecated") [.lit "    #[deprecated]\n"] [],
   .lit "    ", .put (variantSlot "name"), .lit ",\n"]

theorem render_variantCode (layout : Layout) (values : Fields) (v : Option Text × Member) :
    render false (("variant", variantFields layout v.1 v.2) :: values) (variantNodes.drop 1) =
      .ok (variantCode v.2 ++ ['\n']) := by
  have hname : render false (("variant", variantFields layout v.1 v.2) :: values)
      [.lit "    ", .put (variantSlot "name"), .lit ",\n"] =
      .ok ("    " ++ (v.2.identifier.getD [] ++ [',', '\n'])) :=
    render_lit _ (render_text rfl (render_last _))
  have hmark : render false (("variant", variantFields layout v.1 v.2) :: values)
      (if (Json.bool v.2.deprecated).truthy then [.lit "    #[deprecated]\n"] else []) =
      .ok (if v.2.deprecated then deprecatedMark else []) := by
    cases v.2.deprecated <;> rfl
  have hcode : render false (("variant", variantFields layout v.1 v.2) :: values)
      (variantNodes.drop 1) = .ok ((if v.2.deprecated then deprecatedMark else []) ++
        ("    " ++ (v.2.identifier.getD [] ++ [',', '\n']))) :=
    render_cond rfl hmark hname
  rw [hcode, variantCode, List.append_assoc, List.append_assoc, List.append_assoc]
  rfl

theorem render_variant {layout : Layout} (h : layout.docMark = "///") (values : Fields)
    (v : Option Text × Member) :
    render false (("variant", variantFields layout v.1 v.2) :: values) variantNodes =
      .ok (variantText layout v) := by
  have hcode := render_variantCode layout values v
  have htext : render false (("variant", variantFields layout v.1 v.2) :: values) variantNodes =
      .ok ((variantComment layout v.1 ++ ['\n']) ++ (variantCode v.2 ++ ['\n'])) := by
    obtain ⟨documentation, m⟩ := v
    cases documentation with
    | none => exact render_cond rfl (congrArg Except.ok (List.append_nil _)) hcode
    | some t =>
      have hdocs : (Json.str ((Writer.start layout).docs t).render).truthy = true := by
        simpa [Json.truthy] using (docs_isCommentary h t).ne_nil
      refine render_cond rfl ?_ hcode
      rw [if_pos hdocs]
      exact render_text rfl (render_last _)
  rw [htext, variantText, List.append_assoc]
  rfl

/-- What the template of a declaration is filled with. -/
def declarationFields (layout : Layout) (docs metadata typeName members : Text)
    (variants : List (Option Text × Member)) : Fields :=
  [("docs", .str docs), ("metadata", .str metadata), ("enum_name", .str typeName),
   ("variants", .arr (variants.map fun v => variantFields layout v.1 v.2)),
   ("additional_members", .str members)]

def declarationText (layout : Layout) (docs metadata typeName members : Text)
    (variants : List (Option Text × Member)) : Text :=
  docs ++ '\n' :: ((metadata ++ ("enum " ++ (typeName ++ " \x7b"))) ++ '\n' ::
    ((variants.map (variantText layout)).flatten ++ (indentLines 4 members ++ "\n\x7d")))

theorem render_declaration {layout : Layout} (h : layout.docMark = "///")
    {docs : Text} (hdocs : docs ≠ []) (metadata typeName members : Text)
    (variants : List (Option Text × Member)) :
    renderNamed shelf "enum.rs.j2"
        (declarationFields layout docs metadata typeName members variants) =
      .ok (declarationText layout docs metadata typeName members variants) := by
  have hvariants : (variants.map fun v => variantFields layout v.1 v.2).mapM (fun item =>
      render false (("variant", item) ::
        declarationFields layout docs metadata typeName members variants) variantNodes) =
      .ok (variants.map (variantText layout)) := by
    rw [Outcome.mapM_eq_ok, List.forall₂_map_left_iff, List.forall₂_map_right_iff,
      List.forall₂_same]
    exact fun v _ => render_variant h _ v
  have hmembers : render false (declarationFields layout docs metadata typeName members variants)
      [.put (Slot.through "additional_members" (.indent 4)), .lit "\n\x7d"] =
      .ok (indentLines 4 members ++ "\n\x7d") :=
    render_text rfl (render_last _)
  have hhead : render false (declarationFields layout docs metadata typeName members variants)
      (enumTemplate.drop 1) = .ok (metadata ++ ("enum " ++ (typeName ++ (" \x7b\n" ++
        ((variants.map (variantText layout)).flatten ++
          (indentLines 4 members ++ "\n\x7d")))))) :=
    render_text rfl (render_lit _ (render_text rfl (render_lit _
      (render_each rfl hvariants hmembers))))
  have htruthy : (Json.str docs).truthy = true := by simpa [Json.truthy] using hdocs
  have hdocs : render false (declarationFields layout docs metadata typeName members variants)
      (if (Json.str docs).truthy then [.put "docs", .lit "\n"] else []) =
      .ok (docs ++ ['\n']) := by
    rw [if_pos htruthy]
    exact render_text rfl (render_last _)
  have hall : render false (declarationFields layout docs metadata typeName members variants)
      enumTemplate = .ok ((docs ++ ['\n']) ++ (metadata ++ ("enum " ++ (typeName ++
        (" \x7b\n" ++ ((variants.map (variantText layout)).flatten ++
          (indentLines 4 members ++ "\n\x7d"))))))) :=
    render_cond rfl hdocs hhead
  have hnamed : renderNamed shelf "enum.rs.j2"
      (declarationFields layout docs metadata typeName members variants) = .ok _ :=
    renderNamed_of_render rfl (by decide) rfl hall
  rw [hnamed]
  simp only [declarationText, List.append_assoc]
  rfl

theorem SameCode.variants {layout : Layout} (h : layout.docMark = "///")
    {variants others : List (Option Text × Member)}
    (hsame : List.Forall₂ (fun v o => variantCode v.2 = variantCode o.2) variants others)
    (tail : Text) :
    SameCode ((variants.map (variantText layout)).flatten ++ tail)
      ((others.map (variantText layout)).flatten ++ tail) := by
  induction hsame with
  | nil => exact .refl _
  | @cons v o variants others hcode _ ih =>
    have hsplit (v : Option Text × Member) (variants : List (Option Text × Member)) :
        ((v :: variants).map (variantText layout)).flatten ++ tail =
          variantComment layout v.1 ++ '\n' :: (variantCode v.2 ++ '\n' ::
            ((variants.map (variantText layout)).flatten ++ tail)) := by
      simp [variantText]
    rw [hsplit, hsplit, hcode]
    exact .below_commentary (variantComment_isCommentary h _) (variantComment_isCommentary h _)
      (.below _ ih)

/-- Declarations that differ in documentation have the same code. -/
theorem SameCode.declarations {layout : Layout} (h : layout.docMark = "///") {docs others : Text}
    (hdocs : IsCommentary docs) (hothers : IsCommentary others) (metadata typeName members : Text)
    {variants variants' : List (Option Text × Member)}
    (hsame : List.Forall₂ (fun v o => variantCode v.2 = variantCode o.2) variants variants') :
    SameCode (declarationText layout docs metadata typeName members variants)
      (declarationText layout others metadata typeName members variants') :=
  .below_commentary hdocs hothers (.below _ (.variants h hsame _))

/-! ## Headers -/

theorem isCommentary_commentLines (t : Text) : IsCommentary (commentLines "//!" t) := by
  have hmarked : ∀ line ∈ Text.lines t, '\n' ∉ (if Text.allBlank line then ("//!" : Text)
      else "//!" ++ " " ++ line) := by
    intro line hline
    split
    · decide
    · simpa using Text.lineFeed_not_mem_line hline
  intro line hline
  rw [commentLines, Text.lines_unlines] at hline
  · obtain ⟨l, -, rfl⟩ := List.mem_map.mp hline
    split
    · decide
    · exact isComment_iff.mpr ⟨"//!", by decide, [], ' ' :: l, rfl, by simp⟩
  · simp [Text.lines_ne_nil]
  · exact List.forall_mem_map.mpr hmarked

def headerLine : Text := "// Code generated by openenum. DO NOT EDIT."

def headerText (docs : Json) : Text :=
  headerLine ++ '\n' :: (if docs.truthy then commentLines "//!" docs.shown ++ ['\n'] else [])

theorem render_header (docs : Json) :
    renderNamed shelf "module_header.rs.j2" [("module_docs", docs)] = .ok (headerText docs) := by
  have hpart : render false [("module_docs", docs)]
      (if docs.truthy then
        [.put (Slot.through "module_docs" (.comment "//!")), .lit "\n"] else []) =
      .ok (if docs.truthy then commentLines "//!" docs.shown ++ ['\n'] else []) := by
    cases docs.truthy with
    | false => rfl
    | true => exact render_text rfl (render_last _)
  have hall : render false [("module_docs", docs)] headerTemplate =
      .ok (("// Code generated by openenum. DO NOT EDIT.\n" : Text) ++
        ((if docs.truthy then commentLines "//!" docs.shown ++ ['\n'] else []) ++ [])) :=
    render_lit _ (render_cond rfl hpart rfl)
  have hnamed : renderNamed shelf "module_header.rs.j2" [("module_docs", docs)] = .ok _ :=
    renderNamed_of_render rfl (by decide) rfl hall
  have hline : ("// Code generated by openenum. DO NOT EDIT.\n" : Text) = headerLine ++ ['\n'] := by
    unfold headerLine
    decide
  rw [hnamed, hline, headerText, List.append_nil, List.append_assoc, List.singleton_append]

theorem SameCode.headers (docs : Json) : SameCode (headerText docs) (headerText .null) := by
  rw [headerText]
  split
  · have hsingle : '\n' ∉ headerLine := by
      unfold headerLine
      decide
    exact .headed hsingle rfl (isCommentary_commentLines docs.shown) []
  · exact .refl _

end CatchAll.Target.Rust
