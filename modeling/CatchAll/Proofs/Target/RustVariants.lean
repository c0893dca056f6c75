import CatchAll.Proofs.Target.Placeholder
import CatchAll.Proofs.Target.RustEmission

/-!
# The lists of variants of a Rust enum

The code of an enum is taken apart into lines: the documentation of the schema
and of the policy, the decoration, the body, the conversions and the methods. A
reader of one list finds it by a line that nothing before it, or nothing after
it, can be. So each list is that of the context, whatever the documentation and
the path of the wrapper are.
-/

set_option autoImplicit false

namespace CatchAll.Target.Rust

open scoped Text
open Naming Schema Outcome

/-! ## Readers -/

def conversionHeader (typeName : Text) : Text :=
  "impl " ++ conversionTrait ++ "<&str> for " ++ typeName ++ " \x7b"

/-- What stands between that line and the arms. -/
def conversionStart : List Text := ["    fn from(s: &str) -> Self \x7b", "        match s \x7b"]

/-- The arms of the conversion from a text. -/
def readFrom (typeName code : Text) : Option (Table Text) := do
  let item := (Text.lines code).dropWhile (· ≠ conversionHeader typeName)
  let arms ← (item.takeWhile (· ≠ bodyEnd) ++ [bodyEnd]).dropPrefix? (opening typeName)
  readArms typeName arms

/-- What the arms of the conversion from a text give. -/
def readConverted (typeName code : Text) : Option (List Arm) := do
  return (← readFrom typeName code).map (fun arm => .variant arm.2) ++ [.catchAll]

/-- What the arms of the conversion to a text are for. -/
def readMatched (typeName code : Text) : Option (List Arm) := do
  return (← readAsStr typeName code).map (fun arm => .variant arm.1) ++ [.catchAll]

/-! ## The lines of the code -/

/-- What stands around the lists of an enum. -/
structure Frame where
  documentation : List Text
  decoration : List Text
  visibility : Text

structure Frame.Fits (frame : Frame) : Prop where
  documentation : ∀ l ∈ frame.documentation, ("///" : Text) <+: l
  decoration : ∀ l ∈ frame.decoration, l.head? = some '#'
  visibility : frame.visibility ∈ visibilities

def allowLines (allow : Bool) : List Text := if allow then ["#[allow(deprecated)]"] else []

/-- The body of the enum. -/
def declaredLines (parts : Parts) : List Text :=
  parts.variants.flatMap (variantLines parts.layout) ++ (catchAllLines parts.path).map inBody

/-- The conversion from a text up to its end. -/
def conversionLines (parts : Parts) (c : Context) : List Text :=
  opening c.typeName ++ (c.arms.map (fun arm => inMatch (fromArm c.typeName arm)) ++
    ((Text.lines (catchAllArm c.typeName parts.path)).map inMatch ++ closing.dropLast))

/-- All above the body. -/
def Frame.above (frame : Frame) (c : Context) : List Text :=
  frame.documentation ++ ((docsLines c).map marked ++ frame.decoration)

/-- All between the body and the conversions. -/
def gapLines (c : Context) : List Text :=
  bodyEnd :: [] :: allowLines (c.named.any (·.deprecated))

/-- All between the conversion from a text and the methods. -/
def parsingLines (parts : Parts) (c : Context) : List Text :=
  bodyEnd :: [] :: (Text.lines (fromStrImplText parts.layout c) ++
    [] :: allowLines (c.named.any (·.deprecated)))

def Frame.lines (frame : Frame) (parts : Parts) (c : Context) : List Text :=
  frame.above c ++ enumHeader frame.visibility c.typeName :: (declaredLines parts ++
    (gapLines c ++ (conversionLines parts c ++ (parsingLines parts c ++
      implHeader c.typeName :: methodLines c))))

variable {config : Config} {p : Plan} {d : Definition} {c : Context} {parts : Parts}

theorem lines_allowText (allow : Bool) (t : Text) :
    Text.lines (allowText allow ++ t) = allowLines allow ++ Text.lines t := by
  cases allow with
  | false => rfl
  | true => exact Template.lines_lit (by decide) rfl

/-- The documentation of the schema stands before that of the policy. -/
theorem lines_enumDocs {layout : Layout} (hmark : layout.docMark = "///")
    (hT : '\n' ∉ c.typeName) (hplaceholder : '\n' ∉ placeholder c.members)
    (hvariants : ∀ v ∈ c.variants, '\n' ∉ v) (documentation : Option Text) :
    ∃ own : List Text, (∀ l ∈ own, ("///" : Text) <+: l) ∧
      Text.lines (enumDocs layout documentation (docsText layout c)) =
        own ++ (docsLines c).map marked := by
  obtain ⟨v, hv, hne, hdocs⟩ := docsText_documents hmark c
  have hpolicy : v.lines = (docsLines c).map marked := by
    rw [← hv.lines_render hne, ← hdocs]
    exact lines_docsText hT hplaceholder hvariants hmark
  have hnonempty : docsText layout c ≠ [] := by
    rw [hdocs]
    exact (hv.isCommentary hne).ne_nil
  have hwritten {w : Writer} (hw : Documents w) :
      Text.lines (w.write v.render).render = w.lines ++ (docsLines c).map marked := by
    obtain ⟨hall, hlines⟩ := hw.write hv hne
    rw [hall.lines_render hlines, hw.write_eq hv hne, ← hpolicy]
    rfl
  have hstart := documents_start hmark
  simp only [enumDocs, if_neg hnonempty]
  rw [hdocs]
  cases documentation with
  | none => exact ⟨[], List.forall_mem_nil _, hwritten hstart⟩
  | some t =>
    have hown := (hstart.docs t).docs []
    exact ⟨_, fun l hl => (hown.lines l hl).mark, hwritten hown⟩

theorem closing_eq : closing = closing.dropLast ++ [bodyEnd] := rfl

/-- What is emitted for an enum, line by line. -/
theorem lines_code (hp : backend.Plans config p) (hc : c.Of p d) (hparts : parts.Of p c)
    {implemented : Text}
    (h : Template.renderNamed shelf "enum_impl.rs.j2" (parts.fields c) = .ok implemented) :
    ∃ frame : Frame, frame.Fits ∧
      Text.lines (parts.declared c ++ ("\n\n" ++ implemented)) = frame.lines parts c := by
  have hT := lineFeed_not_mem_typeName hp hc
  have hfits := fits_arms hp hc
  have harms : ∀ arm ∈ c.arms, '\n' ∉ arm.1 :=
    fun arm harm => lineFeed_not_mem_of_isName (hfits arm harm).isName
  have hvariants : ∀ v ∈ c.variants, '\n' ∉ v :=
    fun v hv => lineFeed_not_mem_of_isName (hc.isName_variants v hv)
  have hplaceholder : '\n' ∉ placeholder c.members :=
    fun hmem => absurd (choosePlaceholder_chars c.members none _ hmem) (by decide)
  have hmark : parts.layout.docMark = "///" := (layout_docMark hparts.layout).trans hp.docMark
  obtain ⟨own, hown, hdocs⟩ :=
    lines_enumDocs hmark hT hplaceholder hvariants parts.documentation
  obtain ⟨decoration, hdecoration, hmetadata⟩ := hparts.metadata
  obtain ⟨decoration', hdecoration', hchecked⟩ := decoration_some hp hc
  obtain rfl : decoration = decoration' :=
    Option.some.inj (hdecoration.symm.trans hdecoration')
  obtain ⟨traits, visibility, rfl, -, hvisibility⟩ := decorationOf_ok hchecked
  obtain ⟨head, hhead, hopening⟩ := lines_metadata hvisibility hmetadata c.typeName hT
  have hnames : ∀ v ∈ parts.variants, '\n' ∉ v.2.identifier.getD [] := by
    intro v hv
    refine hvariants _ ?_
    rw [c.variants_eq_map_named, ← hparts.variants, List.map_map]
    exact List.mem_map_of_mem hv
  obtain ⟨methods, hmethods, hbelow⟩ := @render_implementations c (c.named.any (·.deprecated))
    (fromImplText parts.layout c parts.path) (fromStrImplText parts.layout c) hT harms
  obtain rfl := Except.ok.inj (h.symm.trans hmethods)
  refine ⟨⟨own, head, visibility⟩, ⟨hown, hhead, hvisibility⟩, ?_⟩
  rw [Text.lines_paragraph, Parts.declared, lines_declaration hmark _ _ _ _ hnames, hdocs,
    hopening, lines_allowText, Text.lines_paragraph, lines_fromImplText _ hT harms,
    Text.lines_paragraph, lines_allowText, hbelow, closing_eq]
  unfold Frame.lines Frame.above declaredLines gapLines conversionLines parsingLines
  simp only [List.append_assoc, List.cons_append, List.nil_append]

/-! ## How lines begin -/

theorem head?_of_mark {l : Text} (h : ("///" : Text) <+: l) : l.head? = some '/' := by
  obtain ⟨rest, rfl⟩ := h
  rfl

theorem mark_isPrefixOf {l : Text} (h : l.head? ≠ some '/') :
    ("///" : Text).isPrefixOf l = false := by
  rw [Bool.eq_false_iff]
  exact fun hmark => h (head?_of_mark (List.isPrefixOf_iff_prefix.mp hmark))

theorem head?_enumHeader {visibility : Text} (h : visibility ∈ visibilities) (typeName : Text) :
    (enumHeader visibility typeName).head? = some 'p' :=
  head?_opensEnum (List.any_eq_true.mpr ⟨visibility, h, decide_eq_true rfl⟩)

theorem head?_allowLines (allow : Bool) : ∀ l ∈ allowLines allow, l.head? = some '#' := by
  cases allow <;> decide

theorem Frame.Fits.head?_above {frame : Frame} (h : frame.Fits) (c : Context) :
    ∀ l ∈ frame.above c, l.head? = some '/' ∨ l.head? = some '#' := by
  simp only [Frame.above, List.forall_mem_append, List.forall_mem_map]
  exact ⟨fun l hl => .inl (head?_of_mark (h.documentation l hl)),
    fun l _ => .inl (head?_of_mark (marked_start l)), fun l hl => .inr (h.decoration l hl)⟩

theorem opening_eq (typeName : Text) :
    opening typeName = conversionHeader typeName :: conversionStart := rfl

theorem bodyEnd_not_mem_conversionLines (parts : Parts) (c : Context) :
    bodyEnd ∉ conversionLines parts c := by
  have hinside (line : Text) : (inMatch line).head? ≠ some '\x7d' := by
    rw [inMatch]
    split
    · decide
    · exact fun h => absurd (Option.some.inj h) (by decide)
  have hall : ∀ l ∈ conversionLines parts c, l.head? ≠ some '\x7d' := by
    rw [conversionLines, opening_eq]
    simp only [List.forall_mem_append, List.forall_mem_cons, List.forall_mem_map]
    refine ⟨⟨?_, by decide⟩, fun arm _ => hinside _, fun line _ => hinside line, by decide⟩
    exact fun h => absurd (Option.some.inj h) (by decide)
  exact fun hmem => hall _ hmem rfl

/-! ## Reading the lists -/

section

variable {frame : Frame} {code : Text} (hframe : frame.Fits)
  (hcode : Text.lines code = frame.lines parts c)
include hframe hcode

theorem readExample_of_frame (hc : c.Of p d) (hT : IsName c.typeName) :
    readExample c.typeName code =
      some (c.variants.map .variant ++ [.guard (placeholder c.members), .default]) := by
  have hrest : ∀ l ∈ frame.decoration ++ [enumHeader frame.visibility c.typeName],
      l.head? ≠ some '/' := by
    rw [List.forall_mem_append, List.forall_mem_singleton, head?_enumHeader hframe.visibility]
    exact ⟨fun l hl => by rw [hframe.decoration l hl]; decide, by decide⟩
  have hlines : Text.lines code = frame.documentation ++ ((docsLines c).map marked ++
      (frame.decoration ++ [enumHeader frame.visibility c.typeName] ++ (declaredLines parts ++
        (gapLines c ++ (conversionLines parts c ++ (parsingLines parts c ++
          implHeader c.typeName :: methodLines c)))))) := by
    rw [hcode, Frame.lines, Frame.above]
    simp only [List.append_assoc, List.singleton_append]
  refine readExample_of_lines hT hc.isName_variants (choosePlaceholder_chars c.members none)
    hframe.documentation (fun l hl => mark_isPrefixOf (hrest l ?_)) hlines
  rw [List.head?_append_of_ne_nil _ (by simp)] at hl
  exact List.mem_of_head? hl

theorem readDeclared_of_frame (hmark : parts.layout.docMark = "///")
    (hvariants : parts.variants.map Prod.snd = c.named)
    (hfits : ∀ arm ∈ c.arms, FitsVariant arm.1) :
    readDeclared c.typeName code = some (c.variants.map .variant ++ [.catchAll]) := by
  have hnames : c.variants = parts.variants.map fun v => v.2.identifier.getD [] := by
    rw [c.variants_eq_map_named, ← hvariants, List.map_map]
    rfl
  have hall : ∀ v ∈ parts.variants, FitsVariant (v.2.identifier.getD []) := by
    rw [← List.forall_mem_map, ← hnames, ← c.keys_arms, Table.keys, List.forall_mem_map]
    exact hfits
  have habove : ∀ l ∈ frame.above c, l.head? ≠ some 'p' := by
    intro l hl
    rcases hframe.head?_above c l hl with h | h <;> rw [h] <;> decide
  have hlines : Text.lines code = frame.above c ++ enumHeader frame.visibility c.typeName ::
      (parts.variants.flatMap (variantLines parts.layout) ++
        ((catchAllLines parts.path).map inBody ++ bodyEnd :: ((gapLines c).tail ++
          (conversionLines parts c ++ (parsingLines parts c ++
            implHeader c.typeName :: methodLines c))))) := by
    rw [hcode, Frame.lines, declaredLines]
    simp only [List.append_assoc]
    rfl
  rw [hnames, List.map_map]
  exact readDeclared_of_lines hmark hall hframe.visibility habove hlines

/-- Nothing before the conversion from a text begins as it does. -/
theorem readFrom_of_frame (hmark : parts.layout.docMark = "///") (hT : '\n' ∉ c.typeName)
    (hfits : ∀ arm ∈ c.arms, FitsVariant arm.1) :
    readFrom c.typeName code = some (c.arms.map Prod.swap) := by
  have hgap : ∀ l ∈ gapLines c, l.head? ≠ some 'i' := by
    simp only [gapLines, List.forall_mem_cons]
    exact ⟨by decide, by decide, fun l hl => by rw [head?_allowLines _ l hl]; decide⟩
  have hbefore : ∀ l ∈ frame.above c ++ enumHeader frame.visibility c.typeName ::
      (declaredLines parts ++ gapLines c), l.head? ≠ some 'i' := by
    simp only [List.forall_mem_append, List.forall_mem_cons]
    refine ⟨fun l hl => ?_, ?_, fun l hl => ?_, hgap⟩
    · rcases hframe.head?_above c l hl with h | h <;> rw [h] <;> decide
    · rw [head?_enumHeader hframe.visibility]
      decide
    · rcases head?_body hmark parts.variants parts.path l hl with rfl | h
      · decide
      · rw [h]
        decide
  have hdrop : (Text.lines code).dropWhile (· ≠ conversionHeader c.typeName) =
      conversionLines parts c ++ (parsingLines parts c ++
        implHeader c.typeName :: methodLines c) := by
    have hlines : Text.lines code = (frame.above c ++ enumHeader frame.visibility c.typeName ::
        (declaredLines parts ++ gapLines c)) ++ (conversionLines parts c ++
          (parsingLines parts c ++ implHeader c.typeName :: methodLines c)) := by
      rw [hcode, Frame.lines]
      simp only [List.append_assoc, List.cons_append]
    rw [hlines, conversionLines, opening_eq, List.cons_append, List.cons_append]
    exact dropWhile_ne (fun hl => hbefore _ hl rfl) _
  have htake : (conversionLines parts c ++ (parsingLines parts c ++
      implHeader c.typeName :: methodLines c)).takeWhile (· ≠ bodyEnd) =
      conversionLines parts c :=
    takeWhile_ne (bodyEnd_not_mem_conversionLines parts c) _
  have hwhole : conversionLines parts c ++ [bodyEnd] = opening c.typeName ++
      (c.arms.map (fun arm => inMatch (fromArm c.typeName arm)) ++
        ((Text.lines (catchAllArm c.typeName parts.path)).map inMatch ++ closing)) := by
    rw [conversionLines, closing_eq]
    simp only [List.append_assoc]
    rfl
  rw [readFrom, hdrop, htake, hwhole, dropPrefix?_append, Option.bind_eq_bind, Option.bind_some,
    readArms_append c.typeName hfits, readArms_catchAll hT, Option.map_some, List.append_nil]

end

/-- What is read from the code that is emitted for a context. -/
structure Shows (code : Text) (c : Context) : Prop where
  declared : readDeclared c.typeName code = some (c.variants.map .variant ++ [.catchAll])
  converted : readConverted c.typeName code = some (c.variants.map .variant ++ [.catchAll])
  matched : readMatched c.typeName code = some (c.variants.map .variant ++ [.catchAll])
  documented : readExample c.typeName code =
    some (c.variants.map .variant ++ [.guard (placeholder c.members), .default])
  cases : readFrom c.typeName code = some (c.arms.map Prod.swap)
  arms : readAsStr c.typeName code = some c.arms
  values : readValues c.typeName code = some c.values

theorem shows_of_single {code : Text} {register register' : Register} {j j' : Journal}
    (hp : backend.Plans config p)
    (h : (single p d).run register j = ((.ok code, register'), j')) :
    ∃ c, c.Of p d ∧ Shows code c := by
  obtain ⟨c, hc, parts, implemented, hparts, -, himplemented, rfl⟩ := single_ok hp h
  obtain ⟨frame, hframe, hcode⟩ := lines_code hp hc hparts himplemented
  have hT : IsName c.typeName :=
    hc.isName_typeName (hp.vocabulary ▸ endsInLetters_rust)
  have hfits := fits_arms hp hc
  have hmark : parts.layout.docMark = "///" := (layout_docMark hparts.layout).trans hp.docMark
  have hmethods : Text.lines (parts.declared c ++ ("\n\n" ++ implemented)) =
      (frame.above c ++ enumHeader frame.visibility c.typeName :: (declaredLines parts ++
        (gapLines c ++ (conversionLines parts c ++ parsingLines parts c)))) ++
          implHeader c.typeName :: methodLines c := by
    rw [hcode, Frame.lines]
    simp only [List.append_assoc, List.cons_append]
  have harms := readAsStr_of_lines hT hmethods hfits
  have hcases := readFrom_of_frame hframe hcode hmark (lineFeed_not_mem_of_isName hT) hfits
  refine ⟨c, hc, readDeclared_of_frame hframe hcode hmark hparts.variants hfits, ?_, ?_,
    readExample_of_frame hframe hcode hc hT, hcases, harms,
    readValues_of_lines hT hmethods hc.values_ne_nil⟩
  · rw [readConverted, hcases, ← c.keys_arms]
    simp [Table.keys]
  · rw [readMatched, harms, ← c.keys_arms]
    simp [Table.keys]

end CatchAll.Target.Rust
