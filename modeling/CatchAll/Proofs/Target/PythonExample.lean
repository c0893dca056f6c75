import CatchAll.Proofs.Target.Arms
import CatchAll.Proofs.Target.Passages
import CatchAll.Proofs.Target.Placeholder
import CatchAll.Proofs.Target.PythonLines

/-!
# The example in the documentation of a Python class

The policy documents a class with a match that keeps working when the schema
grows. It follows the documentation of the schema and stands above the slots of
the class, so the last title of an example there is that of the policy. The
cases below it are those of the context.
-/

set_option autoImplicit false

namespace CatchAll.Target.Python

open scoped Text
open Naming Schema

/-! ## Readers -/

def exampleHeadline : Text :=
  "Here is an example of how you can make a match statement forward-compatible::"

def exampleTitle : Text := "    " ++ exampleHeadline

def guardHead : Text := "case other if other.as_str() == \""

def defaultCase : Text := "case _:"

def dots : Text := "..."

def readGuard (line : Text) : Option Arm := do
  let rest ← line.dropPrefix? guardHead
  let placeholder := rest.takeWhile (· ≠ '"')
  if rest = placeholder ++ "\":" then some (.guard placeholder) else none

def readVariantCase (typeName line : Text) : Option Arm := do
  let (name, end_) := cutName (← line.dropPrefix? ("case " ++ typeName ++ "."))
  if end_ = [':'] then some (.variant name) else none

/-- A case of the match in an example. -/
def readExampleCase (typeName line : Text) : Option Arm :=
  if line = defaultCase then some .default
  else (readGuard line).or (readVariantCase typeName line)

/-- The cases up to the one for everything else, each with its body. -/
def readExampleCases (typeName : Text) : List Text → Option (List Arm)
  | line :: body :: rest =>
    if trimmed body = dots then
      match readExampleCase typeName (trimmed line) with
      | some .default => some [.default]
      | some arm => (readExampleCases typeName rest).map (arm :: ·)
      | none => none
    else none
  | _ => none

def isRemark (line : Text) : Bool := (trimmed line).head? = some '#'

/-- The cases of the example that the documentation of a class ends with. -/
def readExampleMatch (typeName : Text) (docs : List Text) : Option (List Arm) := do
  let (_, example_) ← cutAtLast exampleTitle docs
  match example_ with
  | _ :: matching :: rest =>
    if ("match " : Text).isPrefixOf (trimmed matching) then
      readExampleCases typeName (rest.filter (!isRemark ·))
    else none
  | _ => none

/-! ## Cases -/

def variantCase (typeName name : Text) : Text := "case " ++ typeName ++ "." ++ name ++ ":"

def guardCase (placeholder : Text) : Text := guardHead ++ placeholder ++ "\":"

def guardRemark (placeholder : Text) : Text := "# handles a case for `" ++ placeholder ++ "`"

/-- The lines of a case, with the margins of the case and of its body. -/
def caseBlock (outer inner header : Text) : List Text := [outer ++ header, inner ++ dots]

/-- The cases of the match for a context. -/
def exampleCases (outer inner placeholder : Text) (c : Context) : List Text :=
  c.variants.flatMap (fun v => caseBlock outer inner (variantCase c.typeName v)) ++
    ([outer ++ guardCase placeholder, inner ++ guardRemark placeholder, inner ++ dots] ++
      caseBlock outer inner defaultCase)

theorem mem_exampleCases {outer inner placeholder l : Text} {c : Context}
    (h : l ∈ exampleCases outer inner placeholder c) :
    ∃ line, l = outer ++ line ∨ l = inner ++ line := by
  simp only [exampleCases, caseBlock, List.mem_append, List.mem_flatMap, List.mem_cons,
    List.not_mem_nil, or_false] at h
  rcases h with ⟨v, -, rfl | rfl⟩ | (rfl | rfl | rfl) | (rfl | rfl)
  all_goals first | exact ⟨_, .inl rfl⟩ | exact ⟨_, .inr rfl⟩

section

variable {typeName placeholder name : Text}

theorem readExampleCase_variant (hT : IsName typeName) (h : IsName name) :
    readExampleCase typeName (variantCase typeName name) = some (.variant name) := by
  have hcolon : ∀ x, ":".toList.head? = some x → isNameChar x = false :=
    fun x hx => Option.some.inj hx ▸ rfl
  have hquote : '"' ∉ variantCase typeName name := by
    have hT' : '"' ∉ typeName := fun hmem => absurd (hT.chars _ hmem) (by decide)
    have hname : '"' ∉ name := fun hmem => absurd (h.chars _ hmem) (by decide)
    unfold variantCase
    simp [hT', hname]
  have hguard : readGuard (variantCase typeName name) = none := by
    rw [readGuard]
    cases hrest : (variantCase typeName name).dropPrefix? guardHead with
    | none => rfl
    | some rest =>
      obtain ⟨head, hline, hhead⟩ := List.dropPrefix?_eq_some_iff.mp hrest
      rw [hline, eq_of_beq hhead] at hquote
      exact absurd (List.mem_append_left _ (by decide)) hquote
  have hdefault : variantCase typeName name ≠ defaultCase := by
    intro heq
    have hdot : '.' ∈ variantCase typeName name := by
      unfold variantCase
      simp
    rw [heq] at hdot
    exact absurd hdot (by decide)
  have hform : variantCase typeName name = "case " ++ typeName ++ "." ++ (name ++ ":") :=
    List.append_assoc ..
  rw [readExampleCase, if_neg hdefault, hguard, Option.none_or, readVariantCase, hform,
    dropPrefix?_append, Option.bind_eq_bind, Option.bind_some, cutName_append h.chars hcolon]
  exact if_pos rfl

theorem readExampleCase_guard (h : '"' ∉ placeholder) :
    readExampleCase typeName (guardCase placeholder) = some (.guard placeholder) := by
  have hdefault : guardCase placeholder ≠ defaultCase := by
    intro heq
    have hquote : '"' ∈ guardCase placeholder :=
      List.mem_append_left _ (List.mem_append_left _ (by decide))
    rw [heq] at hquote
    exact absurd hquote (by decide)
  have htake : (placeholder ++ "\":").takeWhile (· ≠ '"') = placeholder := takeWhile_ne h _
  have hread : readGuard (guardCase placeholder) = some (.guard placeholder) := by
    rw [readGuard, guardCase, List.append_assoc, dropPrefix?_append, Option.bind_eq_bind,
      Option.bind_some, htake]
    exact if_pos rfl
  rw [readExampleCase, if_neg hdefault, hread, Option.some_or]

theorem readExampleCase_default (typeName : Text) :
    readExampleCase typeName defaultCase = some .default := if_pos rfl

variable {outer inner : Text} (houter : IsMargin outer) (hinner : IsMargin inner)
include houter hinner

theorem readExampleCases_block {header : Text} {arm : Arm} (hhead : header.head? = some 'c')
    (hread : readExampleCase typeName header = some arm) (harm : arm ≠ .default)
    (rest : List Text) :
    readExampleCases typeName (caseBlock outer inner header ++ rest) =
      (readExampleCases typeName rest).map (arm :: ·) := by
  have hbody : trimmed (inner ++ dots) = dots := trimmed_append hinner (c := '.') rfl rfl
  have hheader : trimmed (outer ++ header) = header := trimmed_append houter hhead rfl
  rw [caseBlock, List.cons_append, List.singleton_append, readExampleCases, if_pos hbody, hheader,
    hread]
  cases arm with
  | default => exact absurd rfl harm
  | _ => rfl

theorem readExampleCases_default (rest : List Text) :
    readExampleCases typeName (caseBlock outer inner defaultCase ++ rest) = some [.default] := by
  have hbody : trimmed (inner ++ dots) = dots := trimmed_append hinner (c := '.') rfl rfl
  have hheader : trimmed (outer ++ defaultCase) = defaultCase :=
    trimmed_append houter (c := 'c') rfl rfl
  rw [caseBlock, List.cons_append, List.singleton_append, readExampleCases, if_pos hbody, hheader,
    readExampleCase_default]

theorem readExampleCases_variants {names : List Text} (hT : IsName typeName)
    (h : ∀ name ∈ names, IsName name) (rest : List Text) :
    readExampleCases typeName
        (names.flatMap (fun name => caseBlock outer inner (variantCase typeName name)) ++ rest) =
      (readExampleCases typeName rest).map (names.map .variant ++ ·) := by
  induction names with
  | nil => simp
  | cons name names ih =>
    obtain ⟨hname, hnames⟩ := List.forall_mem_cons.mp h
    rw [List.flatMap_cons, List.append_assoc, readExampleCases_block houter hinner rfl
      (readExampleCase_variant hT hname) (by simp), ih hnames, Option.map_map]
    rfl

theorem filter_caseBlock {header : Text} (h : header.head? = some 'c') :
    (caseBlock outer inner header).filter (!isRemark ·) = caseBlock outer inner header := by
  refine List.filter_eq_self.mpr fun l hl => ?_
  simp only [caseBlock, List.mem_cons, List.not_mem_nil, or_false] at hl
  rcases hl with rfl | rfl
  · rw [isRemark, trimmed_append houter h rfl, h]
    rfl
  · rw [isRemark, trimmed_append hinner (c := '.') rfl rfl]
    rfl

/-- The cases of a context, whatever follows the one for everything else. -/
theorem readExampleCases_exampleCases {c : Context} (hT : IsName c.typeName)
    (hvariants : ∀ v ∈ c.variants, IsName v) (hplaceholder : '"' ∉ placeholder) (rest : List Text) :
    readExampleCases c.typeName
        ((exampleCases outer inner placeholder c ++ rest).filter (!isRemark ·)) =
      some (c.variants.map .variant ++ [.guard placeholder, .default]) := by
  have hremark : isRemark (inner ++ guardRemark placeholder) = true := by
    rw [isRemark, trimmed_append hinner (c := '#') rfl rfl]
    rfl
  have hguard : ([outer ++ guardCase placeholder, inner ++ guardRemark placeholder,
      inner ++ dots] : List Text).filter (!isRemark ·) =
      caseBlock outer inner (guardCase placeholder) := by
    show ([outer ++ guardCase placeholder] ++
      (inner ++ guardRemark placeholder) :: [inner ++ dots]).filter (!isRemark ·) = _
    have hdrop : ((inner ++ guardRemark placeholder) :: [inner ++ dots]).filter (!isRemark ·) =
        [inner ++ dots].filter (!isRemark ·) := List.filter_cons_of_neg (by simp [hremark])
    rw [List.filter_append, hdrop, ← List.filter_append]
    have hhead : (guardCase placeholder).head? = some 'c' := rfl
    exact filter_caseBlock houter hinner hhead
  have hcases : (c.variants.flatMap fun v =>
      caseBlock outer inner (variantCase c.typeName v)).filter (!isRemark ·) =
      c.variants.flatMap fun v => caseBlock outer inner (variantCase c.typeName v) := by
    rw [List.filter_flatMap]
    exact List.flatMap_congr fun v _ => filter_caseBlock houter hinner rfl
  rw [exampleCases, List.filter_append, List.filter_append, List.filter_append, hcases, hguard,
    filter_caseBlock houter hinner rfl, List.append_assoc, List.append_assoc,
    readExampleCases_variants houter hinner hT hvariants,
    readExampleCases_block houter hinner rfl (readExampleCase_guard hplaceholder) (by simp),
    readExampleCases_default houter hinner]
  rfl

end

/-! ## The documentation of the policy -/

def matchHeader (binding : Text) : Text := "match " ++ binding ++ ":"

/-- The match of the example. -/
def exampleMatchLines (outer unit binding placeholder : Text) (c : Context) : List Text :=
  (outer ++ matchHeader binding) ::
    exampleCases (unit ++ outer) (unit ++ (unit ++ outer)) placeholder c

/-- What follows the match. -/
def exampleClosing (case : Case) (c : Context) : List Text :=
  [] :: (Text.passage (explanation c.typeName (vocabulary.nameOf c.typeName .snake)
      (placeholder case c.members) (futureVariant case (placeholder case c.members))) ++
    [] :: Text.passage (catchAllCaution catchAllName wrapperName))

/-- The lines of the documentation of the policy. -/
def docsLines (unit : Text) (case : Case) (c : Context) : List Text :=
  Text.passage (forwardNote c.typeName "the generated code") ++
    [] :: exampleHeadline :: [] ::
      (exampleMatchLines unit unit (vocabulary.nameOf c.typeName .snake)
        (placeholder case c.members) c ++ exampleClosing case c)

section

variable {w : Writer} (hmark : w.layout.docMark = [])
include hmark

theorem docs_line {line : Text} (hsingle : '\n' ∉ line) (hne : line ≠ []) :
    w.docs line = w.append [w.indentation ++ line] := by
  have hline : w.docLine line = w.indentation ++ line := by
    show (if Writer.marked w.layout.docMark line = [] then [] else _ ++ _) = _
    rw [Writer.marked, if_pos hmark]
    exact if_neg hne
  rw [Writer.docs, Text.passage_of_single hsingle, List.map_singleton, hline]

theorem exampleBlock_eq {header : Text} (hsingle : '\n' ∉ header) (hhead : header.head? = some 'c') :
    suite w header (fun w => w.docs dots) =
      w.append (caseBlock w.indentation (w.layout.unit ++ w.indentation) header) := by
  refine suite_eq hsingle (Writer.shown_of_mem (List.mem_of_head? hhead) (by decide)) ?_
  exact docs_line (w := (w.append [w.indentation ++ header]).enter) hmark (by decide) (by decide)

end

theorem foldl_exampleCase {typeName : Text} {names : List Text} (hT : '\n' ∉ typeName)
    (h : ∀ name ∈ names, '\n' ∉ name) {w : Writer} (hmark : w.layout.docMark = []) :
    names.foldl (exampleCase typeName) w =
      w.append (names.flatMap fun name =>
        caseBlock w.indentation (w.layout.unit ++ w.indentation) (variantCase typeName name)) := by
  induction names generalizing w with
  | nil => simp [Writer.append]
  | cons name names ih =>
    obtain ⟨hname, hnames⟩ := List.forall_mem_cons.mp h
    have hsingle : '\n' ∉ variantCase typeName name := by
      unfold variantCase
      simp [hT, hname]
    have hcase : exampleCase typeName w name = w.append
        (caseBlock w.indentation (w.layout.unit ++ w.indentation) (variantCase typeName name)) := by
      rw [← exampleBlock_eq hmark hsingle rfl]
      rfl
    rw [List.foldl_cons, hcase, ih hnames (w := w.append _) hmark, Writer.append_append]
    rfl

theorem guardBlock_eq {placeholder : Text} (hplaceholder : '\n' ∉ placeholder) {w : Writer}
    (hmark : w.layout.docMark = []) :
    suite w (guardCase placeholder) (fun w => (w.docs (guardRemark placeholder)).docs dots) =
      w.append [w.indentation ++ guardCase placeholder,
        w.layout.unit ++ w.indentation ++ guardRemark placeholder,
        w.layout.unit ++ w.indentation ++ dots] := by
  have hguard : '\n' ∉ guardCase placeholder := by
    unfold guardCase guardHead
    simp [hplaceholder]
  have hremark : '\n' ∉ guardRemark placeholder := by
    unfold guardRemark
    simp [hplaceholder]
  have hbody (v : Writer) (hv : v.layout.docMark = []) :
      (v.docs (guardRemark placeholder)).docs dots =
        v.append [v.indentation ++ guardRemark placeholder, v.indentation ++ dots] := by
    have hdots : '\n' ∉ dots := by decide
    have hshown : dots ≠ [] := by decide
    rw [docs_line hv hremark (List.cons_ne_nil _ _)]
    exact (docs_line (w := v.append _) hv hdots hshown).trans (Writer.append_append ..)
  exact suite_eq hguard (Writer.shown_of_mem (c := 'c') List.mem_cons_self (by decide))
    (hbody _ hmark)

section

variable {c : Context} (hT : '\n' ∉ c.typeName) (hvariants : ∀ v ∈ c.variants, '\n' ∉ v)
include hT hvariants

theorem exampleMatch_eq {w : Writer} (hmark : w.layout.docMark = []) {binding placeholder : Text}
    (hbinding : '\n' ∉ binding) (hplaceholder : '\n' ∉ placeholder) :
    exampleMatch w c binding placeholder =
      w.append (exampleMatchLines w.indentation w.layout.unit binding placeholder c) := by
  have hmatch : '\n' ∉ matchHeader binding := by
    unfold matchHeader
    simp [hbinding]
  have hcases (v : Writer) (hv : v.layout.docMark = []) :
      suite (suite (c.variants.foldl (exampleCase c.typeName) v) (guardCase placeholder)
          fun w => (w.docs (guardRemark placeholder)).docs dots) defaultCase (fun w => w.docs dots) =
        v.append (exampleCases v.indentation (v.layout.unit ++ v.indentation) placeholder c) := by
    rw [foldl_exampleCase hT hvariants hv, guardBlock_eq hplaceholder (w := v.append _) hv,
      Writer.append_append, exampleBlock_eq (w := v.append _) hv (by decide) rfl,
      Writer.append_append, exampleCases, List.append_assoc]
    rfl
  exact suite_eq hmatch (Writer.shown_of_mem (c := 'm') List.mem_cons_self (by decide))
    (hcases _ hmark)

end

/-! ## Its lines -/

theorem docs_start {layout : Layout} (hmark : layout.docMark = []) (ls : List Text) (t : Text) :
    ((Writer.start layout).append ls).docs t =
      (Writer.start layout).append (ls ++ Text.passage t) := by
  have hline : ((Writer.start layout).append ls).docLine = id := by
    funext line
    have hmarked : Writer.marked layout.docMark line = line := if_pos hmark
    show (if Writer.marked layout.docMark line = [] then [] else Writer.marked layout.docMark line) =
      line
    rw [hmarked]
    split
    · exact (‹line = []›).symm
    · rfl
  rw [Writer.docs, hline, List.map_id, Writer.append_append]

theorem explanation_lines {typeName binding placeholder future : Text} (hT : '\n' ∉ typeName)
    (hbinding : '\n' ∉ binding) (hplaceholder : '\n' ∉ placeholder) (hfuture : '\n' ∉ future) :
    ∀ l ∈ Text.passage (explanation typeName binding placeholder future),
      isPlainLine l = true := by
  have hvariant : '\n' ∉ typeName ++ ("." : Text) ++ future := by
    simp [hT, hfuture]
  obtain ⟨ls, htext, hne, hplain⟩ : ∃ ls,
      explanation typeName binding placeholder future = withMargin 12 ls ∧ ls ≠ [] ∧
      ∀ l ∈ ls, isPlainLine l = true := by
    refine ⟨_, rfl, List.cons_ne_nil _ _, ?_⟩
    have haround {t u v : Text} (ht : isPlainLine t = true) (hu : '\n' ∉ u) (hv : '\n' ∉ v) :
        isPlainLine (t ++ u ++ v) = true := isPlainLine_append (isPlainLine_append ht hu) hv
    have hheld : isPlainLine ("`" ++ typeName ++ "." ++ catchAllName ++ "(" ++ wrapperName ++
        "(\"" ++ placeholder ++ "\"))`") = true :=
      haround (haround (haround (haround (by decide) hT (by decide)) (by decide) (by decide))
        (by decide) (by decide)) hplaceholder (by decide)
    simp only [List.forall_mem_cons]
    exact ⟨haround (by decide +kernel) hbinding (by decide),
      haround (by decide) hplaceholder (by decide +kernel),
      haround (by decide +kernel) hvariant (by decide), by decide +kernel, by decide +kernel,
      hheld, haround (by decide +kernel) hplaceholder (by decide), by decide +kernel,
      haround (by decide +kernel) hvariant (by decide +kernel),
      haround (haround (by decide) hvariant (by decide +kernel)) hplaceholder (by decide +kernel),
      by decide +kernel, List.forall_mem_nil _⟩
  rw [htext, passage_of_isPlainLine hne hplain]
  exact hplain

section

variable {layout : Layout} {c : Context} {case : Case} (hT : '\n' ∉ c.typeName)
  (hvariants : ∀ v ∈ c.variants, '\n' ∉ v) (hplaceholder : '\n' ∉ placeholder case c.members)
include hT hvariants hplaceholder

theorem docsText_eq (hmark : layout.docMark = []) :
    docsText layout case c =
      ((Writer.start layout).append (docsLines layout.unit case c)).render := by
  have hbinding : '\n' ∉ vocabulary.nameOf c.typeName .snake :=
    lineFeed_not_mem_of_isName (isName_nameOf (by decide) _ _)
  have hheadline : Text.passage exampleHeadline = [exampleHeadline] :=
    Text.passage_of_single (by decide +kernel)
  have hmatch (ls : List Text) : ((Writer.start layout).append ls).indented (fun w =>
      exampleMatch w c (vocabulary.nameOf c.typeName .snake) (placeholder case c.members)) =
      (Writer.start layout).append (ls ++ exampleMatchLines layout.unit layout.unit
        (vocabulary.nameOf c.typeName .snake) (placeholder case c.members) c) := by
    rw [Writer.indented, exampleMatch_eq hT hvariants
      (w := ((Writer.start layout).append ls).enter) hmark hbinding hplaceholder]
    have hindent : ((Writer.start layout).append ls).enter.indentation = layout.unit :=
      List.append_nil _
    rw [hindent]
    exact congrArg (fun lines => (⟨layout, lines, 0⟩ : Writer)) (List.append_assoc [] ls _)
  have hstart : Writer.start layout = (Writer.start layout).append [] := rfl
  unfold exampleHeadline at hheadline
  rw [docsText, hstart]
  simp only [docs_start hmark, hmatch, hheadline, Text.passage_of_single List.not_mem_nil]
  refine congrArg (fun ls => ((Writer.start layout).append ls).render) ?_
  unfold docsLines exampleClosing exampleHeadline
  simp only [List.append_assoc, List.cons_append, List.nil_append]

theorem lineFeed_not_mem_docsLines {unit : Text} (hunit : '\n' ∉ unit) :
    ∀ l ∈ docsLines unit case c, '\n' ∉ l := by
  have hpassage (t : Text) : ∀ l ∈ Text.passage t, '\n' ∉ l :=
    fun _ hl => Text.lineFeed_not_mem_passage hl
  have hbinding : '\n' ∉ vocabulary.nameOf c.typeName .snake :=
    lineFeed_not_mem_of_isName (isName_nameOf (by decide) _ _)
  have hcases : ∀ l ∈ exampleCases (unit ++ unit) (unit ++ (unit ++ unit))
      (placeholder case c.members) c, '\n' ∉ l := by
    have hblock {header : Text} (h : '\n' ∉ header) :
        ∀ l ∈ caseBlock (unit ++ unit) (unit ++ (unit ++ unit)) header, '\n' ∉ l := by
      simp [caseBlock, hunit, h, dots]
    simp only [exampleCases, List.forall_mem_append]
    refine ⟨fun l hl => ?_, ?_, hblock (by decide)⟩
    · obtain ⟨v, hv, hl⟩ := List.mem_flatMap.mp hl
      refine hblock ?_ l hl
      unfold variantCase
      simp [hT, hvariants v hv]
    · unfold guardCase guardHead guardRemark dots
      simp [hunit, hplaceholder]
  simp only [docsLines, exampleMatchLines, exampleClosing, List.forall_mem_append,
    List.forall_mem_cons]
  refine ⟨hpassage _, List.not_mem_nil, by decide +kernel, List.not_mem_nil, ⟨?_, hcases⟩,
    List.not_mem_nil, hpassage _, List.not_mem_nil, hpassage _⟩
  unfold matchHeader
  simp [hunit, hbinding]

theorem lines_docsText (hmark : layout.docMark = []) (hunit : '\n' ∉ layout.unit) :
    Text.lines (docsText layout case c) = docsLines layout.unit case c := by
  have hne : docsLines layout.unit case c ≠ [] := by
    unfold docsLines
    simp
  rw [docsText_eq hT hvariants hplaceholder hmark, Writer.lines_start_append layout hne
    (lineFeed_not_mem_docsLines hT hvariants hplaceholder hunit)]

end

/-- No line below the headline of the example is that headline again. -/
theorem headline_not_mem {c : Context} {case : Case} (hT : '\n' ∉ c.typeName)
    (hplaceholder : '\n' ∉ placeholder case c.members) {unit : Text} (hne : unit ≠ [])
    (hunit : IsMargin unit) :
    exampleHeadline ∉ [] :: (exampleMatchLines unit unit (vocabulary.nameOf c.typeName .snake)
      (placeholder case c.members) c ++ exampleClosing case c) := by
  have hbinding : '\n' ∉ vocabulary.nameOf c.typeName .snake :=
    lineFeed_not_mem_of_isName (isName_nameOf (by decide) _ _)
  have hfuture : '\n' ∉ futureVariant case (placeholder case c.members) :=
    lineFeed_not_mem_of_isName (isName_nameOf endsInLetters_pythonMembers _ _)
  have hplain {l : Text} (h : isPlainLine l = true) : l ≠ exampleHeadline := by
    rintro rfl
    exact absurd h (by decide +kernel)
  have hindented (line : Text) : unit ++ line ≠ exampleHeadline := by
    obtain ⟨x, unit, rfl⟩ := List.exists_cons_of_ne_nil hne
    intro heq
    obtain rfl : x = 'H' := Option.some.inj (congrArg List.head? heq)
    exact absurd (hunit 'H' List.mem_cons_self) (by decide)
  have hcases : ∀ l ∈ exampleMatchLines unit unit (vocabulary.nameOf c.typeName .snake)
      (placeholder case c.members) c, ∃ line, l = unit ++ line := by
    refine List.forall_mem_cons.mpr ⟨⟨_, rfl⟩, fun l hl => ?_⟩
    obtain ⟨line, rfl | rfl⟩ := mem_exampleCases hl
    all_goals exact ⟨_, List.append_assoc ..⟩
  have hall : ∀ l ∈ [] :: (exampleMatchLines unit unit (vocabulary.nameOf c.typeName .snake)
      (placeholder case c.members) c ++ exampleClosing case c), l ≠ exampleHeadline := by
    simp only [exampleClosing, List.forall_mem_append, List.forall_mem_cons]
    refine ⟨by decide, fun l hl => ?_, by decide,
      fun l hl => hplain (explanation_lines hT hbinding hplaceholder hfuture l hl), by decide,
      fun l hl => hplain (caution_lines l hl)⟩
    obtain ⟨line, rfl⟩ := hcases l hl
    exact hindented line
  exact fun hmem => hall _ hmem rfl

/-! ## In the class -/

/-- A line as it stands in the class. -/
def inClass (line : Text) : Text :=
  if Text.allBlank line then [] else List.replicate 4 ' ' ++ line

theorem inClass_append {margin line : Text} (h : Text.allBlank line = false) :
    inClass (margin ++ line) = (List.replicate 4 ' ' ++ margin) ++ line := by
  rw [inClass, Writer.allBlank_append_of_shown margin h, List.append_assoc]
  exact if_neg Bool.false_ne_true

theorem map_inClass_exampleCases {outer inner placeholder : Text} {c : Context} :
    (exampleCases outer inner placeholder c).map inClass =
      exampleCases (List.replicate 4 ' ' ++ outer) (List.replicate 4 ' ' ++ inner) placeholder c := by
  have hshown {header : Text} (h : ':' ∈ header) : Text.allBlank header = false :=
    Writer.shown_of_mem h (by decide)
  have hdots : Text.allBlank dots = false := by decide
  have hremark : Text.allBlank (guardRemark placeholder) = false :=
    Writer.shown_of_mem (c := '#') List.mem_cons_self (by decide)
  have hblock {header : Text} (h : ':' ∈ header) : (caseBlock outer inner header).map inClass =
      caseBlock (List.replicate 4 ' ' ++ outer) (List.replicate 4 ' ' ++ inner) header := by
    rw [caseBlock, List.map_cons, List.map_singleton, inClass_append (hshown h),
      inClass_append hdots]
    rfl
  have hguard : ':' ∈ guardCase placeholder := by
    unfold guardCase
    simp
  have hvariants : (c.variants.flatMap fun v =>
      caseBlock outer inner (variantCase c.typeName v)).map inClass = c.variants.flatMap fun v =>
        caseBlock (List.replicate 4 ' ' ++ outer) (List.replicate 4 ' ' ++ inner)
          (variantCase c.typeName v) := by
    rw [List.map_flatMap]
    refine List.flatMap_congr fun v _ => hblock ?_
    unfold variantCase
    simp
  rw [exampleCases, List.map_append, List.map_append, hvariants, hblock (by decide), List.map_cons,
    List.map_cons, List.map_singleton, inClass_append (hshown hguard), inClass_append hremark,
    inClass_append hdots]
  rfl

theorem docsLines_first {c : Context} (hT : '\n' ∉ c.typeName) (unit : Text) (case : Case) :
    ∃ first rest x, docsLines unit case c = first :: rest ∧ first.head? = some x ∧
      Text.isIndent x = false := by
  have hplain := @note_lines c.typeName "the generated code" hT (by decide +kernel)
  obtain ⟨first, rest, hnote⟩ := List.exists_cons_of_ne_nil
    (Text.passage_ne_nil (forwardNote c.typeName "the generated code"))
  have hbegins := (isPlainLine_spec (hplain first (hnote ▸ List.mem_cons_self))).2
  obtain ⟨x, hx, hshown⟩ := Option.any_eq_true _ _ |>.mp hbegins
  obtain ⟨more, hmore⟩ : Text.passage (forwardNote c.typeName "the generated code") <+:
      docsLines unit case c := List.prefix_append _ _
  refine ⟨first, rest ++ more, x, ?_, hx, by simpa using hshown⟩
  rw [← hmore, hnote, List.cons_append]

theorem docsLines_last (unit : Text) (case : Case) (c : Context) :
    ∃ init last, docsLines unit case c = init ++ [last] ∧ Text.hasContent last = true := by
  have hsuffix : Text.passage (catchAllCaution catchAllName wrapperName) <:+
      docsLines unit case c :=
    (List.suffix_cons _ _).trans <| (List.suffix_append _ _).trans <|
      (List.suffix_cons _ _).trans <| (List.suffix_append _ _).trans <|
      (List.suffix_cons _ _).trans <| (List.suffix_cons _ _).trans <|
      (List.suffix_cons _ _).trans (List.suffix_append _ _)
  obtain ⟨front, hfront⟩ := hsuffix
  have hne := Text.passage_ne_nil (catchAllCaution catchAllName wrapperName)
  refine ⟨front ++ (Text.passage (catchAllCaution catchAllName wrapperName)).dropLast, _, ?_,
    hasContent_of_beginsShown (isPlainLine_spec (caution_lines _ (List.getLast_mem hne))).2⟩
  rw [← hfront, List.append_assoc, List.dropLast_append_getLast]

theorem inClass_headline : inClass exampleHeadline = exampleTitle := by
  decide +kernel

theorem eq_headline_of_inClass {line : Text} (h : inClass line = exampleTitle) :
    line = exampleHeadline := by
  rw [inClass] at h
  split at h
  · cases h
  · exact List.append_cancel_left h

theorem inClass_codeLine (layout : Layout) (line : Text) :
    (if Text.allBlank ((Writer.start layout).codeLine line) then (Writer.start layout).codeLine line
      else List.replicate 4 ' ' ++ (Writer.start layout).codeLine line) = inClass line := by
  rw [inClass]
  cases h : Text.allBlank line with
  | true =>
    rw [Writer.codeLine, h]
    rfl
  | false =>
    have hline : (Writer.start layout).codeLine line = line := Writer.codeLine_of_shown h
    rw [hline, h]
    rfl

section

variable {layout : Layout} {c : Context} {case : Case} (hT : IsName c.typeName)
  (hvariants : ∀ v ∈ c.variants, IsName v)
include hT hvariants

/-- The documentation of the schema stands before that of the policy. -/
theorem lines_classDocs (hmark : layout.docMark = []) (hunit : IsMargin layout.unit)
    (documentation : Option Text) :
    ∃ own, Text.lines (Template.indentLines 4
        (classDocs layout documentation (docsText layout case c))) =
      own ++ (docsLines layout.unit case c).map inClass := by
  have hTfeed := lineFeed_not_mem_of_isName hT
  have hnames : ∀ v ∈ c.variants, '\n' ∉ v :=
    fun v hv => lineFeed_not_mem_of_isName (hvariants v hv)
  have hshown : '\n' ∉ placeholder case c.members :=
    fun hmem => absurd (choosePlaceholder_chars c.members _ _ hmem) (by decide)
  have hlines := lines_docsText hTfeed hnames hshown hmark (lineFeed_not_mem_margin hunit)
  obtain ⟨first, rest, x, hfirst, hhead, hx⟩ := docsLines_first hTfeed layout.unit case
  obtain ⟨init, last, hlast, hcontent⟩ := docsLines_last layout.unit case c
  have hwritten {ls : List Text} (hls : ∀ l ∈ ls, '\n' ∉ l) : ∃ own,
      Text.lines (Template.indentLines 4
        (((Writer.start layout).append ls).write (docsText layout case c)).render) =
        own ++ (docsLines layout.unit case c).map inClass := by
    refine ⟨ls.map fun l => if Text.allBlank l then l else List.replicate 4 ' ' ++ l, ?_⟩
    rw [Template.lines_indentLines,
      Writer.lines_start_write layout hls hlines hfirst hhead hx hlast hcontent, List.map_append,
      List.map_map]
    exact congrArg _ (List.map_congr_left fun line _ => inClass_codeLine layout line)
  have hnonempty : docsText layout case c ≠ [] := by
    intro hnil
    rw [hnil, hfirst] at hlines
    obtain rfl : [] = first := (List.cons.inj hlines).1
    cases hhead
  rw [classDocs]
  simp only [if_neg hnonempty]
  split
  · exact hwritten (List.forall_mem_nil _)
  · have hstart (t : Text) : (Writer.start layout).docs t =
        (Writer.start layout).append (Text.passage t) := docs_start hmark [] t
    rw [hstart, docs_start hmark]
    refine hwritten (List.forall_mem_append.mpr ⟨?_, ?_⟩)
    all_goals exact fun _ hl => Text.lineFeed_not_mem_passage hl

/-- The example is that of the policy, whatever documentation stands before it. -/
theorem readExampleMatch_docs {unit : Text} (hne : unit ≠ []) (hunit : IsMargin unit)
    (before : List Text) {after : List Text} (hafter : exampleTitle ∉ after) :
    readExampleMatch c.typeName (before ++ ((docsLines unit case c).map inClass ++ after)) =
      some (c.variants.map .variant ++ [.guard (placeholder case c.members), .default]) := by
  have hplaceholder := choosePlaceholder_chars c.members (some (futureVariant case))
  have hfeed : '\n' ∉ placeholder case c.members :=
    fun hmem => absurd (hplaceholder _ hmem) (by decide)
  have hquote : '"' ∉ placeholder case c.members :=
    fun hmem => absurd (hplaceholder _ hmem) (by decide)
  have hheader : Text.allBlank (matchHeader (vocabulary.nameOf c.typeName .snake)) = false :=
    Writer.shown_of_mem (c := 'm') List.mem_cons_self (by decide)
  have hbelow : ([] :: (exampleMatchLines unit unit (vocabulary.nameOf c.typeName .snake)
      (placeholder case c.members) c ++ exampleClosing case c)).map inClass =
      [] :: ((List.replicate 4 ' ' ++ unit) ++
        matchHeader (vocabulary.nameOf c.typeName .snake)) ::
          (exampleCases (List.replicate 4 ' ' ++ (unit ++ unit))
            (List.replicate 4 ' ' ++ (unit ++ (unit ++ unit))) (placeholder case c.members) c ++
              (exampleClosing case c).map inClass) := by
    rw [List.map_cons, List.map_append, exampleMatchLines, List.map_cons, inClass_append hheader,
      map_inClass_exampleCases, List.cons_append]
    rfl
  have hsplit : before ++ ((docsLines unit case c).map inClass ++ after) =
      (before ++ (Text.passage (forwardNote c.typeName "the generated code") ++ [[]]).map inClass) ++
        exampleTitle :: (([] :: (exampleMatchLines unit unit
          (vocabulary.nameOf c.typeName .snake) (placeholder case c.members) c ++
            exampleClosing case c)).map inClass ++ after) := by
    rw [docsLines, ← inClass_headline]
    simp only [List.map_append, List.map_cons, List.map_nil, List.append_assoc, List.cons_append,
      List.nil_append]
  have htitle : exampleTitle ∉ ([] :: (exampleMatchLines unit unit
      (vocabulary.nameOf c.typeName .snake) (placeholder case c.members) c ++
        exampleClosing case c)).map inClass ++ after := by
    rw [List.mem_append, not_or]
    refine ⟨fun hmem => ?_, hafter⟩
    obtain ⟨line, hline, heq⟩ := List.mem_map.mp hmem
    rw [eq_headline_of_inClass heq] at hline
    exact headline_not_mem (lineFeed_not_mem_of_isName hT) hfeed hne hunit hline
  have hmatching : ("match " : Text).isPrefixOf (trimmed ((List.replicate 4 ' ' ++ unit) ++
      matchHeader (vocabulary.nameOf c.typeName .snake))) = true := by
    rw [trimmed_append (isMargin_four.append hunit) (c := 'm') rfl rfl,
      List.isPrefixOf_iff_prefix]
    exact List.prefix_append_of_prefix (List.prefix_append _ _)
  rw [readExampleMatch, hsplit, cutAtLast_append htitle, Option.bind_eq_bind, Option.bind_some,
    hbelow]
  dsimp only [List.cons_append]
  rw [if_pos hmatching, List.append_assoc]
  exact readExampleCases_exampleCases (isMargin_four.append (hunit.append hunit))
    (isMargin_four.append (hunit.append (hunit.append hunit))) hT hvariants hquote _

end

end CatchAll.Target.Python
