import CatchAll.Proofs.Target.Arms
import CatchAll.Proofs.Target.Contexts
import CatchAll.Proofs.Target.Literals
import CatchAll.Proofs.Target.Passages
import CatchAll.Proofs.Target.RustCommentary

/-!
# The example in the documentation of a Rust enum

The policy documents an enum with a match that keeps working when the schema
grows. The lines of the documentation are known up to the passages around the
match, and the documentation of the schema stands before all of them. So the last
title of an example is that of the policy, and the arms below it are those of the
context.
-/

set_option autoImplicit false

namespace CatchAll.Target.Rust

open scoped Text
open Naming Schema

/-! ## The reader -/

def exampleTitle : Text :=
  "/// Here is an example of how you can make a match expression forward-compatible:"

def exampleMargin : Text := "///     "

def exampleTail : Text := " => \x7b /* ... */ \x7d,"

def defaultArm : Text := "_ => \x7b /* ... */ \x7d,"

def guardHead : Text := " @ _ if other.as_str() == \""

def guardTail (placeholder : Text) : Text :=
  "\" => \x7b /* handles a case for `" ++ placeholder ++ "` */ \x7d,"

/-- An arm of the match in an example. -/
def readExampleArm (typeName line : Text) : Option Arm := do
  let arm ← line.dropPrefix? exampleMargin
  let (word, rest) := cutName arm
  match rest.dropPrefix? "::" with
  | some rest =>
    let (name, end_) := cutName rest
    if word = typeName && end_ = exampleTail then some (.variant name) else none
  | none =>
    if arm = defaultArm then some .default
    else do
      let rest ← rest.dropPrefix? guardHead
      let placeholder := rest.takeWhile (· ≠ '"')
      if word = "other".toList && rest = placeholder ++ guardTail placeholder then
        some (.guard placeholder)
      else none

/-- The arms of the example that the documentation ends with. -/
def readExample (typeName code : Text) : Option (List Arm) := do
  let docs := (Text.lines code).takeWhile ("///" : Text).isPrefixOf
  let (_, example_) ← cutAtLast exampleTitle docs
  match example_ with
  | _ :: _ :: _ :: opening :: rest =>
    if ("/// match " : Text).isPrefixOf opening then
      (rest.takeWhile (· ≠ "/// \x7d".toList)).mapM (readExampleArm typeName)
    else none
  | _ => none

/-! ## Lines of documentation -/

def marked (line : Text) : Text := Writer.marked "///" line

theorem marked_of_ne_nil {line : Text} (h : line ≠ []) : marked line = "/// " ++ line := by
  rw [marked, Writer.marked, if_neg (by decide), if_neg h]
  rfl

theorem marked_start (line : Text) : ("///" : Text) <+: marked line := by
  rw [marked, Writer.marked, if_neg (by decide)]
  split
  · exact List.prefix_rfl
  · rw [List.append_assoc]
    exact List.prefix_append _ _

theorem lineFeed_not_mem_marked {line : Text} (h : '\n' ∉ line) : '\n' ∉ marked line := by
  rw [marked, Writer.marked, if_neg (by decide)]
  split
  · decide
  · simpa using h

/-- A writer at the margin that has written lines of documentation. -/
def documented (layout : Layout) (ls : List Text) : Writer :=
  (Writer.start layout).append (ls.map marked)

section

variable {layout : Layout} (hmark : layout.docMark = "///")
include hmark

theorem documented_docs (ls : List Text) (t : Text) :
    (documented layout ls).docs t = documented layout (ls ++ Text.passage t) := by
  have hline : (documented layout ls).docLine = marked := by
    funext line
    have hne : marked line ≠ [] := (marked_start line).ne_nil (by decide)
    show (if Writer.marked layout.docMark line = [] then []
      else Writer.indentation _ ++ Writer.marked layout.docMark line) = marked line
    rw [hmark]
    exact if_neg hne
  rw [Writer.docs, hline, documented, Writer.append_append, ← List.map_append]
  rfl

theorem documented_foldl {α : Type} (f : α → Text) (items : List α)
    (h : ∀ item ∈ items, '\n' ∉ f item) (ls : List Text) :
    items.foldl (fun w item => w.docs (f item)) (documented layout ls) =
      documented layout (ls ++ items.map f) := by
  induction items generalizing ls with
  | nil => rw [List.map_nil, List.append_nil, List.foldl_nil]
  | cons item items ih =>
    obtain ⟨hitem, hitems⟩ := List.forall_mem_cons.mp h
    rw [List.foldl_cons, documented_docs hmark, Text.passage_of_single hitem, ih hitems,
      List.append_assoc, List.singleton_append, List.map_cons]

end

theorem lines_documented (layout : Layout) {ls : List Text} (hne : ls ≠ [])
    (h : ∀ l ∈ ls, '\n' ∉ l) : Text.lines (documented layout ls).render = ls.map marked := by
  refine Text.lines_unlines (ls.map marked) (by simpa using hne) fun l hl => ?_
  obtain ⟨line, hline, rfl⟩ := List.mem_map.mp hl
  exact lineFeed_not_mem_marked (h line hline)

/-! ## The documentation of the policy -/

/-- What the documentation says of the variant that the placeholder stands for. -/
def announcement (typeName future : Text) : Text :=
  "version of SDK where the variant `" ++ (typeName ++ "::" ++ future) ++ "` is defined."

section

variable {typeName binding placeholder : Text}

/-- The passage below the match announces the variant of the placeholder. -/
theorem explanation_lines (hT : '\n' ∉ typeName) (hbinding : '\n' ∉ binding)
    (hplaceholder : '\n' ∉ placeholder) :
    (∀ l ∈ Text.passage (explanation typeName binding placeholder), isPlainLine l = true) ∧
    announcement typeName placeholder ∈
      Text.passage (explanation typeName binding placeholder) := by
  have hfuture : '\n' ∉ typeName ++ ("::" : Text) ++ placeholder := by
    simp [hT, hplaceholder]
  obtain ⟨ls, htext, hne, hplain, hmem⟩ : ∃ ls,
      explanation typeName binding placeholder = withMargin 12 ls ∧ ls ≠ [] ∧
      (∀ l ∈ ls, isPlainLine l = true) ∧ announcement typeName placeholder ∈ ls := by
    refine ⟨_, rfl, List.cons_ne_nil _ _, ?_, ?_⟩
    · have haround {t u v : Text} (ht : isPlainLine t = true) (hu : '\n' ∉ u) (hv : '\n' ∉ v) :
          isPlainLine (t ++ u ++ v) = true := isPlainLine_append (isPlainLine_append ht hu) hv
      have hheld : isPlainLine ("`" ++ typeName ++ "::" ++ catchAllName ++ "(" ++ wrapperName ++
          "(\"" ++ placeholder ++ "\".to_owned()))`") = true :=
        haround (haround (haround (haround (by decide) hT (by decide)) (by decide) (by decide))
          (by decide) (by decide)) hplaceholder (by decide)
      simp only [List.forall_mem_cons]
      exact ⟨haround (by decide +kernel) hbinding (by decide),
        haround (by decide) hplaceholder (by decide +kernel),
        haround (by decide +kernel) hfuture (by decide), by decide +kernel, by decide +kernel,
        hheld, haround (by decide +kernel) hplaceholder (by decide), by decide +kernel,
        haround (by decide +kernel) hfuture (by decide),
        haround (haround (by decide) hbinding (by decide)) hplaceholder (by decide),
        by decide +kernel,
        haround (haround (by decide) hfuture (by decide)) hplaceholder (by decide),
        List.forall_mem_nil _⟩
    · iterate 8 apply List.mem_cons_of_mem
      exact List.mem_cons_self
  rw [htext, passage_of_isPlainLine hne hplain]
  exact ⟨hplain, hmem⟩

end

/-- The lines below the title of the example, up to the arms. -/
def exampleOpening (binding : Text) : List Text :=
  [[], "```text", "# let " ++ binding ++ " = unimplemented!();", "match " ++ binding ++ " \x7b"]

/-- The arms of the example. -/
def exampleArms (c : Context) : List Text :=
  c.variants.map (exampleArm c.typeName) ++
    [guardArm (placeholder c.members), "    " ++ defaultArm]

def exampleEnd : Text := "\x7d"

theorem head?_exampleArms (c : Context) : ∀ l ∈ exampleArms c, l.head? = some ' ' := by
  rw [exampleArms, List.forall_mem_append, List.forall_mem_map, List.forall_mem_cons,
    List.forall_mem_cons]
  exact ⟨fun _ _ => rfl, rfl, rfl, List.forall_mem_nil _⟩

/-- What follows the match. -/
def exampleClosing (c : Context) : List Text :=
  ("```" : Text) :: (Text.passage (explanation c.typeName (vocabulary.nameOf c.typeName .snake)
    (placeholder c.members)) ++ [] :: Text.passage (catchAllCaution catchAllName wrapperName))

def exampleHeadline : Text :=
  "Here is an example of how you can make a match expression forward-compatible:"

/-- The lines below the headline of the example. -/
def belowHeadline (c : Context) : List Text :=
  exampleOpening (vocabulary.nameOf c.typeName .snake) ++
    (exampleArms c ++ exampleEnd :: exampleClosing c)

/-- The lines of the documentation of the policy. -/
def docsLines (c : Context) : List Text :=
  Text.passage (forwardNote c.typeName "SDK") ++ [[]] ++ exampleHeadline :: belowHeadline c

section

variable {c : Context} (hT : '\n' ∉ c.typeName) (hplaceholder : '\n' ∉ placeholder c.members)
include hT hplaceholder

/-- The variant of the placeholder is announced. -/
theorem announcement_mem : announcement c.typeName (placeholder c.members) ∈ docsLines c := by
  have hbinding : '\n' ∉ vocabulary.nameOf c.typeName .snake :=
    lineFeed_not_mem_of_isName (isName_nameOf endsInLetters_rust _ _)
  refine List.mem_append_right _ <| List.mem_cons_of_mem _ <|
    List.mem_append_right _ <| List.mem_append_right _ <| List.mem_cons_of_mem _ <|
    List.mem_cons_of_mem _ <| List.mem_append_left _ ?_
  exact (explanation_lines hT hbinding hplaceholder).2

/-- No line below the headline of the example is that headline again. -/
theorem headline_not_mem : exampleHeadline ∉ belowHeadline c := by
  have hbinding : '\n' ∉ vocabulary.nameOf c.typeName .snake :=
    lineFeed_not_mem_of_isName (isName_nameOf endsInLetters_rust _ _)
  have hplain {l : Text} (h : isPlainLine l = true) : l.head? ≠ some 'H' := by
    cases l with
    | nil => exact fun hh => by cases hh
    | cons x l =>
      intro hh
      obtain rfl : x = 'H' := Option.some.inj hh
      cases h
  have hopening : ∀ l ∈ exampleOpening (vocabulary.nameOf c.typeName .snake),
      l.head? ≠ some 'H' := by
    simp [exampleOpening]
  have harms : ∀ l ∈ exampleArms c, l.head? ≠ some 'H' := by
    intro l hl
    rw [head?_exampleArms c l hl]
    decide
  have hclosing : ∀ l ∈ exampleEnd :: exampleClosing c, l.head? ≠ some 'H' := by
    simp only [exampleClosing, List.forall_mem_cons, List.forall_mem_append]
    exact ⟨by decide, by decide,
      fun l hl => hplain ((explanation_lines hT hbinding hplaceholder).1 l hl), by decide,
      fun l hl => hplain (caution_lines l hl)⟩
  have hall := List.forall_mem_append.mpr ⟨hopening, List.forall_mem_append.mpr ⟨harms, hclosing⟩⟩
  intro hmem
  exact hall _ hmem (by decide +kernel)

variable (hvariants : ∀ v ∈ c.variants, '\n' ∉ v)
include hvariants

theorem lineFeed_not_mem_exampleArms : ∀ l ∈ exampleArms c, '\n' ∉ l := by
  rw [exampleArms, List.forall_mem_append, List.forall_mem_map]
  refine ⟨fun v hv => ?_, List.forall_mem_cons.mpr ⟨?_, by decide⟩⟩
  · unfold exampleArm
    simp [hT, hvariants v hv]
  · unfold guardArm
    simp [hplaceholder]

theorem docsText_eq {layout : Layout} (hmark : layout.docMark = "///") :
    docsText layout c = (documented layout (docsLines c)).render := by
  have hbinding : '\n' ∉ vocabulary.nameOf c.typeName .snake :=
    lineFeed_not_mem_of_isName (isName_nameOf endsInLetters_rust _ _)
  have harms := lineFeed_not_mem_exampleArms hT hplaceholder hvariants
  rw [exampleArms, List.forall_mem_append, List.forall_mem_map] at harms
  have hguard : '\n' ∉ guardArm (placeholder c.members) := harms.2 _ List.mem_cons_self
  have hlet : '\n' ∉ "# let " ++ vocabulary.nameOf c.typeName .snake ++ " = unimplemented!();" := by
    simp [hbinding]
  have hmatch : '\n' ∉ "match " ++ vocabulary.nameOf c.typeName .snake ++ " \x7b" := by
    simp [hbinding]
  have hheadline : Text.passage exampleHeadline = [exampleHeadline] :=
    Text.passage_of_single (by decide +kernel)
  have hfence : Text.passage "```text" = ["```text".toList] := Text.passage_of_single (by decide)
  have hwild : ("    _ => \x7b /* ... */ \x7d," : Text) = "    " ++ defaultArm := by decide +kernel
  have hdefault : Text.passage ("    " ++ defaultArm) = ["    " ++ defaultArm] :=
    Text.passage_of_single (by decide)
  have hend : Text.passage exampleEnd = [exampleEnd] := Text.passage_of_single (by decide)
  have hclose : Text.passage "```" = ["```".toList] := Text.passage_of_single (by decide)
  have hstart : Writer.start layout = documented layout [] := rfl
  unfold exampleHeadline at hheadline
  unfold exampleEnd at hend
  rw [docsText, hstart]
  simp only [documented_docs hmark, documented_foldl hmark (exampleArm c.typeName) c.variants harms.1,
    Text.passage_of_single hguard, Text.passage_of_single hlet, Text.passage_of_single hmatch]
  refine congrArg (fun ls => (documented layout ls).render) ?_
  simp only [hheadline, hfence, hwild, hdefault, hend, hclose, Text.passage_of_single List.not_mem_nil]
  unfold docsLines belowHeadline exampleOpening exampleArms exampleClosing exampleHeadline
    exampleEnd
  simp only [List.append_assoc, List.cons_append, List.nil_append]

theorem lineFeed_not_mem_docsLines : ∀ l ∈ docsLines c, '\n' ∉ l := by
  have hbinding : '\n' ∉ vocabulary.nameOf c.typeName .snake :=
    lineFeed_not_mem_of_isName (isName_nameOf endsInLetters_rust _ _)
  have hpassage (t : Text) : ∀ l ∈ Text.passage t, '\n' ∉ l :=
    fun _ hl => Text.lineFeed_not_mem_passage hl
  have hopening : ∀ l ∈ exampleOpening (vocabulary.nameOf c.typeName .snake), '\n' ∉ l := by
    simp [exampleOpening, hbinding]
  have harms := lineFeed_not_mem_exampleArms hT hplaceholder hvariants
  have hclosing : ∀ l ∈ exampleClosing c, '\n' ∉ l := by
    rw [exampleClosing, List.forall_mem_cons, List.forall_mem_append, List.forall_mem_cons]
    exact ⟨by decide, hpassage _, List.not_mem_nil, hpassage _⟩
  simp only [docsLines, belowHeadline, List.forall_mem_append, List.forall_mem_cons]
  exact ⟨⟨hpassage _, List.not_mem_nil, List.forall_mem_nil _⟩, by decide +kernel, hopening,
    harms, by decide, hclosing⟩

theorem lines_docsText {layout : Layout} (hmark : layout.docMark = "///") :
    Text.lines (docsText layout c) = (docsLines c).map marked := by
  rw [docsText_eq hT hplaceholder hvariants hmark, lines_documented layout (by simp [docsLines])]
  exact lineFeed_not_mem_docsLines hT hplaceholder hvariants

end

/-! ## Reading it back -/

theorem exampleTitle_eq : exampleTitle = marked exampleHeadline := by decide +kernel

theorem marked_injective : Function.Injective marked := by
  intro a b h
  by_cases ha : a = []
  · by_cases hb : b = []
    · rw [ha, hb]
    · rw [ha, marked_of_ne_nil hb] at h
      cases h
  · by_cases hb : b = []
    · rw [hb, marked_of_ne_nil ha] at h
      cases h
    · rw [marked_of_ne_nil ha, marked_of_ne_nil hb] at h
      exact List.append_cancel_left h

theorem marked_indented (t : Text) : marked ("    " ++ t) = exampleMargin ++ t := by
  have hne : "    ".toList ++ t ≠ [] := List.append_ne_nil_of_left_ne_nil (by decide) t
  have hmargin : ("/// " : Text) ++ "    " = exampleMargin := by decide
  rw [marked_of_ne_nil hne, ← List.append_assoc, hmargin]

theorem readExampleArm_variant {typeName name : Text} (hT : IsName typeName) (h : IsName name) :
    readExampleArm typeName (marked (exampleArm typeName name)) = some (.variant name) := by
  have harm : exampleArm typeName name =
      "    " ++ (typeName ++ ("::".toList ++ (name ++ exampleTail))) := by
    unfold exampleArm exampleTail
    simp only [List.append_assoc]
  have hcolon : ∀ x, ("::".toList ++ (name ++ exampleTail)).head? = some x →
      isNameChar x = false := fun x hx => Option.some.inj hx ▸ rfl
  have hblank : ∀ x, exampleTail.head? = some x → isNameChar x = false :=
    fun x hx => Option.some.inj hx ▸ rfl
  rw [harm, marked_indented, readExampleArm, dropPrefix?_append, Option.bind_eq_bind,
    Option.bind_some, cutName_append hT.chars hcolon]
  dsimp only
  rw [dropPrefix?_append]
  dsimp only
  rw [cutName_append h.chars hblank]
  dsimp only
  rw [if_pos (by simp only [decide_true, Bool.and_self])]

theorem readExampleArm_guard (typeName : Text) {placeholder : Text} (h : '"' ∉ placeholder) :
    readExampleArm typeName (marked (guardArm placeholder)) = some (.guard placeholder) := by
  have harm : guardArm placeholder =
      "    " ++ ("other".toList ++ (guardHead ++ (placeholder ++ guardTail placeholder))) := by
    have hstart : ("    " : Text) ++ ("other" ++ guardHead) =
        "    other @ _ if other.as_str() == \"" := by decide +kernel
    unfold guardArm guardTail
    simp only [← hstart, List.append_assoc]
  have hblank : ∀ x, (guardHead ++ (placeholder ++ guardTail placeholder)).head? = some x →
      isNameChar x = false := fun x hx => Option.some.inj hx ▸ rfl
  have hnone : (guardHead ++ (placeholder ++ guardTail placeholder)).dropPrefix? "::" = none := rfl
  have hfirst : ("other".toList ++ (guardHead ++ (placeholder ++ guardTail placeholder))).head? =
      some 'o' := rfl
  have hother : "other".toList ++ (guardHead ++ (placeholder ++ guardTail placeholder)) ≠
      defaultArm := by
    intro heq
    rw [heq] at hfirst
    exact absurd hfirst (by decide)
  have htake : (placeholder ++ guardTail placeholder).takeWhile (· ≠ '"') = placeholder :=
    takeWhile_ne h _
  rw [harm, marked_indented, readExampleArm, dropPrefix?_append, Option.bind_eq_bind,
    Option.bind_some, cutName_append (List.all_eq_true.mp rfl) hblank]
  dsimp only
  rw [hnone]
  dsimp only
  rw [if_neg hother, dropPrefix?_append, Option.bind_some, htake,
    if_pos (by simp only [decide_true, Bool.and_self])]

theorem readExampleArm_default (typeName : Text) :
    readExampleArm typeName (marked ("    " ++ defaultArm)) = some .default := by
  have hcut : cutName defaultArm = ("_".toList, defaultArm.tail) := by decide
  have hnone : defaultArm.tail.dropPrefix? "::" = none := by decide
  rw [marked_indented, readExampleArm, dropPrefix?_append, Option.bind_eq_bind, Option.bind_some,
    hcut]
  dsimp only
  rw [hnone]
  exact if_pos rfl

theorem mapM_readExampleArm {c : Context} (hT : IsName c.typeName)
    (hvariants : ∀ v ∈ c.variants, IsName v) (hplaceholder : '"' ∉ placeholder c.members) :
    ((exampleArms c).map marked).mapM (readExampleArm c.typeName) =
      some (c.variants.map .variant ++ [.guard (placeholder c.members), .default]) := by
  have hlast : ([guardArm (placeholder c.members), "    " ++ defaultArm].map marked).mapM
      (readExampleArm c.typeName) = some [.guard (placeholder c.members), .default] := by
    rw [List.map_cons, List.map_singleton, List.mapM_cons, readExampleArm_guard _ hplaceholder,
      List.mapM_cons, readExampleArm_default]
    rfl
  have hfirst : (c.variants.map fun v => marked (exampleArm c.typeName v)).mapM
      (readExampleArm c.typeName) = some (c.variants.map .variant) :=
    mapM_map_of_forall fun v hv => readExampleArm_variant hT (hvariants v hv)
  rw [exampleArms, List.map_append, List.mapM_append, List.map_map, Function.comp_def, hfirst, hlast]
  rfl

/-- The example is that of the policy, whatever documentation stands before it. -/
theorem readExample_of_lines {c : Context} {code : Text} {before rest : List Text}
    (hT : IsName c.typeName) (hvariants : ∀ v ∈ c.variants, IsName v)
    (hplaceholder : ∀ x ∈ placeholder c.members, x.isAlphanum = true)
    (hbefore : ∀ l ∈ before, ("///" : Text) <+: l)
    (hrest : ∀ l, rest.head? = some l → ("///" : Text).isPrefixOf l = false)
    (hcode : Text.lines code = before ++ ((docsLines c).map marked ++ rest)) :
    readExample c.typeName code =
      some (c.variants.map .variant ++ [.guard (placeholder c.members), .default]) := by
  have hfeed : '\n' ∉ placeholder c.members := fun hmem => absurd (hplaceholder _ hmem) (by decide)
  have hquote : '"' ∉ placeholder c.members := fun hmem => absurd (hplaceholder _ hmem) (by decide)
  have hdocs : (Text.lines code).takeWhile ("///" : Text).isPrefixOf =
      before ++ (docsLines c).map marked := by
    rw [hcode, ← List.append_assoc]
    refine takeWhile_upTo ?_ hrest
    refine List.forall_mem_append.mpr ⟨fun l hl => ?_, List.forall_mem_map.mpr fun l _ => ?_⟩
    · exact List.isPrefixOf_iff_prefix.mpr (hbefore l hl)
    · exact List.isPrefixOf_iff_prefix.mpr (marked_start l)
  have htitle : exampleTitle ∉ (belowHeadline c).map marked := by
    rw [exampleTitle_eq, List.mem_map_of_injective marked_injective]
    exact headline_not_mem (lineFeed_not_mem_of_isName hT) hfeed
  have hsplit : before ++ (docsLines c).map marked =
      (before ++ (Text.passage (forwardNote c.typeName "SDK") ++ [[]]).map marked) ++
        exampleTitle :: (belowHeadline c).map marked := by
    rw [docsLines, List.map_append, List.map_cons, ← exampleTitle_eq, List.append_assoc]
  have hopening : ("/// match " : Text).isPrefixOf
      (marked ("match ".toList ++ vocabulary.nameOf c.typeName .snake ++ " \x7b".toList)) = true := by
    have hne : "match ".toList ++ vocabulary.nameOf c.typeName .snake ++ " \x7b".toList ≠ [] :=
      List.append_ne_nil_of_right_ne_nil _ (by decide)
    have hstart : ("/// " : Text) ++ "match " = "/// match " := by decide
    rw [marked_of_ne_nil hne, List.append_assoc, ← List.append_assoc, hstart,
      List.isPrefixOf_iff_prefix]
    exact List.prefix_append _ _
  have harms : ((exampleArms c ++ exampleEnd :: exampleClosing c).map marked).takeWhile
      (· ≠ "/// \x7d".toList) = (exampleArms c).map marked := by
    have hend : marked exampleEnd = "/// \x7d".toList := by decide
    have hinside : marked exampleEnd ∉ (exampleArms c).map marked := by
      rw [List.mem_map_of_injective marked_injective]
      exact fun hl => absurd (head?_exampleArms c exampleEnd hl) (by decide)
    rw [List.map_append, ← hend]
    exact takeWhile_ne hinside _
  rw [readExample, hdocs]
  dsimp only
  rw [hsplit, cutAtLast_append htitle, Option.bind_eq_bind, Option.bind_some]
  show (if _ then List.mapM _ (List.takeWhile _
    ((exampleArms c ++ exampleEnd :: exampleClosing c).map marked)) else _) = _
  rw [if_pos hopening, harms]
  exact mapM_readExampleArm hT hvariants hquote

end CatchAll.Target.Rust
