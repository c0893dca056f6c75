import CatchAll.Proofs.Target.Contexts
import CatchAll.Proofs.Target.Literals
import CatchAll.Proofs.Writer

/-!
# Reading the conversions of a Rust enum

The conversion from a text is read from the emitted implementation: its arms
with the texts that their literals stand for, up to the arm that takes every
other text. The conversion to a text is read from its list of arms. Both give
the arms that the context asked for.
-/

set_option autoImplicit false

namespace CatchAll.Target.Rust

open scoped Text
open Naming Schema Text.Literal

/-! ## Readers -/

/-- The name of a variant that holds nothing. -/
def isPlainVariant (name : Text) : Bool := name ≠ [] && name ≠ catchAllName

/-- An arm that gives a variant for one text: that text and the name of the variant. -/
def readArm (typeName arm : Text) : Option (Text × Text) := do
  let (value, rest) ← unquote? escapes arm
  let (name, rest) := cutName (← rest.dropPrefix? (" => " ++ typeName ++ "::"))
  if rest = [','] && isPlainVariant name then return (value, name) else none

/-- How the arm for every other text begins. -/
def catchAllHead (typeName : Text) : Text :=
  "other => " ++ typeName ++ "::" ++ catchAllName ++ "("

/-- How it ends: what the variant holds is a copy of the text that was matched. -/
def catchAllTail : Text := "(other.to_owned())),"

def closing : List Text := ["        \x7d", "    \x7d", "\x7d"]

/-- The arms of a match on a text up to the arm for every other text, with which the
match and all around it close. -/
def readArms (typeName : Text) : List Text → Option (Table Text)
  | [] => none
  | line :: rest =>
    let arm := line.dropWhile (· = ' ')
    if (catchAllHead typeName).isPrefixOf arm then
      if (catchAllTail ++ '\n' :: Text.unlines closing).isSuffixOf
          (Text.unlines (line :: rest)) then some []
      else none
    else do
      let entry ← readArm typeName arm
      return entry :: (← readArms typeName rest)

/-- What stands before the arms. -/
def opening (typeName : Text) : List Text :=
  ["impl " ++ conversionTrait ++ "<&str> for " ++ typeName ++ " \x7b",
   "    fn from(s: &str) -> Self \x7b", "        match s \x7b"]

/-- The names of variants by the texts that give them. -/
def readConversion (typeName code : Text) : Option (Table Text) := do
  readArms typeName (← (Text.lines code).dropPrefix? (opening typeName))

/-- An arm that shows a variant: its name and its text. -/
def readShownArm (typeName arm : Text) : Option (Text × Text) := do
  let (name, rest) := cutName (← arm.dropPrefix? (typeName ++ "::"))
  let (value, rest) ← unquote? escapes (← rest.dropPrefix? " => ")
  if rest = [','] && isPlainVariant name then return (name, value) else none

/-- The texts of variants by their names; the last arm shows the text that was held. -/
def readShown (typeName : Text) : List Text → Option (Table Text)
  | [] => none
  | [last] =>
    if last = typeName ++ "::" ++ catchAllName ++ "(value) => value.as_str()," then some []
    else none
  | arm :: rest => do
    let entry ← readShownArm typeName arm
    return entry :: (← readShown typeName rest)

/-! ## Arms -/

theorem plain_of_fits {name : Text} (h : FitsVariant name) : isPlainVariant name = true := by
  simp [isPlainVariant, h.isName.ne_nil, h.notCatchAll]

theorem readArm_fromArm (typeName : Text) {arm : Text × Text} (h : FitsVariant arm.1) :
    readArm typeName (fromArm typeName arm) = some (arm.2, arm.1) := by
  have hrest : unquote? escapes (fromArm typeName arm) =
      some (arm.2, " => " ++ typeName ++ "::" ++ (arm.1 ++ [','])) := by
    rw [← unquote?_literal arm.2, fromArm]
    simp only [List.append_assoc]
    rfl
  have hcomma : ∀ c, [','].head? = some c → isNameChar c = false :=
    fun c hc => Option.some.inj hc ▸ rfl
  rw [readArm, hrest]
  simp only [Option.bind_eq_bind, Option.bind_some, dropPrefix?_append,
    cutName_append h.isName.chars hcomma, plain_of_fits h]
  rfl

theorem readShownArm_asStrArm (typeName : Text) {arm : Text × Text} (h : FitsVariant arm.1) :
    readShownArm typeName (asStrArm typeName arm) = some arm := by
  have hname : (asStrArm typeName arm).dropPrefix? (typeName ++ "::") =
      some (arm.1 ++ ' ' :: ("=> " ++ literal arm.2 ++ [','])) := by
    rw [← dropPrefix?_append (typeName ++ "::" : Text), asStrArm]
    simp only [List.append_assoc]
    rfl
  have hvalue : (' ' :: ("=> " ++ literal arm.2 ++ [','])).dropPrefix? " => " =
      some (literal arm.2 ++ [',']) := by
    rw [← dropPrefix?_append (" => " : Text), ← List.append_assoc]
    rfl
  have hblank : ∀ c, (' ' :: ("=> " ++ literal arm.2 ++ [','])).head? = some c →
      isNameChar c = false := by
    intro c hc
    exact Option.some.inj hc ▸ rfl
  rw [readShownArm, hname]
  simp only [Option.bind_eq_bind, Option.bind_some, hvalue, unquote?_literal,
    cutName_append h.isName.chars hblank, plain_of_fits h]
  rfl

/-! ## The emitted conversion -/

/-- A line inside the match. -/
def inMatch (line : Text) : Text :=
  if Text.allBlank line then [] else List.replicate 12 ' ' ++ line

theorem inMatch_of_shown {line : Text} (h : Text.allBlank line = false) :
    inMatch line = List.replicate 12 ' ' ++ line := by
  rw [inMatch, h]
  rfl

theorem lineFeed_not_mem_fromArm {typeName : Text} (hT : '\n' ∉ typeName) {arm : Text × Text}
    (harm : '\n' ∉ arm.1) : '\n' ∉ fromArm typeName arm := by
  simp [fromArm, hT, harm, lineFeed_not_mem_literal]

theorem fromArm_shown (typeName : Text) (arm : Text × Text) :
    Text.allBlank (fromArm typeName arm) = false := rfl

/-- The arm for every other text, whose path may be of any shape. -/
theorem lines_catchAllArm {typeName : Text} (hT : '\n' ∉ typeName) (path : Text) :
    ∃ first rest init last,
      Text.lines (catchAllArm typeName path) = (catchAllHead typeName ++ first) :: rest ∧
      Text.lines (catchAllArm typeName path) = init ++ [last ++ catchAllTail] := by
  have harm : catchAllArm typeName path = catchAllHead typeName ++ path ++ catchAllTail := rfl
  have hhead : '\n' ∉ catchAllHead typeName := by
    unfold catchAllHead catchAllName
    simp [hT]
  obtain ⟨first, rest, -, hfirst⟩ := Text.lines_append_left hhead (path ++ catchAllTail)
  obtain ⟨init, last, -, hlast⟩ :=
    Text.lines_append_right (catchAllHead typeName ++ path) (u := catchAllTail)
      (by unfold catchAllTail; simp)
  rw [← List.append_assoc, ← harm] at hfirst
  rw [← harm] at hlast
  exact ⟨first, rest, init, last, hfirst, hlast⟩

theorem hasContent_catchAllTail (last : Text) :
    Text.hasContent (last ++ catchAllTail) = true := by
  have htail : catchAllTail.all Text.isIndent = false := by
    unfold catchAllTail
    simp [Text.isIndent]
  rw [Text.hasContent, List.all_append, htail, Bool.and_false]
  rfl

theorem fromArms_eq (layout : Layout) {c : Context} (hT : '\n' ∉ c.typeName)
    (harms : ∀ arm ∈ c.arms, '\n' ∉ arm.1) (path : Text) :
    fromArms layout c path =
      Text.unlines (c.arms.map (fromArm c.typeName) ++
        (Text.lines (catchAllArm c.typeName path)).map (Writer.start layout).codeLine) := by
  obtain ⟨first, rest, init, last, hfirst, hlast⟩ := lines_catchAllArm hT path
  have hwritten := Writer.foldl_write (c.arms.map (fromArm c.typeName)) (by
    intro l hl
    obtain ⟨arm, harm, rfl⟩ := List.mem_map.mp hl
    exact ⟨lineFeed_not_mem_fromArm hT (harms arm harm), fromArm_shown _ _⟩) (Writer.start layout)
  rw [List.foldl_map] at hwritten
  rw [fromArms, hwritten, Writer.write_of_head hfirst (c := 'o') rfl rfl hlast
    (hasContent_catchAllTail last), Writer.append_append, Writer.render]
  have hlevel : (Writer.start layout).indentation = [] := rfl
  simp only [hlevel, List.nil_append, List.map_id']
  rfl

/-- The arms as they are written, one below the other. -/
def armLines (layout : Layout) (c : Context) (path : Text) : List Text :=
  c.arms.map (fromArm c.typeName) ++
    (Text.lines (catchAllArm c.typeName path)).map (Writer.start layout).codeLine

def bodyLines (layout : Layout) (c : Context) (path : Text) : List Text :=
  opening c.typeName ++
    (armLines layout c path).map
      (fun line => if Text.allBlank line then line else List.replicate 12 ' ' ++ line) ++
    closing

theorem armLines_ne_nil (layout : Layout) (c : Context) (path : Text) :
    armLines layout c path ≠ [] :=
  List.append_ne_nil_of_right_ne_nil _ (by simp [Text.lines_ne_nil])

theorem lineFeed_not_mem_armLines {layout : Layout} {c : Context} (hT : '\n' ∉ c.typeName)
    (harms : ∀ arm ∈ c.arms, '\n' ∉ arm.1) (path : Text) :
    ∀ l ∈ armLines layout c path, '\n' ∉ l := by
  intro l hl
  rcases List.mem_append.mp hl with hl | hl
  · obtain ⟨arm, harm, rfl⟩ := List.mem_map.mp hl
    exact lineFeed_not_mem_fromArm hT (harms arm harm)
  · obtain ⟨line, hline, rfl⟩ := List.mem_map.mp hl
    rw [Writer.codeLine]
    split
    · simp
    · exact Text.lineFeed_not_mem_line hline

theorem fromImplText_eq {layout : Layout} {c : Context} (hT : '\n' ∉ c.typeName)
    (harms : ∀ arm ∈ c.arms, '\n' ∉ arm.1) (path : Text) :
    fromImplText layout c path =
      ((Writer.start layout).write (Text.unlines (bodyLines layout c path))).render := by
  have harmLines := fromArms_eq layout hT harms path
  change _ = Text.unlines (armLines layout c path) at harmLines
  have hindented : Template.indentLines 12 (fromArms layout c path) =
      Text.unlines ((armLines layout c path).map
        (fun line => if Text.allBlank line then line else List.replicate 12 ' ' ++ line)) := by
    rw [Template.indentLines, harmLines, Text.lines_unlines _ (armLines_ne_nil layout c path)
      (lineFeed_not_mem_armLines hT harms path)]
  unfold fromImplText
  rw [hindented]
  refine congrArg (fun body => ((Writer.start layout).write body).render) ?_
  rw [bodyLines, Text.unlines_append (by simp [opening]) (by simp [closing]),
    Text.unlines_append (by simp [opening]) (by simp [armLines_ne_nil])]
  generalize Text.unlines (List.map _ (armLines layout c path)) = inner
  unfold opening closing
  simp [Text.unlines, Text.joinWith]

/-- Lines that all show something stay as they are at the outermost level. -/
theorem map_codeLine_start (layout : Layout) {ls : List Text} {x : Char}
    (hx : Text.isBlank x = false) (h : ∀ l ∈ ls, x ∈ l) :
    ls.map (Writer.start layout).codeLine = ls := by
  rw [List.map_congr_left (g := id), List.map_id]
  intro l hl
  rw [Writer.codeLine_of_shown (Writer.shown_of_mem (h l hl) hx)]
  rfl

theorem codeLine_opening (layout : Layout) (typeName : Text) :
    (opening typeName).map (Writer.start layout).codeLine = opening typeName := by
  have hbrace : ∀ l ∈ opening typeName, '{' ∈ l := by
    unfold opening
    simp
  exact map_codeLine_start layout (by decide) hbrace

theorem codeLine_closing (layout : Layout) :
    closing.map (Writer.start layout).codeLine = closing := by
  have hbrace : ∀ l ∈ closing, '}' ∈ l := by
    unfold closing
    simp
  exact map_codeLine_start layout (by decide) hbrace

theorem codeLine_indented (layout : Layout) (line : Text) :
    (Writer.start layout).codeLine
      (if Text.allBlank line then line else List.replicate 12 ' ' ++ line) = inMatch line := by
  rw [inMatch]
  split
  · rename_i h
    rw [Writer.codeLine, if_pos h]
  · rename_i h
    rw [Writer.codeLine_of_shown (Writer.allBlank_append_of_shown _ (eq_false_of_ne_true h))]
    rfl

theorem inMatch_codeLine (layout : Layout) (line : Text) :
    inMatch ((Writer.start layout).codeLine line) = inMatch line := by
  rw [Writer.codeLine]
  split
  · rename_i h
    rw [inMatch, inMatch, if_pos h]
    rfl
  · rfl

theorem lineFeed_not_mem_opening {typeName : Text} (hT : '\n' ∉ typeName) :
    ∀ l ∈ opening typeName, '\n' ∉ l := by
  unfold opening conversionTrait
  simp [hT]

theorem lineFeed_not_mem_closing : ∀ l ∈ closing, '\n' ∉ l := by
  unfold closing
  simp

theorem lineFeed_not_mem_bodyLines {layout : Layout} {c : Context} (hT : '\n' ∉ c.typeName)
    (harms : ∀ arm ∈ c.arms, '\n' ∉ arm.1) (path : Text) :
    ∀ l ∈ bodyLines layout c path, '\n' ∉ l := by
  intro l hl
  rcases List.mem_append.mp hl with hl | hl
  · rcases List.mem_append.mp hl with hl | hl
    · exact lineFeed_not_mem_opening hT l hl
    · obtain ⟨line, hline, rfl⟩ := List.mem_map.mp hl
      have hfeed := lineFeed_not_mem_armLines hT harms path line hline
      split
      · exact hfeed
      · simp [hfeed]
  · exact lineFeed_not_mem_closing l hl

/-- The implementation begins and ends without a margin, so the writer keeps its lines. -/
theorem write_bodyLines {layout : Layout} {c : Context} (hT : '\n' ∉ c.typeName)
    (harms : ∀ arm ∈ c.arms, '\n' ∉ arm.1) (path : Text) :
    (Writer.start layout).write (Text.unlines (bodyLines layout c path)) =
      (Writer.start layout).append
        ((bodyLines layout c path).map (Writer.start layout).codeLine) := by
  have hbody : Text.lines (Text.unlines (bodyLines layout c path)) = bodyLines layout c path :=
    Text.lines_unlines _ (by simp [bodyLines, opening]) (lineFeed_not_mem_bodyLines hT harms path)
  obtain ⟨first, rest, hfirst, hhead⟩ : ∃ first rest, bodyLines layout c path = first :: rest ∧
      first.head? = some 'i' := by
    refine ⟨_, _, rfl, ?_⟩
    simp
  obtain ⟨init, hlast⟩ : ∃ init, bodyLines layout c path = init ++ ["\x7d".toList] := by
    refine ⟨_, (List.append_assoc _ ["        \x7d".toList, "    \x7d".toList]
      ["\x7d".toList]).symm⟩
  rw [Writer.write_of_head (hbody.trans hfirst) hhead rfl (hbody.trans hlast) ?_, hbody]
  decide

theorem lines_fromImplText (layout : Layout) {c : Context} (hT : '\n' ∉ c.typeName)
    (harms : ∀ arm ∈ c.arms, '\n' ∉ arm.1) (path : Text) :
    Text.lines (fromImplText layout c path) =
      opening c.typeName ++ (c.arms.map (fun arm => inMatch (fromArm c.typeName arm)) ++
        ((Text.lines (catchAllArm c.typeName path)).map inMatch ++ closing)) := by
  have hwritten : (bodyLines layout c path).map (Writer.start layout).codeLine =
      opening c.typeName ++ (c.arms.map (fun arm => inMatch (fromArm c.typeName arm)) ++
        ((Text.lines (catchAllArm c.typeName path)).map inMatch ++ closing)) := by
    rw [bodyLines, List.map_append, List.map_append, codeLine_opening, codeLine_closing,
      List.map_map, armLines, List.map_append, List.map_map, List.map_map]
    simp only [Function.comp_def, codeLine_indented, inMatch_codeLine, List.append_assoc]
  rw [fromImplText_eq hT harms, write_bodyLines hT harms, hwritten, Writer.render]
  refine Text.lines_unlines _ (by simp [opening]) ?_
  intro l hl
  rw [← hwritten] at hl
  obtain ⟨line, hline, rfl⟩ := List.mem_map.mp hl
  rw [Writer.codeLine]
  split
  · simp
  · exact lineFeed_not_mem_bodyLines hT harms path line hline

/-! ## Reading it back -/

theorem dropWhile_inMatch {line : Text} (hshown : Text.allBlank line = false) {c : Char}
    (h : line.head? = some c) (hc : c ≠ ' ') : (inMatch line).dropWhile (· = ' ') = line := by
  cases line with
  | nil => cases h
  | cons d line =>
    obtain rfl : d = c := Option.some.inj h
    rw [inMatch_of_shown hshown, List.dropWhile_append_of_pos (by simp),
      List.dropWhile_cons_of_neg (by simpa using hc)]

/-- The first arm for every other text ends the match, whatever its path is. -/
theorem readArms_catchAll {typeName : Text} (hT : '\n' ∉ typeName) (path : Text) :
    readArms typeName ((Text.lines (catchAllArm typeName path)).map inMatch ++ closing) =
      some [] := by
  obtain ⟨first, rest, init, last, hfirst, hlast⟩ := lines_catchAllArm hT path
  have hhead : (catchAllHead typeName ++ first).head? = some 'o' := by
    unfold catchAllHead
    simp
  have hshown : Text.allBlank (catchAllHead typeName ++ first) = false :=
    Writer.shown_of_mem (List.mem_of_head? hhead) (by decide)
  have htail : Text.allBlank (last ++ catchAllTail) = false := by
    refine Writer.allBlank_append_of_shown last (Writer.shown_of_mem (c := ',') ?_ (by decide))
    unfold catchAllTail
    simp
  have hsuffix : (catchAllTail ++ '\n' :: Text.unlines closing).isSuffixOf
      (Text.unlines ((Text.lines (catchAllArm typeName path)).map inMatch ++ closing)) = true := by
    rw [List.isSuffixOf_iff_suffix, Text.unlines_append (by simp [Text.lines_ne_nil])
      (by simp [closing]), hlast, List.map_append, List.map_singleton, inMatch_of_shown htail,
      ← List.append_assoc, Text.unlines_concat_append, List.append_assoc]
    exact List.suffix_append _ _
  rw [hfirst, List.map_cons, List.cons_append] at hsuffix ⊢
  rw [readArms, dropWhile_inMatch hshown hhead (by decide)]
  rw [if_pos (List.isPrefixOf_iff_prefix.mpr (List.prefix_append _ _)), if_pos hsuffix]

theorem readArms_append (typeName : Text) {arms : List (Text × Text)}
    (h : ∀ arm ∈ arms, FitsVariant arm.1) (rest : List Text) :
    readArms typeName (arms.map (fun arm => inMatch (fromArm typeName arm)) ++ rest) =
      (readArms typeName rest).map (arms.map Prod.swap ++ ·) := by
  induction arms with
  | nil => simp
  | cons arm arms ih =>
    have harm := h arm (by simp)
    have hread := readArm_fromArm typeName harm
    have hother : (catchAllHead typeName).isPrefixOf (fromArm typeName arm) = false := by
      unfold catchAllHead fromArm literal
      simp [List.isPrefixOf]
    rw [List.map_cons, List.cons_append, readArms,
      dropWhile_inMatch (fromArm_shown typeName arm) (c := '"') rfl (by decide)]
    rw [hother, hread, ih fun a ha => h a (List.mem_cons_of_mem arm ha)]
    cases readArms typeName rest with
    | none => rfl
    | some found => rfl

/-- The emitted conversion has the arms of the context, in order, and then the arm for
every other text. -/
theorem readConversion_fromImplText (layout : Layout) {c : Context}
    (hT : '\n' ∉ c.typeName) (harms : ∀ arm ∈ c.arms, FitsVariant arm.1) (path : Text) :
    readConversion c.typeName (fromImplText layout c path) = some (c.arms.map Prod.swap) := by
  have hlines := lines_fromImplText layout hT
    (fun arm harm => lineFeed_not_mem_of_isName (harms arm harm).isName) path
  rw [readConversion, hlines, dropPrefix?_append]
  show readArms _ _ = _
  rw [readArms_append c.typeName harms, readArms_catchAll hT]
  simp

theorem readShown_asStr (typeName : Text) {arms : List (Text × Text)}
    (h : ∀ arm ∈ arms, FitsVariant arm.1) (c : Context)
    (hc : c.typeName = typeName) :
    readShown typeName (arms.map (asStrArm typeName) ++ [asStrArmText c]) = some arms := by
  induction arms with
  | nil =>
    subst hc
    rw [List.map_nil, List.nil_append, readShown]
    exact if_pos rfl
  | cons arm arms ih =>
    rw [List.map_cons, List.cons_append, readShown,
      readShownArm_asStrArm typeName (h arm (by simp)),
      ih fun a ha => h a (List.mem_cons_of_mem arm ha)]
    · rfl
    · simp

end CatchAll.Target.Rust
