import CatchAll.Proofs.Target.PythonConversion
import CatchAll.Proofs.Template.Rendering

/-!
# The lines below the conversion of a Python class

What stands between the conversion and the assignments is of no account to a
reader: such lines are indented, and none of them opens another conversion.
-/

set_option autoImplicit false

namespace CatchAll.Target.Python

open scoped Text
open Naming

def quietLine (line : Text) : Bool := !atMargin line && !("    def f" : Text).isPrefixOf line

/-- Whole lines that are quiet. -/
def quietLines (t : Text) : Bool :=
  t.getLast? = some '\n' && (Text.lines t.dropLast).all quietLine

/-- A text of quiet lines, up to lines that are given. -/
def Leads (rest : List Text) (t : Text) : Prop :=
  ∃ before, Text.lines t = before ++ rest ∧ ∀ l ∈ before, quietLine l = true

/-! ## Quiet lines -/

theorem quietLine_indented {line : Text} (h : ("def f" : Text).isPrefixOf line = false) :
    quietLine (List.replicate 4 ' ' ++ line) = true := by
  have hprefix : ("    def f" : Text).isPrefixOf (List.replicate 4 ' ' ++ line) =
      ("def f" : Text).isPrefixOf line := by
    simp [List.replicate]
  rw [quietLine, hprefix, h]
  rfl

theorem quietLine_of_blank {line : Text} (h : Text.allBlank line = true) :
    quietLine line = true := by
  rw [Text.allBlank, List.all_eq_true] at h
  have hmargin : atMargin line = false := by
    cases line with
    | nil => rfl
    | cons c line => simp [atMargin, h c (by simp)]
  have hprefix : ("    def f" : Text).isPrefixOf line = false := by
    rw [Bool.eq_false_iff]
    intro hprefix
    have hmem : 'd' ∈ line := (List.isPrefixOf_iff_prefix.mp hprefix).subset (by simp)
    exact absurd (h 'd' hmem) (by decide)
  rw [quietLine, hmargin, hprefix]
  rfl

/-- Deeply indented text is quiet, whatever it is. -/
theorem quietLine_deep {t l : Text} (h : l ∈ Text.lines (Template.indentLines 12 t)) :
    quietLine l = true := by
  rw [Template.lines_indentLines] at h
  obtain ⟨line, -, rfl⟩ := List.mem_map.mp h
  split
  · rename_i hblank
    exact quietLine_of_blank hblank
  · have hsplit : List.replicate 12 ' ' ++ line =
        List.replicate 4 ' ' ++ (List.replicate 8 ' ' ++ line) := rfl
    rw [hsplit]
    exact quietLine_indented rfl

theorem not_quietLine_header (typeName : Text) :
    quietLine ("    " ++ fromStrHeader typeName) = false := by
  have hprefix : ("    def f" : Text).isPrefixOf ("    " ++ fromStrHeader typeName) = true := by
    rw [List.isPrefixOf_iff_prefix]
    refine ⟨"rom_str(cls, s: str) -> " ++ typeName ++ ":", ?_⟩
    unfold fromStrHeader
    simp
  rw [quietLine, hprefix, Bool.not_true, Bool.and_false]

/-! ## Texts of quiet lines -/

theorem eq_append_lineFeed {t : Text} (h : t.getLast? = some '\n') : t = t.dropLast ++ ['\n'] := by
  obtain ⟨init, rfl⟩ := List.getLast?_eq_some_iff.mp h
  rw [List.dropLast_concat]

theorem Leads.block {rest : List Text} {t u : Text}
    (ht : ∀ l ∈ Text.lines t, quietLine l = true) (hu : Leads rest u) :
    Leads rest (t ++ '\n' :: u) := by
  obtain ⟨before, hlines, hquiet⟩ := hu
  refine ⟨Text.lines t ++ before, ?_, List.forall_mem_append.mpr ⟨ht, hquiet⟩⟩
  rw [Text.lines_append_lineFeed, hlines, List.append_assoc]

theorem Leads.lines {rest : List Text} {t u : Text} (ht : quietLines t = true)
    (hu : Leads rest u) : Leads rest (t ++ u) := by
  rw [quietLines, Bool.and_eq_true, decide_eq_true_eq, List.all_eq_true] at ht
  rw [eq_append_lineFeed ht.1, List.append_assoc]
  exact hu.block ht.2

/-- Quiet lines that end at a line feed of their own. -/
theorem Leads.feed {rest : List Text} {t u : Text}
    (ht : ∀ l ∈ Text.lines t, quietLine l = true) (hu : Leads rest u) :
    Leads rest (t ++ ("\n" ++ u)) :=
  hu.block ht

/-- Quiet lines with an empty line below. -/
theorem Leads.paragraph {rest : List Text} {t u : Text}
    (ht : ∀ l ∈ Text.lines t, quietLine l = true) (hu : Leads rest u) :
    Leads rest (t ++ ("\n\n" ++ u)) := by
  have hempty : Leads rest ([] ++ '\n' :: u) := hu.block (by decide)
  exact hempty.block ht

/-! ## The methods -/

/-- What a body of at least one unit of indentation begins with opens no conversion. -/
theorem quietLine_unit {unit : Text} (hne : unit ≠ []) (hunit : IsMargin unit) (line : Text) :
    quietLine (List.replicate 4 ' ' ++ (unit ++ line)) = true := by
  refine quietLine_indented ?_
  obtain ⟨c, unit, rfl⟩ := List.exists_cons_of_ne_nil hne
  rw [Bool.eq_false_iff]
  intro hprefix
  obtain ⟨rest, hrest⟩ := List.isPrefixOf_iff_prefix.mp hprefix
  obtain rfl : 'd' = c := Option.some.inj (congrArg List.head? hrest)
  exact absurd (hunit 'd' (by simp)) (by decide)

theorem lineFeed_not_mem_margin {margin : Text} (h : IsMargin margin) : '\n' ∉ margin :=
  fun hmem => absurd (h '\n' hmem) (by decide)

theorem lines_fromImpl {layout : Layout} (hunit : IsMargin layout.unit) {c : Context}
    (hT : '\n' ∉ c.typeName) (harms : ∀ arm ∈ c.arms, '\n' ∉ arm.1) :
    Text.lines (fromImplText layout c) =
      ("@classmethod" : Text) :: fromStrHeader c.typeName :: methodBody layout.unit c := by
  have hfeed := lineFeed_not_mem_margin hunit
  rw [fromImplText_eq hT harms, Text.lines_unlines _ (by simp)]
  intro l hl
  rcases List.mem_cons.mp hl with rfl | hl
  · simp
  rcases List.mem_cons.mp hl with rfl | hl
  · unfold fromStrHeader
    simp [hT]
  · obtain ⟨shown, rfl, hsingle, -⟩ := mem_methodBody hfeed hT harms hl
    simp [hfeed, hsingle]

/-- The conversion as it stands in the class. -/
theorem lines_fromImplText {layout : Layout} (hunit : IsMargin layout.unit) {c : Context}
    (hT : '\n' ∉ c.typeName) (harms : ∀ arm ∈ c.arms, '\n' ∉ arm.1) :
    Text.lines (Template.indentLines 4 (fromImplText layout c)) =
      ("    @classmethod" : Text) :: ("    " ++ fromStrHeader c.typeName) ::
        (methodBody layout.unit c).map (List.replicate 4 ' ' ++ ·) := by
  have hbody : (methodBody layout.unit c).map (fun line =>
      if Text.allBlank line then line else List.replicate 4 ' ' ++ line) =
      (methodBody layout.unit c).map (List.replicate 4 ' ' ++ ·) := by
    refine List.map_congr_left fun l hl => ?_
    obtain ⟨shown, rfl, -, hshown⟩ :=
      mem_methodBody (lineFeed_not_mem_margin hunit) hT harms hl
    rw [Writer.allBlank_append_of_shown _ hshown]
    rfl
  rw [Template.lines_indentLines, lines_fromImpl hunit hT harms, List.map_cons, List.map_cons,
    hbody]
  rfl

theorem quietLine_of_indentLines {ls : List Text} (hne : ls ≠ [])
    (hsingle : ∀ l ∈ ls, '\n' ∉ l)
    (hquiet : ∀ l ∈ ls, Text.allBlank l = false → quietLine (List.replicate 4 ' ' ++ l) = true) :
    ∀ l ∈ Text.lines (Template.indentLines 4 (Text.unlines ls)), quietLine l = true := by
  intro l hl
  rw [Template.lines_indentLines, Text.lines_unlines ls hne hsingle] at hl
  obtain ⟨line, hline, rfl⟩ := List.mem_map.mp hl
  split
  · rename_i hblank
    exact quietLine_of_blank hblank
  · rename_i hshown
    exact hquiet line hline (eq_false_of_ne_true hshown)

def parseHeader (typeName : Text) : Text := "def parse(cls, s: str) -> " ++ typeName ++ ":"

/-- The other conversion is a header and a passage, one level deeper. -/
theorem fromStrImplText_eq (layout : Layout) {c : Context} (hT : '\n' ∉ c.typeName) :
    ∃ (inner : Writer) (body : Text), inner.indentation = layout.unit ∧
      fromStrImplText layout c = Text.unlines (("@classmethod" : Text) ::
        parseHeader c.typeName :: (Text.passage body).map inner.codeLine) := by
  have hclass : (Writer.start layout).write "@classmethod" =
      (Writer.start layout).append ["@classmethod".toList] :=
    Writer.write_line (by simp) (Writer.shown_of_mem (c := '@') (by simp) (by decide))
  have hsuite : ∀ (w : Writer) (body : Text),
      suite w (parseHeader c.typeName) (fun w => w.write body) =
        w.append ((w.indentation ++ parseHeader c.typeName) :: (Text.passage body).map
          (w.append [w.indentation ++ parseHeader c.typeName]).enter.codeLine) := by
    intro w body
    refine suite_eq ?_ (Writer.shown_of_mem (c := ':') ?_ (by decide)) rfl
    all_goals
      unfold parseHeader
      simp [hT]
  obtain ⟨body, htext⟩ : ∃ body : Text, fromStrImplText layout c =
      (suite ((Writer.start layout).write "@classmethod") (parseHeader c.typeName)
        fun w => w.write body).render := ⟨_, rfl⟩
  refine ⟨(((Writer.start layout).append ["@classmethod".toList]).append
    [parseHeader c.typeName]).enter, body, List.append_nil _, ?_⟩
  rw [htext, hclass, hsuite, Writer.append_append]
  rfl

/-- So it is quiet, whatever the passage is. -/
theorem quietLine_of_fromStrImplText {layout : Layout} (hne : layout.unit ≠ [])
    (hunit : IsMargin layout.unit) {c : Context} (hT : '\n' ∉ c.typeName) :
    ∀ l ∈ Text.lines (Template.indentLines 4 (fromStrImplText layout c)), quietLine l = true := by
  obtain ⟨inner, body, hindent, htext⟩ := fromStrImplText_eq layout hT
  have hline : ∀ line ∈ Text.passage body,
      inner.codeLine line = [] ∨ inner.codeLine line = layout.unit ++ line := by
    intro line _
    rw [Writer.codeLine, hindent]
    split
    · exact .inl rfl
    · exact .inr rfl
  rw [htext]
  refine quietLine_of_indentLines (by simp) ?_ ?_
  all_goals
    simp only [List.forall_mem_cons, List.forall_mem_map]
    refine ⟨?_, ?_, fun line hmem => ?_⟩
  · simp
  · unfold parseHeader
    simp [hT]
  · rcases hline line hmem with h | h
    · simp [h]
    · simp [h, lineFeed_not_mem_margin hunit, Text.lineFeed_not_mem_passage hmem]
  · exact fun _ => rfl
  · exact fun _ => quietLine_indented rfl
  · rcases hline line hmem with h | h
    · rw [h]
      exact fun hshown => absurd hshown (by decide)
    · rw [h]
      exact fun _ => quietLine_unit hne hunit line

end CatchAll.Target.Python
