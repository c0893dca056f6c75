import CatchAll.Proofs.Target.PythonClass
import CatchAll.Target.PythonModule

/-!
# The emitted conversion of a Python class

The lines of the method that converts from a text, and what a reader of the
method finds in them.
-/

set_option autoImplicit false

namespace CatchAll.Target.Python

open scoped Text
open Naming Schema Text.Literal

/-! ## Lines -/

def caseLine (arm : Text × Text) : Text := "case " ++ literal arm.2 ++ ":"

def returnLine (arm : Text × Text) : Text := "return cls." ++ arm.1

/-- The lines of the cases, with the margins of a case and of its body. -/
def caseLines (outer inner : Text) (arms : List (Text × Text)) : List Text :=
  arms.flatMap fun arm => [outer ++ caseLine arm, inner ++ returnLine arm]

def fromStrDocs (typeName : Text) : Text :=
  "\"\"\"Convert ``s`` to a ``" ++ typeName ++ "``; unrecognized values become ``" ++
    catchAllName ++ "``.\"\"\""

/-- The lines of the method below its header. -/
def methodBody (unit : Text) (c : Context) : List Text :=
  (unit ++ fromStrDocs c.typeName) :: (unit ++ "match s:") ::
    (caseLines (unit ++ unit) (unit ++ (unit ++ unit)) c.arms ++
      [unit ++ unit ++ "case other:", unit ++ (unit ++ unit) ++ catchAllReturn])

theorem lineFeed_not_mem_caseLine (arm : Text × Text) : '\n' ∉ caseLine arm := by
  unfold caseLine
  simp [lineFeed_not_mem_literal]

theorem caseLine_shown (arm : Text × Text) : Text.allBlank (caseLine arm) = false := by
  refine Writer.shown_of_mem (c := ':') ?_ (by decide)
  unfold caseLine
  simp

theorem lineFeed_not_mem_returnLine {arm : Text × Text} (h : '\n' ∉ arm.1) :
    '\n' ∉ returnLine arm := by
  unfold returnLine
  simp [h]

theorem returnLine_shown (arm : Text × Text) : Text.allBlank (returnLine arm) = false := by
  refine Writer.shown_of_mem (c := '.') ?_ (by decide)
  unfold returnLine
  simp

theorem lineFeed_not_mem_fromStrDocs {typeName : Text} (hT : '\n' ∉ typeName) :
    '\n' ∉ fromStrDocs typeName := by
  unfold fromStrDocs catchAllName
  simp [hT]

theorem fromStrDocs_shown (typeName : Text) : Text.allBlank (fromStrDocs typeName) = false := by
  refine Writer.shown_of_mem (c := 'C') ?_ (by decide)
  unfold fromStrDocs
  simp

theorem lineFeed_not_mem_catchAllReturn : '\n' ∉ catchAllReturn := by
  unfold catchAllReturn catchAllName wrapperName
  simp

theorem catchAllReturn_shown : Text.allBlank catchAllReturn = false := by
  refine Writer.shown_of_mem (c := '(') ?_ (by decide)
  unfold catchAllReturn
  simp

theorem suite_eq {w : Writer} {header : Text} {new : List Text} {body : Writer → Writer}
    (hsingle : '\n' ∉ header) (hshown : Text.allBlank header = false)
    (hbody : body (w.append [w.indentation ++ header]).enter =
      (w.append [w.indentation ++ header]).enter.append new) :
    suite w header body = w.append ((w.indentation ++ header) :: new) :=
  Writer.block_eq hsingle hshown hbody

theorem foldl_fromCase {arms : List (Text × Text)} (h : ∀ arm ∈ arms, '\n' ∉ arm.1) (w : Writer) :
    arms.foldl fromCase w =
      w.append (caseLines w.indentation (w.layout.unit ++ w.indentation) arms) := by
  induction arms generalizing w with
  | nil => simp [caseLines, Writer.append]
  | cons arm arms ih =>
    have hcase : fromCase w arm = w.append
        [w.indentation ++ caseLine arm, w.layout.unit ++ w.indentation ++ returnLine arm] := by
      show suite w (caseLine arm) (fun w => w.write (returnLine arm)) = _
      refine suite_eq (lineFeed_not_mem_caseLine arm) (caseLine_shown arm) ?_
      exact Writer.write_line (lineFeed_not_mem_returnLine (h arm (by simp))) (returnLine_shown arm)
    rw [List.foldl_cons, hcase, ih (fun a ha => h a (List.mem_cons_of_mem arm ha)),
      Writer.append_append]
    rfl

theorem otherCase_eq (w : Writer) :
    suite w "case other:" (fun w => w.write catchAllReturn) =
      w.append
        [w.indentation ++ "case other:", w.layout.unit ++ w.indentation ++ catchAllReturn] := by
  refine suite_eq (by simp) (Writer.shown_of_mem (c := ':') (by simp) (by decide)) ?_
  exact Writer.write_line lineFeed_not_mem_catchAllReturn catchAllReturn_shown

theorem match_eq {arms : List (Text × Text)} (h : ∀ arm ∈ arms, '\n' ∉ arm.1) (w : Writer) :
    suite w "match s:" (fun w =>
        suite (arms.foldl fromCase w) "case other:" fun w => w.write catchAllReturn) =
      w.append ((w.indentation ++ "match s:") ::
        (caseLines (w.layout.unit ++ w.indentation)
            (w.layout.unit ++ (w.layout.unit ++ w.indentation)) arms ++
          [w.layout.unit ++ w.indentation ++ "case other:",
           w.layout.unit ++ (w.layout.unit ++ w.indentation) ++ catchAllReturn])) := by
  refine suite_eq (by simp) (Writer.shown_of_mem (c := ':') (by simp) (by decide)) ?_
  rw [foldl_fromCase h, otherCase_eq, Writer.append_append]
  rfl

theorem fromImplText_eq {layout : Layout} {c : Context} (hT : '\n' ∉ c.typeName)
    (harms : ∀ arm ∈ c.arms, '\n' ∉ arm.1) :
    fromImplText layout c =
      Text.unlines ("@classmethod" :: fromStrHeader c.typeName :: methodBody layout.unit c) := by
  have hdocs : ∀ w : Writer, w.write (fromStrDocs c.typeName) =
      w.append [w.indentation ++ fromStrDocs c.typeName] := fun w =>
    Writer.write_line (lineFeed_not_mem_fromStrDocs hT) (fromStrDocs_shown c.typeName)
  have hclass : (Writer.start layout).write "@classmethod" =
      (Writer.start layout).append ["@classmethod".toList] :=
    Writer.write_line (by simp) (Writer.shown_of_mem (c := '@') (by simp) (by decide))
  have hsingle : '\n' ∉ fromStrHeader c.typeName := by
    unfold fromStrHeader
    simp [hT]
  have hshown : Text.allBlank (fromStrHeader c.typeName) = false := by
    refine Writer.shown_of_mem (c := ':') ?_ (by decide)
    unfold fromStrHeader
    simp
  have hmethod : suite ((Writer.start layout).append ["@classmethod".toList])
      (fromStrHeader c.typeName) (fun w => suite (w.write (fromStrDocs c.typeName)) "match s:"
        fun w => suite (c.arms.foldl fromCase w) "case other:" fun w => w.write catchAllReturn) =
      ((Writer.start layout).append ["@classmethod".toList]).append
        (fromStrHeader c.typeName :: methodBody layout.unit c) := by
    refine suite_eq hsingle hshown ?_
    rw [hdocs, match_eq harms, Writer.append_append]
    simp [methodBody, Writer.start, Writer.indentation, Writer.append, Writer.enter]
  show (suite ((Writer.start layout).write "@classmethod") (fromStrHeader c.typeName) (fun w =>
    suite (w.write (fromStrDocs c.typeName)) "match s:" fun w =>
      suite (c.arms.foldl fromCase w) "case other:" fun w => w.write catchAllReturn)).render = _
  rw [hclass, hmethod, Writer.append_append]
  rfl

/-- What a line of the body has after its margin. -/
theorem mem_methodBody {unit : Text} {c : Context} (hunit : '\n' ∉ unit) (hT : '\n' ∉ c.typeName)
    (harms : ∀ arm ∈ c.arms, '\n' ∉ arm.1) {line : Text} (h : line ∈ methodBody unit c) :
    ∃ shown, line = unit ++ shown ∧ '\n' ∉ shown ∧ Text.allBlank shown = false := by
  simp only [methodBody, caseLines, List.mem_cons, List.mem_append, List.mem_flatMap,
    List.not_mem_nil, or_false] at h
  rcases h with rfl | rfl | ⟨arm, harm, rfl | rfl⟩ | rfl | rfl
  · exact ⟨_, rfl, lineFeed_not_mem_fromStrDocs hT, fromStrDocs_shown c.typeName⟩
  · exact ⟨_, rfl, by simp, Writer.shown_of_mem (c := ':') (by simp) (by decide)⟩
  · refine ⟨unit ++ caseLine arm, List.append_assoc .., ?_,
      Writer.allBlank_append_of_shown unit (caseLine_shown arm)⟩
    simp [hunit, lineFeed_not_mem_caseLine]
  · refine ⟨unit ++ (unit ++ returnLine arm), by simp, ?_, Writer.allBlank_append_of_shown unit
      (Writer.allBlank_append_of_shown unit (returnLine_shown arm))⟩
    simp [hunit, lineFeed_not_mem_returnLine (harms arm harm)]
  · refine ⟨unit ++ "case other:", List.append_assoc .., by simp [hunit],
      Writer.shown_of_mem (c := ':') (by simp) (by decide)⟩
  · refine ⟨unit ++ (unit ++ catchAllReturn), by simp, ?_, Writer.allBlank_append_of_shown unit
      (Writer.allBlank_append_of_shown unit catchAllReturn_shown)⟩
    simp [hunit, lineFeed_not_mem_catchAllReturn]

/-! ## Reading it back -/

theorem readCase_caseLine {outer inner : Text} (houter : IsMargin outer) (hinner : IsMargin inner)
    {arm : Text × Text} (h : ∀ c ∈ arm.1, isNameChar c = true) :
    readCase (outer ++ caseLine arm) (inner ++ returnLine arm) = some (arm.2, arm.1) := by
  have hvalue : (caseLine arm).dropPrefix? "case " = some (literal arm.2 ++ [':']) := by
    rw [← dropPrefix?_append ("case " : Text), ← List.append_assoc]
    rfl
  have hname : (returnLine arm).dropPrefix? "return cls." = some (arm.1 ++ []) := by
    rw [← dropPrefix?_append ("return cls." : Text), List.append_nil]
    rfl
  rw [readCase, trimmed_append houter (c := 'c') rfl rfl, trimmed_append hinner (c := 'r') rfl rfl,
    hvalue, hname]
  simp only [Option.bind_eq_bind, Option.bind_some, unquote?_literal]
  rw [cutName_append h (by simp)]
  rfl

theorem caseLine_ne_otherCase (arm : Text × Text) : caseLine arm ≠ "case other:" := by
  intro h
  have hquote : (caseLine arm)[5]? = some '"' := rfl
  rw [h] at hquote
  exact absurd hquote (by simp)

theorem readCases_caseLines {outer inner : Text} (houter : IsMargin outer)
    (hinner : IsMargin inner) {arms : List (Text × Text)} (h : ∀ arm ∈ arms, FitsVariant arm.1)
    (rest : List Text) :
    readCases (caseLines outer inner arms ++
      (outer ++ "case other:") :: (inner ++ catchAllReturn) :: rest) =
        some (arms.map Prod.swap) := by
  induction arms with
  | nil =>
    have hother : trimmed (outer ++ "case other:") = "case other:" :=
      trimmed_append houter (c := 'c') (by simp) rfl
    have hreturn : trimmed (inner ++ catchAllReturn) = catchAllReturn :=
      trimmed_append hinner (c := 'r') rfl rfl
    rw [caseLines, List.flatMap_nil, List.nil_append, readCases, if_pos hother, if_pos hreturn]
    rfl
  | cons arm arms ih =>
    have htrimmed : trimmed (outer ++ caseLine arm) = caseLine arm :=
      trimmed_append houter (c := 'c') rfl rfl
    have hmore : caseLines outer inner (arm :: arms) =
        (outer ++ caseLine arm) :: (inner ++ returnLine arm) :: caseLines outer inner arms := rfl
    rw [hmore, List.cons_append, List.cons_append, readCases,
      if_neg (fun heq => caseLine_ne_otherCase arm (htrimmed.symm.trans heq)),
      readCase_caseLine houter hinner (h arm (by simp)).isName.chars,
      ih fun a ha => h a (List.mem_cons_of_mem arm ha)]
    rfl

theorem isDocLine_fromStrDocs {margin typeName : Text} (hmargin : IsMargin margin)
    (h : ∀ c ∈ typeName, isNameChar c = true) :
    isDocLine (margin ++ fromStrDocs typeName) = true := by
  have hquotes : ∃ inner : Text, fromStrDocs typeName = "\"\"\"" ++ (inner ++ "\"\"\"") ∧
      ∀ c ∈ inner, c ≠ '"' ∧ c ≠ '\\' := by
    refine ⟨"Convert ``s`` to a ``" ++ typeName ++ "``; unrecognized values become ``" ++
      catchAllName ++ "``.", ?_, ?_⟩
    · unfold fromStrDocs catchAllName
      simp
    · have hT : ∀ c ∈ typeName, c ≠ '"' ∧ c ≠ '\\' := by
        intro c hc
        constructor
        all_goals
          rintro rfl
          exact absurd (h _ hc) (by decide)
      unfold catchAllName
      simp only [List.forall_mem_append]
      refine ⟨⟨⟨⟨?_, hT⟩, ?_⟩, ?_⟩, ?_⟩
      all_goals simp
  obtain ⟨inner, hdocs, hinner⟩ := hquotes
  have hdrop : (inner ++ "\"\"\"").dropWhile (fun c => c ≠ '"' && c ≠ '\\') = "\"\"\"" := by
    rw [List.dropWhile_append_of_pos fun c hc => by simpa using hinner c hc]
    rfl
  rw [isDocLine, trimmed_append hmargin (c := '"') rfl rfl, hdocs, dropPrefix?_append,
    Option.any_some, hdrop]
  rfl

theorem map_caseLines (margin outer inner : Text) (arms : List (Text × Text)) :
    (caseLines outer inner arms).map (margin ++ ·) =
      caseLines (margin ++ outer) (margin ++ inner) arms := by
  simp [caseLines, List.map_flatMap]

/-- The method gives back the arms that it was written for, wherever it stands. -/
theorem readFromStr_methodBody {margin unit : Text} (hmargin : IsMargin margin)
    (hunit : IsMargin unit) {c : Context} (hT : ∀ x ∈ c.typeName, isNameChar x = true)
    (h : ∀ arm ∈ c.arms, FitsVariant arm.1) (rest : List Text) :
    readFromStr ((methodBody unit c).map (margin ++ ·) ++ rest) = some (c.arms.map Prod.swap) := by
  have hdoc := isDocLine_fromStrDocs (hmargin.append hunit) hT
  have hmatch : trimmed ((margin ++ unit) ++ "match s:") = "match s:" :=
    trimmed_append (hmargin.append hunit) (c := 'm') rfl rfl
  have hcases := readCases_caseLines (hmargin.append (hunit.append hunit))
    (hmargin.append (hunit.append (hunit.append hunit))) h rest
  rw [List.append_assoc] at hdoc hmatch
  simp only [List.append_assoc] at hcases
  simp only [methodBody, List.map_cons, List.map_append, List.map_nil, map_caseLines,
    List.cons_append, List.append_assoc, List.nil_append]
  rw [readFromStr, hdoc, hmatch]
  simpa using hcases

end CatchAll.Target.Python
