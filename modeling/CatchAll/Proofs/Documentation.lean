import CatchAll.Proofs.Text.Passage
import CatchAll.Proofs.Writer

/-!
# Documentation lines

Documentation is written line by line, each line behind the indentation and the mark, with a
space between the mark and what the line holds. So the lines are read back from what was
written, and all that was written is marked.
-/

set_option autoImplicit false

namespace CatchAll.Writer

open scoped Text

variable {w : Writer}

/-- What a writer puts in front of each line of documentation. -/
def docStart (w : Writer) : Text := w.indentation ++ w.layout.docMark

/-- What a line of documentation holds, if the line is one. -/
def undocumented (w : Writer) (line : Text) : Option Text :=
  if w.docStart <+: line then
    match line.drop w.docStart.length with
    | [] => some []
    | c :: held => if c = ' ' then some held else none
  else none

theorem docLine_eq (hmark : w.layout.docMark ≠ []) (line : Text) :
    w.docLine line = w.docStart ++ if line = [] then [] else ' ' :: line := by
  rw [docLine, marked, if_neg hmark, docStart]
  by_cases hempty : line = []
  · rw [if_pos hempty, if_pos hempty, if_neg hmark, List.append_nil]
  · have hsome : w.layout.docMark ++ " ".toList ++ line ≠ [] := by simp
    rw [if_neg hempty, if_neg hempty, if_neg hsome, List.append_assoc, List.append_assoc]
    rfl

theorem undocumented_docLine (hmark : w.layout.docMark ≠ []) (line : Text) :
    w.undocumented (w.docLine line) = some line := by
  rw [docLine_eq hmark, undocumented, if_pos (List.prefix_append _ _), List.drop_left]
  by_cases hempty : line = []
  · rw [if_pos hempty, hempty]
  · rw [if_neg hempty]
    rfl

theorem lineFeed_not_mem_docLine (hmark : w.layout.docMark ≠ [])
    (hsingle : '\n' ∉ w.layout.docMark) (hunit : '\n' ∉ w.layout.unit) {line : Text}
    (hline : '\n' ∉ line) : '\n' ∉ w.docLine line := by
  rw [docLine_eq hmark, docStart, List.mem_append, List.mem_append, not_or, not_or]
  refine ⟨⟨lineFeed_not_mem_indentation hunit, hsingle⟩, ?_⟩
  by_cases hempty : line = []
  · rw [if_pos hempty]
    exact List.not_mem_nil
  · rw [if_neg hempty, List.mem_cons, not_or]
    exact ⟨by decide, hline⟩

theorem lineFeed_not_mem_unit (size : Int) (tabs : Bool) (docMark : Text) :
    '\n' ∉ (Layout.ofOptions size tabs docMark).unit := by
  cases tabs with
  | true =>
    show '\n' ∉ ['\t']
    decide
  | false =>
    intro hmem
    exact absurd (List.eq_of_mem_replicate hmem) (by decide)

/-- Documentation adds one line for each line of its passage and changes nothing else: the
indentation, the mark and, unless the line is empty, a space and the line. The passage is read
back from these lines. Each of them begins with the indentation and the mark, and none holds a
line feed, for any unit without one, as the options give it. -/
theorem docs_keep_lines (w : Writer) (t : Text) (hmark : w.layout.docMark ≠ [])
    (hsingle : '\n' ∉ w.layout.docMark) :
    Text.IsPassage t (Text.passage t) ∧
    (∃ new, w.docs t = w.append new ∧
      List.Forall₂ (fun line l => l = w.docStart ++ if line = [] then [] else ' ' :: line)
        (Text.passage t) new ∧
      new.map w.undocumented = (Text.passage t).map some ∧
      ∀ l ∈ new, w.docStart <+: l ∧ ('\n' ∉ w.layout.unit → '\n' ∉ l)) ∧
    ∀ size tabs docMark, '\n' ∉ (Layout.ofOptions size tabs docMark).unit := by
  refine ⟨Text.isPassage_passage t, ⟨_, rfl, ?_, ?_, ?_⟩, lineFeed_not_mem_unit⟩
  · rw [List.forall₂_map_right_iff, List.forall₂_same]
    exact fun line _ => docLine_eq hmark line
  · rw [List.map_map]
    exact List.map_congr_left fun line _ => undocumented_docLine hmark line
  · intro l hl
    obtain ⟨line, hline, rfl⟩ := List.mem_map.mp hl
    refine ⟨?_, fun hunit => ?_⟩
    · rw [docLine_eq hmark]
      exact List.prefix_append _ _
    · exact lineFeed_not_mem_docLine hmark hsingle hunit (Text.lineFeed_not_mem_passage hline)

/-- Several lines with a margin and an empty line between them, at the first level. -/
theorem indented_docs_kept :
    ("///".toList ≠ [] ∧ '\n' ∉ "///".toList) ∧
    ∃ new, ((start (Layout.ofOptions 2 false "///")).enter.docs
        "\n    Sizes.\n  \n      Large\n").lines = [] ++ new ∧
      new = ["  /// Sizes.".toList, "  ///".toList, "  ///   Large".toList] ∧
      new.map (start (Layout.ofOptions 2 false "///")).enter.undocumented =
        [some "Sizes.".toList, some [], some "  Large".toList] := by
  have hmark : "///".toList ≠ [] ∧ '\n' ∉ "///".toList := by decide
  obtain ⟨-, ⟨new, hdocs, -, hread, -⟩, -⟩ :=
    docs_keep_lines (start (Layout.ofOptions 2 false "///")).enter
      "\n    Sizes.\n  \n      Large\n" hmark.1 hmark.2
  have hlines := congrArg Writer.lines hdocs
  refine ⟨hmark, new, hlines, ?_, hread.trans (by decide)⟩
  exact hlines.symm.trans (by decide)

end CatchAll.Writer
