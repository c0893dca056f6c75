import CatchAll.Generator
import CatchAll.Proofs.Text.Lines
import Mathlib.Data.List.DropRight
import Mathlib.Data.List.TakeWhile

/-!
# Comment lines

Two texts have the same code when they differ in comment lines alone. Tidying
counts the empty lines before a line, so a comment line may stand on one side
alone only where the line before it shows something: there is nothing to count.
-/

set_option autoImplicit false

namespace CatchAll

open scoped Text

/-! ## Stripped lines -/

namespace Text

theorem stripEnd_eq_rdropWhile (line : Text) : stripEnd line = line.rdropWhile isBlank := rfl

theorem stripEnd_eq_nil {line : Text} : stripEnd line = [] ↔ allBlank line = true := by
  rw [stripEnd_eq_rdropWhile, List.rdropWhile_eq_nil_iff, allBlank, List.all_eq_true]

/-- What stands before a character that shows is kept. -/
theorem stripEnd_append (before : Text) {c : Char} (hc : isBlank c = false) (rest : Text) :
    stripEnd (before ++ c :: rest) = before ++ c :: stripEnd rest := by
  simp only [stripEnd_eq_rdropWhile]
  induction rest using List.reverseRecOn with
  | nil => exact List.rdropWhile_concat_neg _ _ _ (by simp [hc])
  | append_singleton rest x ih =>
    rw [← List.cons_append, ← List.append_assoc, List.rdropWhile_concat,
      List.rdropWhile_concat]
    split
    · exact ih
    · rw [List.append_assoc, List.cons_append]

end Text

namespace Target.Rust

/-- What a line of documentation begins with, or a line that stands in its place. -/
def commentMarks : List Text := ["///", "//!", "#[allow(missing_docs)]"]

def isComment (line : Text) : Bool :=
  commentMarks.any fun mark => mark.isPrefixOf (line.dropWhile Text.isBlank)

/-- A text without its comment lines. -/
def codeLines (t : Text) : List Text := (Text.lines t).filter (!isComment ·)

/-- A mark shows something at both of its ends. -/
theorem mark_shown {mark : Text} (h : mark ∈ commentMarks) :
    (∃ c rest, mark = c :: rest ∧ Text.isBlank c = false) ∧
      ∃ before c, mark = before ++ [c] ∧ Text.isBlank c = false := by
  simp only [commentMarks, List.mem_cons, List.not_mem_nil, or_false] at h
  rcases h with rfl | rfl | rfl
  · exact ⟨⟨'/', "//", rfl, by decide⟩, "//", '/', rfl, by decide⟩
  · exact ⟨⟨'/', "/!", rfl, by decide⟩, "//", '!', rfl, by decide⟩
  · exact ⟨⟨'#', "[allow(missing_docs)]", rfl, by decide⟩, "#[allow(missing_docs)", ']', rfl,
      by decide⟩

theorem isComment_iff {line : Text} : isComment line = true ↔
    ∃ mark ∈ commentMarks, ∃ before rest, Text.allBlank before = true ∧
      line = before ++ (mark ++ rest) := by
  rw [isComment, List.any_eq_true]
  constructor
  · rintro ⟨mark, hmark, hprefix⟩
    obtain ⟨rest, hrest⟩ := List.isPrefixOf_iff_prefix.mp hprefix
    refine ⟨mark, hmark, line.takeWhile Text.isBlank, rest, ?_, ?_⟩
    · rw [Text.allBlank, List.all_eq_true]
      exact fun c hc => List.mem_takeWhile_imp hc
    · rw [hrest, List.takeWhile_append_dropWhile]
  · rintro ⟨mark, hmark, before, rest, hbefore, rfl⟩
    obtain ⟨⟨c, more, rfl, hc⟩, -⟩ := mark_shown hmark
    refine ⟨c :: more, hmark, List.isPrefixOf_iff_prefix.mpr ⟨rest, ?_⟩⟩
    rw [List.dropWhile_append_of_pos (List.all_eq_true.mp hbefore), List.cons_append,
      List.dropWhile_cons_of_neg (by simp [hc])]

theorem isComment_shown {line : Text} (h : isComment line = true) :
    Text.allBlank line = false := by
  obtain ⟨mark, hmark, before, rest, -, rfl⟩ := isComment_iff.mp h
  obtain ⟨⟨c, more, rfl, hc⟩, -⟩ := mark_shown hmark
  rw [Text.allBlank, List.all_eq_false]
  exact ⟨c, by simp, by simp [hc]⟩

theorem isComment_stripEnd {line : Text} (h : isComment line = true) :
    isComment (Text.stripEnd line) = true := by
  obtain ⟨mark, hmark, before, rest, hbefore, rfl⟩ := isComment_iff.mp h
  obtain ⟨-, init, c, hsplit, hc⟩ := mark_shown hmark
  refine isComment_iff.mpr ⟨mark, hmark, before, Text.stripEnd rest, hbefore, ?_⟩
  have hjoin (tail : Text) : before ++ (mark ++ tail) = (before ++ init) ++ c :: tail := by
    simp [hsplit]
  rw [hjoin, hjoin, Text.stripEnd_append _ hc]

theorem isComment_indented (width : Nat) {line : Text} (h : isComment line = true) :
    isComment (List.replicate width ' ' ++ line) = true := by
  obtain ⟨mark, hmark, before, rest, hbefore, rfl⟩ := isComment_iff.mp h
  refine isComment_iff.mpr ⟨mark, hmark, List.replicate width ' ' ++ before, rest, ?_,
    (List.append_assoc _ _ _).symm⟩
  rw [Text.allBlank, List.all_append, ← Text.allBlank, ← Text.allBlank, hbefore, Bool.and_true,
    Text.allBlank, List.all_replicate]
  simp [show Text.isBlank ' ' = true by decide]

/-! ## Lines with the same code -/

/-- Two lists of lines that differ in comment lines alone. The flag says whether the
line before them shows something. -/
inductive Alike : Bool → List Text → List Text → Prop
  | nil (shown : Bool) : Alike shown [] []
  | same {shown : Bool} (line : Text) {a b : List Text} (h : Alike (!Text.allBlank line) a b) :
      Alike shown (line :: a) (line :: b)
  | both {shown : Bool} {line other : Text} {a b : List Text} (hline : isComment line = true)
      (hother : isComment other = true) (h : Alike true a b) :
      Alike shown (line :: a) (other :: b)
  | left {line : Text} {a b : List Text} (hline : isComment line = true) (h : Alike true a b) :
      Alike true (line :: a) b
  | right {line : Text} {a b : List Text} (hline : isComment line = true) (h : Alike true a b) :
      Alike true a (line :: b)

namespace Alike

variable {shown : Bool} {a b c d : List Text}

theorem refl (shown : Bool) (a : List Text) : Alike shown a a := by
  induction a generalizing shown with
  | nil => exact nil shown
  | cons line a ih => exact same line (ih _)

theorem of_false (h : Alike false a b) (shown : Bool) : Alike shown a b := by
  cases h with
  | nil => exact nil shown
  | same line h => exact same line h
  | both hline hother h => exact both hline hother h

theorem append (h : Alike shown a b) (h' : Alike false c d) : Alike shown (a ++ c) (b ++ d) := by
  induction h with
  | nil shown => exact h'.of_false shown
  | same line _ ih => exact same line ih
  | both hline hother _ ih => exact both hline hother ih
  | left hline _ ih => exact left hline ih
  | right hline _ ih => exact right hline ih

/-- Comment lines below a line that shows something. -/
theorem comments_left (hc : ∀ line ∈ c, isComment line = true) (h : Alike true a b) :
    Alike true (c ++ a) b := by
  induction c with
  | nil => exact h
  | cons line c ih =>
    obtain ⟨hline, hc⟩ := List.forall_mem_cons.mp hc
    exact left hline (ih hc)

theorem comments_right (hc : ∀ line ∈ c, isComment line = true) (h : Alike true a b) :
    Alike true a (c ++ b) := by
  induction c with
  | nil => exact h
  | cons line c ih =>
    obtain ⟨hline, hc⟩ := List.forall_mem_cons.mp hc
    exact right hline (ih hc)

/-- Comment lines on both sides, whatever the line before them is. -/
theorem comments (hc : ∀ line ∈ c, isComment line = true) (hd : ∀ line ∈ d, isComment line = true)
    (hcne : c ≠ []) (hdne : d ≠ []) : Alike shown c d := by
  obtain ⟨line, c, rfl⟩ := List.exists_cons_of_ne_nil hcne
  obtain ⟨other, d, rfl⟩ := List.exists_cons_of_ne_nil hdne
  obtain ⟨hline, hc⟩ := List.forall_mem_cons.mp hc
  obtain ⟨hother, hd⟩ := List.forall_mem_cons.mp hd
  have hrest : Alike true (c ++ []) (d ++ []) :=
    comments_left hc (comments_right hd (nil true))
  rw [List.append_nil, List.append_nil] at hrest
  exact both hline hother hrest

end Alike

/-! ## Tidying -/

open Generator (tidyLines)

theorem tidyLines_shown {line : Text} (h : Text.allBlank line = false) (blanks : Nat)
    (rest : List Text) :
    tidyLines blanks (line :: rest) = Text.stripEnd line :: tidyLines 0 rest := by
  rw [tidyLines]
  exact if_neg fun hnil => by simp [Text.stripEnd_eq_nil.mp hnil] at h

theorem tidyLines_blank {line : Text} (h : Text.allBlank line = true) (blanks : Nat)
    (rest : List Text) :
    tidyLines blanks (line :: rest) =
      if blanks < 2 then [] :: tidyLines (blanks + 1) rest else tidyLines (blanks + 1) rest := by
  rw [tidyLines]
  exact if_pos (Text.stripEnd_eq_nil.mpr h)

theorem code_tidyLines_comment {line : Text} (h : isComment line = true) (blanks : Nat)
    (rest : List Text) :
    (tidyLines blanks (line :: rest)).filter (!isComment ·) =
      (tidyLines 0 rest).filter (!isComment ·) := by
  rw [tidyLines_shown (isComment_shown h), List.filter_cons_of_neg]
  simp [isComment_stripEnd h]

/-- The code of what is tidied depends on the code alone. -/
theorem Alike.code_tidyLines {shown : Bool} {a b : List Text} (h : Alike shown a b)
    (blanks : Nat) (hblanks : shown = true → blanks = 0) :
    (tidyLines blanks a).filter (!isComment ·) = (tidyLines blanks b).filter (!isComment ·) := by
  induction h generalizing blanks with
  | nil => rfl
  | same line _ ih =>
    cases hline : Text.allBlank line with
    | false =>
      rw [tidyLines_shown hline, tidyLines_shown hline, List.filter_cons, List.filter_cons,
        ih 0 fun _ => rfl]
    | true =>
      have hrest := ih (blanks + 1) (by simp [hline])
      rw [tidyLines_blank hline, tidyLines_blank hline]
      split
      · rw [List.filter_cons, List.filter_cons, hrest]
      · exact hrest
  | both hline hother _ ih =>
    rw [code_tidyLines_comment hline, code_tidyLines_comment hother, ih 0 fun _ => rfl]
  | left hline _ ih =>
    obtain rfl := hblanks rfl
    rw [code_tidyLines_comment hline, ih 0 fun _ => rfl]
  | right hline _ ih =>
    obtain rfl := hblanks rfl
    rw [code_tidyLines_comment hline, ih 0 fun _ => rfl]

theorem mem_tidyLines {blanks : Nat} {ls : List Text} {l : Text} (h : l ∈ tidyLines blanks ls) :
    ∃ line ∈ ls, l = Text.stripEnd line := by
  induction ls generalizing blanks with
  | nil => cases h
  | cons line rest ih =>
    have hrest : ∀ n, l ∈ tidyLines n rest → ∃ line' ∈ line :: rest, l = Text.stripEnd line' := by
      intro n hl
      obtain ⟨line', hline', rfl⟩ := ih hl
      exact ⟨line', List.mem_cons_of_mem _ hline', rfl⟩
    cases hline : Text.allBlank line with
    | false =>
      rw [tidyLines_shown hline] at h
      rcases List.mem_cons.mp h with rfl | h
      · exact ⟨line, List.mem_cons_self, rfl⟩
      · exact hrest 0 h
    | true =>
      rw [tidyLines_blank hline] at h
      split at h
      · rcases List.mem_cons.mp h with rfl | h
        · exact ⟨line, List.mem_cons_self, (Text.stripEnd_eq_nil.mpr hline).symm⟩
        · exact hrest _ h
      · exact hrest _ h

theorem tidyLines_ne_nil {ls : List Text} (h : ls ≠ []) : tidyLines 0 ls ≠ [] := by
  obtain ⟨line, rest, rfl⟩ := List.exists_cons_of_ne_nil h
  cases hline : Text.allBlank line with
  | false => simp [tidyLines_shown hline]
  | true => simp [tidyLines_blank hline]

theorem lines_tidied (t : Text) :
    Text.lines (Text.unlines (tidyLines 0 (Text.lines t))) = tidyLines 0 (Text.lines t) := by
  refine Text.lines_unlines _ (tidyLines_ne_nil (Text.lines_ne_nil t)) fun l hl hfeed => ?_
  obtain ⟨line, hline, rfl⟩ := mem_tidyLines hl
  have hmem : '\n' ∈ line := (List.rdropWhile_prefix Text.isBlank line).subset hfeed
  exact Text.lineFeed_not_mem_line hline hmem

/-! ## Texts with the same code -/

/-- Two texts whose lines differ in comment lines alone. -/
def SameCode (t u : Text) : Prop := Alike false (Text.lines t) (Text.lines u)

/-- A text of comment lines. -/
def IsCommentary (t : Text) : Prop := ∀ line ∈ Text.lines t, isComment line = true

theorem SameCode.codeLines_tidied {t u : Text} (h : SameCode t u) :
    codeLines (Text.unlines (tidyLines 0 (Text.lines t))) =
      codeLines (Text.unlines (tidyLines 0 (Text.lines u))) := by
  rw [codeLines, codeLines, lines_tidied, lines_tidied]
  exact h.code_tidyLines 0 fun _ => rfl

namespace SameCode

variable {t u docs others : Text}

theorem refl (t : Text) : SameCode t t := Alike.refl false _

theorem below (before : Text) (h : SameCode t u) :
    SameCode (before ++ '\n' :: t) (before ++ '\n' :: u) := by
  rw [SameCode, Text.lines_append_lineFeed, Text.lines_append_lineFeed]
  exact (Alike.refl false _).append h

theorem below_commentary (hdocs : IsCommentary docs) (hothers : IsCommentary others)
    (h : SameCode t u) : SameCode (docs ++ '\n' :: t) (others ++ '\n' :: u) := by
  rw [SameCode, Text.lines_append_lineFeed, Text.lines_append_lineFeed]
  exact (Alike.comments hdocs hothers (Text.lines_ne_nil _) (Text.lines_ne_nil _)).append h

/-- Commentary below a line that shows something can be left out. -/
theorem headed {line : Text} (hsingle : '\n' ∉ line) (hshown : Text.allBlank line = false)
    (hdocs : IsCommentary docs) (t : Text) :
    SameCode (line ++ '\n' :: (docs ++ '\n' :: t)) (line ++ '\n' :: t) := by
  rw [SameCode, Text.lines_append_lineFeed, Text.lines_append_lineFeed,
    Text.lines_append_lineFeed, Text.lines_of_single hsingle]
  show Alike false (line :: (Text.lines docs ++ Text.lines t)) (line :: Text.lines t)
  refine Alike.same line ?_
  rw [hshown]
  exact Alike.comments_left hdocs (Alike.refl true _)

theorem end_line (h : SameCode t u) : SameCode (t ++ "\n") (u ++ "\n") := by
  show Alike false (Text.lines (t ++ '\n' :: [])) (Text.lines (u ++ '\n' :: []))
  rw [Text.lines_append_lineFeed, Text.lines_append_lineFeed]
  exact Alike.append h (Alike.refl false _)

theorem paragraphs {parts others : List Text} (h : List.Forall₂ SameCode parts others) :
    SameCode (Text.joinWith "\n\n" parts) (Text.joinWith "\n\n" others) := by
  induction h with
  | nil => exact refl _
  | @cons part other parts others hpart hrest ih =>
    cases hrest with
    | nil => simpa [Text.joinWith] using hpart
    | @cons next next' parts others hnext hrest =>
      rw [Text.joinWith_cons_cons, Text.joinWith_cons_cons, SameCode, List.append_assoc,
        List.append_assoc, Text.lines_paragraph, Text.lines_paragraph]
      exact hpart.append (Alike.same [] ih)

end SameCode

end Target.Rust

end CatchAll
