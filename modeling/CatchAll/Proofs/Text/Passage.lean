import CatchAll.Proofs.Text.Lines
import Mathlib.Data.List.Forall2
import Mathlib.Data.List.Induction

/-!
# The lines of a passage

The margin of some lines is the longest indentation that all of them begin with, where those
without content do not count. A passage of several lines has what is behind the margin of
each line, from the first line with content to the last one. So the text is lost of nothing
but the margin, and of spaces and tabs in lines that hold nothing else.
-/

set_option autoImplicit false

namespace CatchAll.Text

/-- `m` is the longest indentation that all lines with content begin with. -/
def IsMargin (m : Text) (ls : List Text) : Prop :=
  (∃ l ∈ ls, hasContent l = true) → ∀ p : Text,
    p <+: m ↔ (∀ c ∈ p, isIndent c = true) ∧ ∀ l ∈ ls, hasContent l = true → p <+: l

/-- `rest` is what a line has behind the margin. -/
def Undented (m line rest : Text) : Prop :=
  if hasContent line then line = m ++ rest else rest = []

/-- A single line stands for itself. Of several lines those without content are left out in
front and at the end, and the others stand behind the margin; where no line has content, one
empty line is left. -/
inductive IsPassage (t : Text) : List Text → Prop
  | single (h : '\n' ∉ t) : IsPassage t [t]
  | several {m : Text} {before kept after ls : List Text} (h : '\n' ∈ t)
      (hmargin : IsMargin m (lines t)) (hlines : lines t = before ++ kept ++ after)
      (hblank : ∀ l ∈ before ++ after, hasContent l = false)
      (hkept : List.Forall₂ (Undented m) kept ls)
      (hends : ls = [[]] ∨ ls.head? ≠ some [] ∧ ls.getLast? ≠ some []) : IsPassage t ls

/-! ## The margin -/

theorem prefix_commonStart_iff (p a b : Text) : p <+: commonStart a b ↔ p <+: a ∧ p <+: b := by
  fun_induction commonStart a b generalizing p with
  | case1 c as bs ih =>
    cases p with
    | nil => simp
    | cons d p =>
      simp only [List.cons_prefix_cons, ih]
      tauto
  | case2 a as b bs hne =>
    cases p with
    | nil => simp
    | cons d p =>
      simp only [List.cons_prefix_cons, List.prefix_nil, List.cons_ne_nil, false_iff]
      rintro ⟨⟨rfl, -⟩, rfl, -⟩
      exact hne rfl
  | case3 a b hshort =>
    cases p with
    | nil => simp
    | cons d p =>
      refine iff_of_false (by simp) ?_
      rintro ⟨⟨as, rfl⟩, bs, rfl⟩
      exact hshort d (p ++ as) d (p ++ bs) rfl rfl

theorem prefix_foldl_commonStart_iff (p first : Text) (rest : List Text) :
    p <+: rest.foldl commonStart first ↔ p <+: first ∧ ∀ t ∈ rest, p <+: t := by
  induction rest generalizing first with
  | nil => simp
  | cons t rest ih => rw [List.foldl_cons, ih, prefix_commonStart_iff, List.forall_mem_cons, and_assoc]

theorem prefix_indentOf_iff (p l : Text) :
    p <+: indentOf l ↔ (∀ c ∈ p, isIndent c = true) ∧ p <+: l := by
  induction l generalizing p with
  | nil =>
    rw [indentOf, List.takeWhile_nil, List.prefix_nil]
    constructor
    · rintro rfl
      simp
    · exact And.right
  | cons c l ih =>
    cases p with
    | nil => simp
    | cons d p =>
      rw [indentOf, List.forall_mem_cons, List.cons_prefix_cons]
      by_cases hc : isIndent c = true
      · rw [List.takeWhile_cons_of_pos hc, List.cons_prefix_cons, ← indentOf, ih]
        constructor
        · rintro ⟨rfl, hp, hbegins⟩
          exact ⟨⟨hc, hp⟩, rfl, hbegins⟩
        · rintro ⟨⟨-, hp⟩, rfl, hbegins⟩
          exact ⟨rfl, hp, hbegins⟩
      · rw [List.takeWhile_cons_of_neg hc]
        refine iff_of_false (by simp) ?_
        rintro ⟨⟨hd, -⟩, rfl, -⟩
        exact hc hd

theorem isMargin_margin (ls : List Text) : IsMargin (margin ls) ls := by
  rintro ⟨l, hl, hcontent⟩ p
  have hmem : l ∈ ls.filter hasContent := List.mem_filter.mpr ⟨hl, hcontent⟩
  obtain ⟨first, rest, hfilter⟩ := List.exists_cons_of_ne_nil (List.ne_nil_of_mem hmem)
  have hall : p <+: margin ls ↔ ∀ l ∈ ls.filter hasContent, p <+: indentOf l := by
    rw [margin, hfilter, List.map_cons, prefix_foldl_commonStart_iff, List.forall_mem_cons,
      List.forall_mem_map]
  rw [hall]
  simp only [List.mem_filter, prefix_indentOf_iff, and_imp]
  constructor
  · intro h
    exact ⟨(h l hl hcontent).1, fun l hl hcontent => (h l hl hcontent).2⟩
  · rintro ⟨hp, h⟩ l hl hcontent
    exact ⟨hp, h l hl hcontent⟩

/-! ## Lines behind the margin -/

/-- What a line of the lines has behind their margin. -/
def undent (ls : List Text) (line : Text) : Text :=
  if hasContent line then line.drop (margin ls).length else []

theorem undented_undent {ls : List Text} {line : Text} (h : line ∈ ls) :
    Undented (margin ls) line (undent ls line) := by
  rw [Undented, undent]
  split
  · rename_i hcontent
    have hbegins := (isMargin_margin ls ⟨line, h, hcontent⟩ (margin ls)).mp List.prefix_rfl
    exact (List.prefix_iff_eq_append.mp (hbegins.2 line h hcontent)).symm
  · rfl

theorem hasContent_of_undent_eq_nil {ls : List Text} {line : Text} (h : line ∈ ls)
    (hnil : undent ls line = []) : hasContent line = false := by
  rw [Bool.eq_false_iff]
  intro hcontent
  have hundented := undented_undent h
  have hblank := ((isMargin_margin ls ⟨line, h, hcontent⟩ (margin ls)).mp List.prefix_rfl).1
  rw [Undented, if_pos hcontent, hnil, List.append_nil] at hundented
  rw [hasContent, hundented, List.all_eq_true.mpr hblank] at hcontent
  cases hcontent

theorem lines_dedent (t : Text) : lines (dedent t) = (lines t).map (undent (lines t)) := by
  rw [dedent]
  apply lines_unlines
  · simp [dedentLines, lines_ne_nil]
  · intro l hl
    obtain ⟨line, hline, rfl⟩ := List.mem_map.mp hl
    have hfeed := lineFeed_not_mem_line hline
    split
    · exact fun hmem => hfeed (List.mem_of_mem_drop hmem)
    · exact List.not_mem_nil

/-! ## Lines without those around them -/

theorem lines_dropWhile (t : Text) : ∃ before,
    lines t = before ++ lines (t.dropWhile (· == '\n')) ∧ ∀ l ∈ before, l = [] := by
  induction t with
  | nil => exact ⟨[], rfl, by simp⟩
  | cons c t ih =>
    by_cases hc : c = '\n'
    · subst hc
      obtain ⟨before, hlines, hbefore⟩ := ih
      refine ⟨[] :: before, ?_, List.forall_mem_cons.mpr ⟨rfl, hbefore⟩⟩
      rw [List.dropWhile_cons_of_pos rfl, List.cons_append, ← hlines]
      exact lines_append_lineFeed [] t
    · rw [List.dropWhile_cons_of_neg (by simpa using hc)]
      exact ⟨[], rfl, by simp⟩

theorem lines_dropEndWhile (t : Text) : ∃ after,
    lines t = lines (dropEndWhile (· == '\n') t) ++ after ∧ ∀ l ∈ after, l = [] := by
  induction t using List.reverseRecOn with
  | nil => exact ⟨[], rfl, by simp⟩
  | append_singleton t c ih =>
    by_cases hc : c = '\n'
    · subst hc
      obtain ⟨after, hlines, hafter⟩ := ih
      have hdrop : dropEndWhile (· == '\n') (t ++ ['\n']) = dropEndWhile (· == '\n') t := by
        simp [dropEndWhile]
      refine ⟨after ++ [[]], ?_, ?_⟩
      · rw [hdrop, ← List.append_assoc, ← hlines]
        exact lines_append_lineFeed t []
      · exact List.forall_mem_append.mpr ⟨hafter, List.forall_mem_singleton.mpr rfl⟩
    · have hdrop : dropEndWhile (· == '\n') (t ++ [c]) = t ++ [c] := by
        simp [dropEndWhile, hc]
      rw [hdrop]
      exact ⟨[], (List.append_nil _).symm, by simp⟩

theorem lines_stripLineFeeds (t : Text) : ∃ before after,
    lines t = before ++ lines (stripLineFeeds t) ++ after ∧ ∀ l ∈ before ++ after, l = [] := by
  obtain ⟨before, hfront, hbefore⟩ := lines_dropWhile t
  obtain ⟨after, hend, hafter⟩ := lines_dropEndWhile (t.dropWhile (· == '\n'))
  refine ⟨before, after, ?_, List.forall_mem_append.mpr ⟨hbefore, hafter⟩⟩
  rw [hfront, hend, stripLineFeeds, List.append_assoc]

theorem stripLineFeeds_ends (t : Text) :
    (stripLineFeeds t).head? ≠ some '\n' ∧ (stripLineFeeds t).getLast? ≠ some '\n' := by
  have hfront (u : Text) : (u.dropWhile (· == '\n')).head? ≠ some '\n' := by
    intro hhead
    have hnot := List.head?_dropWhile_not (· == '\n') u
    rw [hhead] at hnot
    cases hnot
  have hbegins : stripLineFeeds t <+: t.dropWhile (· == '\n') := by
    rw [stripLineFeeds, dropEndWhile, ← List.reverse_suffix, List.reverse_reverse]
    exact List.dropWhile_suffix _
  constructor
  · intro hhead
    obtain ⟨rest, hrest⟩ := hbegins
    apply hfront t
    rw [← hrest, List.head?_append, hhead]
    rfl
  · rw [stripLineFeeds, dropEndWhile, List.getLast?_reverse]
    exact hfront _

/-- A text that neither begins nor ends with a line feed has no empty line on either side,
unless it is empty. -/
theorem ends_lines {t : Text} (hhead : t.head? ≠ some '\n') (hlast : t.getLast? ≠ some '\n') :
    lines t = [[]] ∨ (lines t).head? ≠ some [] ∧ (lines t).getLast? ≠ some [] := by
  by_cases hempty : t = []
  · subst hempty
    exact .inl rfl
  · right
    have hjoined := unlines_lines t
    constructor
    · intro hfirst
      obtain ⟨rest, hrest⟩ := List.head?_eq_some_iff.mp hfirst
      rw [hrest] at hjoined
      by_cases hnone : rest = []
      · subst hnone
        exact hempty hjoined.symm
      · rw [unlines_cons hnone] at hjoined
        exact hhead (by rw [← hjoined]; rfl)
    · intro hend
      obtain ⟨init, hinit⟩ := List.getLast?_eq_some_iff.mp hend
      rw [hinit] at hjoined
      by_cases hnone : init = []
      · subst hnone
        exact hempty hjoined.symm
      · rw [unlines_append hnone (List.cons_ne_nil [] [])] at hjoined
        apply hlast
        rw [← hjoined]
        exact List.getLast?_concat

/-! ## Passages -/

theorem isPassage_passage (t : Text) : IsPassage t (passage t) := by
  rw [passage]
  split
  · rename_i hfeed
    obtain ⟨before, after, hlines, hempty⟩ := lines_stripLineFeeds (dedent t)
    obtain ⟨hhead, hlast⟩ := stripLineFeeds_ends (dedent t)
    rw [lines_dedent, List.map_eq_append_iff] at hlines
    obtain ⟨front, behind, hcut, hfront, rfl⟩ := hlines
    obtain ⟨first, kept, rfl, rfl, hkept⟩ := List.map_eq_append_iff.mp hfront
    rw [List.forall_mem_append, List.forall_mem_map, List.forall_mem_map] at hempty
    have hmem : ∀ l ∈ first ++ kept ++ behind, l ∈ lines t := fun l hl => hcut ▸ hl
    simp only [List.forall_mem_append] at hmem
    obtain ⟨⟨hfirstMem, hkeptMem⟩, hbehindMem⟩ := hmem
    refine .several hfeed (isMargin_margin _) hcut ?_ ?_ (ends_lines hhead hlast)
    · refine List.forall_mem_append.mpr ⟨fun l hl => ?_, fun l hl => ?_⟩
      · exact hasContent_of_undent_eq_nil (hfirstMem l hl) (hempty.1 l hl)
      · exact hasContent_of_undent_eq_nil (hbehindMem l hl) (hempty.2 l hl)
    · rw [← hkept, List.forall₂_map_right_iff, List.forall₂_same]
      exact fun l hl => undented_undent (hkeptMem l hl)
  · rename_i hsingle
    exact .single hsingle

end CatchAll.Text
