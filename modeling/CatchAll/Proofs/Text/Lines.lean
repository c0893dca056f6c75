import CatchAll.Text.Dedent
import Mathlib.Data.List.Basic

/-!
# Lines and what joins them

Cutting a text is the library's split, so lines and their join are inverse to
each other as long as no line holds a line feed. A passage whose first line has
no margin stands for its own lines.
-/

set_option autoImplicit false

namespace CatchAll.Text

theorem cut_eq_splitOnP (p : Char → Bool) (t : Text) : cut p t = t.splitOnP p := by
  induction t with
  | nil => rfl
  | cons c t ih =>
    rw [List.splitOnP_cons_eq_if_modifyHead, ← ih]
    by_cases h : p c = true
    · rw [cut_cons_of_pos p c t h, if_pos h]
    · obtain ⟨piece, pieces, hp⟩ := List.exists_cons_of_ne_nil
        (show cut p t ≠ [] by rw [ih]; exact List.splitOnP_ne_nil p t)
      rw [if_neg h, hp, List.modifyHead_cons]
      rw [cut] at hp ⊢
      rw [List.foldr_cons, if_neg h, hp]
      rfl

theorem flatten_cut (p : Char → Bool) (t : Text) :
    (cut p t).flatten = t.filter fun c => !p c := by
  rw [cut_eq_splitOnP]
  induction t with
  | nil => rfl
  | cons c t ih =>
    rw [List.splitOnP_cons_eq_if_modifyHead]
    by_cases h : p c = true
    · simp [h, ih]
    · obtain ⟨piece, pieces, hp⟩ := List.exists_cons_of_ne_nil (List.splitOnP_ne_nil p t)
      rw [hp] at ih
      simp only [List.flatten_cons] at ih
      simp [h, hp, ih]

theorem lines_eq_splitOn (t : Text) : lines t = t.splitOn '\n' := by
  rw [lines, cut_eq_splitOnP, List.splitOn_eq_splitOnP]

@[simp] theorem unlines_lines (t : Text) : unlines (lines t) = t := by
  rw [lines_eq_splitOn, unlines, joinWith, List.intercalate_splitOn]

/-- Pieces are found again between the marks that join them. -/
theorem cut_joinWith {c : Char} {pieces : List Text} (hne : pieces ≠ [])
    (h : ∀ piece ∈ pieces, c ∉ piece) : cut (· == c) (joinWith [c] pieces) = pieces := by
  rw [cut_eq_splitOnP, ← List.splitOn_eq_splitOnP]
  exact List.splitOn_intercalate c h hne

theorem lines_unlines (ls : List Text) (hne : ls ≠ []) (h : ∀ l ∈ ls, '\n' ∉ l) :
    lines (unlines ls) = ls :=
  cut_joinWith hne h

theorem joinWith_cons_cons (separator a b : Text) (rest : List Text) :
    joinWith separator (a :: b :: rest) =
      a ++ separator ++ joinWith separator (b :: rest) := by
  simp [joinWith, List.intercalate_cons_cons]

theorem lineFeed_not_mem_joinWith {separator : Text} (hseparator : '\n' ∉ separator)
    {pieces : List Text} (h : ∀ piece ∈ pieces, '\n' ∉ piece) :
    '\n' ∉ joinWith separator pieces := by
  induction pieces with
  | nil => simp [joinWith]
  | cons a pieces ih =>
    obtain ⟨ha, hpieces⟩ := List.forall_mem_cons.mp h
    cases pieces with
    | nil => simpa [joinWith] using ha
    | cons b rest =>
      rw [joinWith_cons_cons, List.mem_append, List.mem_append, not_or, not_or]
      exact ⟨⟨ha, hseparator⟩, ih hpieces⟩

theorem lines_of_single {t : Text} (h : '\n' ∉ t) : lines t = [t] := by
  rw [lines_eq_splitOn, List.splitOn_eq_singleton h]

theorem lines_append_lineFeed (t u : Text) : lines (t ++ '\n' :: u) = lines t ++ lines u := by
  simp only [lines_eq_splitOn, List.splitOn_append_cons_self]

theorem lines_paragraph (t u : Text) :
    lines (t ++ ("\n\n".toList ++ u)) = lines t ++ [] :: lines u := by
  have hempty : lines ('\n' :: u) = [] :: lines u := lines_append_lineFeed [] u
  exact (lines_append_lineFeed t ('\n' :: u)).trans (congrArg (lines t ++ ·) hempty)

theorem lineFeed_not_mem_line {t l : Text} (h : l ∈ lines t) : '\n' ∉ l := by
  intro hfeed
  have hmem : '\n' ∈ (lines t).flatten := List.mem_flatten.mpr ⟨l, h, hfeed⟩
  rw [lines, flatten_cut, List.mem_filter] at hmem
  exact absurd hmem.2 (by decide)

theorem lineFeed_not_mem_word {t w : Text} (h : w ∈ words t) : '\n' ∉ w := by
  intro hfeed
  have hmem : '\n' ∈ (cut isBlank t).flatten :=
    List.mem_flatten.mpr ⟨w, (List.mem_filter.mp h).1, hfeed⟩
  rw [flatten_cut, List.mem_filter] at hmem
  exact absurd hmem.2 (by decide)

theorem mem_of_mem_strip {t : Text} {c : Char} (h : c ∈ strip t) : c ∈ t := by
  rw [strip, stripEnd, dropEndWhile, List.mem_reverse] at h
  exact (List.dropWhile_sublist _).subset (List.mem_reverse.mp ((List.dropWhile_sublist _).subset h))

theorem lines_ne_nil (t : Text) : lines t ≠ [] := by
  rw [lines, cut_eq_splitOnP]
  exact List.splitOnP_ne_nil _ t

theorem unlines_cons {l : Text} {rest : List Text} (h : rest ≠ []) :
    unlines (l :: rest) = l ++ '\n' :: unlines rest := by
  obtain ⟨l', rest, rfl⟩ := List.exists_cons_of_ne_nil h
  rw [unlines, joinWith_cons_cons, List.append_assoc]
  rfl

theorem unlines_append {a b : List Text} (ha : a ≠ []) (hb : b ≠ []) :
    unlines (a ++ b) = unlines a ++ '\n' :: unlines b := by
  induction a with
  | nil => exact absurd rfl ha
  | cons l a ih =>
    by_cases h : a = []
    · subst h
      rw [List.singleton_append, unlines_cons hb]
      simp [unlines, joinWith]
    · rw [List.cons_append, unlines_cons (List.append_ne_nil_of_right_ne_nil a hb),
        unlines_cons h, ih h, List.append_assoc, List.cons_append]

/-- A text without a line feed goes into the first line of what follows. -/
theorem lines_append_left {t : Text} (h : '\n' ∉ t) (u : Text) :
    ∃ first rest, lines u = first :: rest ∧ lines (t ++ u) = (t ++ first) :: rest := by
  obtain ⟨first, rest, hu⟩ := List.exists_cons_of_ne_nil (lines_ne_nil u)
  refine ⟨first, rest, hu, ?_⟩
  have hfeed : ∀ l ∈ first :: rest, '\n' ∉ l := fun l hl => lineFeed_not_mem_line (hu ▸ hl)
  have hjoin : t ++ u = unlines ((t ++ first) :: rest) := by
    rw [← unlines_lines u, hu]
    cases rest with
    | nil => simp [unlines, joinWith]
    | cons l rest =>
      have hrest := List.cons_ne_nil l rest
      rw [unlines_cons hrest, unlines_cons hrest, List.append_assoc]
  rw [hjoin, lines_unlines _ (by simp)]
  intro l hl
  rcases List.mem_cons.mp hl with rfl | hl
  · simp [h, hfeed first (by simp)]
  · exact hfeed l (List.mem_cons_of_mem first hl)

/-- The first line of a text goes into the last line of what is before it. -/
theorem lines_append (t : Text) : ∃ init last, lines t = init ++ [last] ∧
    ∀ u first rest, lines u = first :: rest → lines (t ++ u) = init ++ (last ++ first) :: rest := by
  obtain ⟨init, last, hlast⟩ : ∃ init last, lines t = init ++ [last] :=
    ⟨_, _, (List.dropLast_append_getLast (lines_ne_nil t)).symm⟩
  refine ⟨init, last, hlast, fun u first rest hu => ?_⟩
  have hfeed : '\n' ∉ last := lineFeed_not_mem_line (t := t) (by simp [hlast])
  have hend : lines (last ++ u) = (last ++ first) :: rest := by
    obtain ⟨first', rest', hu', happend⟩ := lines_append_left hfeed u
    obtain ⟨rfl, rfl⟩ := List.cons.inj (hu.symm.trans hu')
    exact happend
  by_cases hinit : init = []
  · subst hinit
    rw [← unlines_lines t, hlast]
    simpa [unlines, joinWith] using hend
  · have hinitFeed : ∀ l ∈ init, '\n' ∉ l :=
      fun l hl => lineFeed_not_mem_line (t := t) (by simp [hlast, hl])
    rw [← unlines_lines t, hlast, unlines_append hinit (by simp), List.append_assoc,
      List.cons_append, lines_append_lineFeed, lines_unlines init hinit hinitFeed]
    simpa [unlines, joinWith] using hend

theorem unlines_concat_append (init : List Text) (last t : Text) :
    unlines (init ++ [last ++ t]) = unlines (init ++ [last]) ++ t := by
  by_cases hinit : init = []
  · simp [hinit, unlines, joinWith]
  · rw [unlines_append hinit (by simp), unlines_append hinit (by simp)]
    simp [unlines, joinWith]

/-- A text without a line feed goes into the last line of what is before it. -/
theorem lines_append_right (t : Text) {u : Text} (h : '\n' ∉ u) :
    ∃ init last, lines t = init ++ [last] ∧ lines (t ++ u) = init ++ [last ++ u] := by
  have hlast := List.dropLast_append_getLast (lines_ne_nil t)
  refine ⟨(lines t).dropLast, (lines t).getLast (lines_ne_nil t), hlast.symm, ?_⟩
  generalize (lines t).dropLast = init at hlast ⊢
  generalize (lines t).getLast (lines_ne_nil t) = last at hlast ⊢
  have hfeed : ∀ l ∈ init ++ [last], '\n' ∉ l := fun l hl => lineFeed_not_mem_line (hlast ▸ hl)
  have hjoin : t ++ u = unlines (init ++ [last ++ u]) := by
    rw [unlines_concat_append, hlast, unlines_lines]
  rw [hjoin, lines_unlines _ (by simp)]
  intro l hl
  rcases List.mem_append.mp hl with hl | hl
  · exact hfeed l (List.mem_append_left _ hl)
  · rw [List.mem_singleton.mp hl, List.mem_append, not_or]
    exact ⟨hfeed last (by simp), h⟩

/-! ## Passages -/

/-- A line as a passage keeps it: one of spaces and tabs alone is empty. -/
def keptLine (line : Text) : Text := if hasContent line then line else []

theorem hasContent_of_head {c : Char} {line : Text} (h : line.head? = some c)
    (hc : isIndent c = false) : hasContent line = true := by
  cases line with
  | nil => cases h
  | cons d line =>
    obtain rfl : d = c := Option.some.inj h
    simp [hasContent, hc]

theorem passage_ne_nil (t : Text) : passage t ≠ [] := by
  rw [passage]
  split
  · exact lines_ne_nil _
  · simp

theorem lineFeed_not_mem_passage {t l : Text} (h : l ∈ passage t) : '\n' ∉ l := by
  rw [passage] at h
  split at h
  · exact lineFeed_not_mem_line h
  · rename_i hsingle
    rwa [List.mem_singleton.mp h]

theorem foldl_commonStart (rest : List Text) : rest.foldl commonStart [] = [] := by
  induction rest with
  | nil => rfl
  | cons t rest ih => exact ih

/-- Lines that begin without a margin keep what they have. -/
theorem dedentLines_of_head {first : Text} {rest : List Text} {c : Char}
    (h : first.head? = some c) (hc : isIndent c = false) :
    dedentLines (first :: rest) = (first :: rest).map keptLine := by
  have hindent : indentOf first = [] := by
    cases first with
    | nil => cases h
    | cons d first =>
      obtain rfl : d = c := Option.some.inj h
      simp [indentOf, hc]
  have hmargin : margin (first :: rest) = [] := by
    rw [margin, List.filter_cons_of_pos (hasContent_of_head h hc), List.map_cons, hindent]
    exact foldl_commonStart _
  rw [dedentLines, hmargin]
  rfl

theorem stripLineFeeds_eq {t : Text} (hhead : t.head? ≠ some '\n')
    (hlast : t.getLast? ≠ some '\n') : stripLineFeeds t = t := by
  have hstart : t.dropWhile (· == '\n') = t := by
    cases t with
    | nil => rfl
    | cons c t =>
      rw [List.dropWhile_cons_of_neg]
      simpa using hhead
  rw [stripLineFeeds, hstart, dropEndWhile]
  have hend : t.reverse.dropWhile (· == '\n') = t.reverse := by
    rw [← List.head?_reverse] at hlast
    cases hrev : t.reverse with
    | nil => rfl
    | cons c t' =>
      rw [hrev] at hlast
      rw [List.dropWhile_cons_of_neg]
      simpa using hlast
  rw [hend, List.reverse_reverse]

theorem head?_unlines {first : Text} {rest : List Text} (h : first ≠ []) :
    (unlines (first :: rest)).head? = first.head? := by
  cases rest with
  | nil => simp [unlines, joinWith]
  | cons l rest => rw [unlines_cons (by simp), List.head?_append_of_ne_nil _ h]

theorem getLast?_unlines {init : List Text} {last : Text} (h : last ≠ []) :
    (unlines (init ++ [last])).getLast? = last.getLast? := by
  have hsingle : unlines [last] = last := by simp [unlines, joinWith]
  by_cases hinit : init = []
  · rw [hinit, List.nil_append, hsingle]
  · rw [unlines_append hinit (by simp), hsingle, List.append_cons,
      List.getLast?_append_of_ne_nil _ h]

theorem keptLine_of_content {line : Text} (h : hasContent line = true) : keptLine line = line := by
  rw [keptLine, if_pos h]

theorem lineFeed_not_mem_keptLine {line : Text} (h : '\n' ∉ line) : '\n' ∉ keptLine line := by
  rw [keptLine]
  split
  · exact h
  · simp

theorem ne_nil_of_content {line : Text} (h : hasContent line = true) : line ≠ [] := by
  rintro rfl
  cases h

/-- A passage whose first line has no margin and whose last line has content stands for
its own lines. -/
theorem passage_of_head {t first last : Text} {rest init : List Text} {c : Char}
    (hlines : lines t = first :: rest) (h : first.head? = some c) (hc : isIndent c = false)
    (hlast : lines t = init ++ [last]) (hcontent : hasContent last = true) :
    passage t = (lines t).map keptLine := by
  have hfirst := hasContent_of_head h hc
  have hfeed : ∀ l ∈ lines t, '\n' ∉ l := fun l hl => lineFeed_not_mem_line hl
  rw [passage]
  split
  · have hdedent : dedent t = unlines ((lines t).map keptLine) := by
      rw [dedent, hlines, dedentLines_of_head h hc]
    have hhead : (dedent t).head? ≠ some '\n' := by
      rw [hdedent, hlines, List.map_cons, keptLine_of_content hfirst,
        head?_unlines (ne_nil_of_content hfirst)]
      exact fun hh => hfeed first (by simp [hlines]) (List.mem_of_head? hh)
    have hend : (dedent t).getLast? ≠ some '\n' := by
      rw [hdedent, hlast, List.map_append, List.map_singleton, keptLine_of_content hcontent,
        getLast?_unlines (ne_nil_of_content hcontent)]
      exact fun hh => hfeed last (by simp [hlast]) (List.mem_of_getLast? hh)
    rw [stripLineFeeds_eq hhead hend, hdedent, lines_unlines]
    · simp [lines_ne_nil]
    · intro l hl
      obtain ⟨l', hl', rfl⟩ := List.mem_map.mp hl
      exact lineFeed_not_mem_keptLine (hfeed l' hl')
  · rename_i hsingle
    rw [lines_of_single hsingle] at hlines ⊢
    obtain ⟨rfl, -⟩ := List.cons.inj hlines
    rw [List.map_singleton, keptLine_of_content hfirst]

end CatchAll.Text
