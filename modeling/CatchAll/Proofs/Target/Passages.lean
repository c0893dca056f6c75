import CatchAll.Proofs.Text.Passage
import CatchAll.Proofs.Writer
import CatchAll.Target.Emission
import CatchAll.Target.Placeholder

/-!
# Passages with a margin

A passage that is written with the margin of the code around it stands for its own
lines: a writer takes away the margin and the line feeds before and after.
-/

set_option autoImplicit false

namespace CatchAll.Target

open scoped Text
open Text (margin hasContent indentOf keptLine dedentLines isIndent)

variable {width : Nat} {first last : Text} {rest init : List Text} {c : Char}

theorem isIndent_margin : ∀ c ∈ List.replicate width ' ', isIndent c = true :=
  fun _ hc => List.eq_of_mem_replicate hc ▸ rfl

theorem lines_withMargin {ls : List Text} (h : ∀ l ∈ ls, '\n' ∉ l) :
    Text.lines (withMargin width ls) = [] :: (ls ++ [[]]).map (List.replicate width ' ' ++ ·) := by
  have hmargin : '\n' ∉ List.replicate width ' ' :=
    fun hmem => absurd (List.eq_of_mem_replicate hmem) (by decide)
  have htail : Text.lines ((ls.flatMap fun line => List.replicate width ' ' ++ line ++ ['\n']) ++
      List.replicate width ' ') = (ls ++ [[]]).map (List.replicate width ' ' ++ ·) := by
    induction ls with
    | nil =>
      rw [List.nil_append, List.map_singleton, List.append_nil]
      exact Text.lines_of_single hmargin
    | cons l ls ih =>
      obtain ⟨hl, hls⟩ := List.forall_mem_cons.mp h
      have hline : '\n' ∉ List.replicate width ' ' ++ l := by
        rw [List.mem_append, not_or]
        exact ⟨hmargin, hl⟩
      rw [List.flatMap_cons, List.append_assoc, List.append_assoc, List.singleton_append,
        Text.lines_append_lineFeed, Text.lines_of_single hline, ih hls]
      rfl
  rw [withMargin, List.cons_append]
  exact (Text.lines_append_lineFeed [] _).trans (congrArg ([] :: ·) htail)

theorem hasContent_margin (line : Text) :
    hasContent (List.replicate width ' ' ++ line) = hasContent line := by
  have hall : (List.replicate width ' ').all isIndent = true :=
    List.all_eq_true.mpr isIndent_margin
  rw [hasContent, hasContent, List.all_append, hall, Bool.true_and]

/-- The margin of the first line is that of all lines, if it has none of its own. -/
theorem margin_withMargin (h : first.head? = some c) (hc : isIndent c = false) :
    margin ([] :: (first :: rest).map (List.replicate width ' ' ++ ·)) =
      List.replicate width ' ' := by
  have hindent : indentOf (List.replicate width ' ' ++ first) = List.replicate width ' ' := by
    obtain ⟨tail, rfl⟩ := List.head?_eq_some_iff.mp h
    rw [indentOf, List.takeWhile_append_of_pos isIndent_margin,
      List.takeWhile_cons_of_neg (by simp [hc]), List.append_nil]
  have hcontent : hasContent (List.replicate width ' ' ++ first) = true := by
    rw [hasContent_margin]
    exact Text.hasContent_of_head h hc
  have hmem : List.replicate width ' ' ++ first ∈
      [] :: (first :: rest).map (List.replicate width ' ' ++ ·) := by simp
  -- what all lines begin with is in the indentation of the first line, which is the margin
  have hcommon (p : Text) : p <+: margin ([] :: (first :: rest).map (List.replicate width ' ' ++ ·)) ↔
      p <+: List.replicate width ' ' := by
    rw [Text.isMargin_margin _ ⟨_, hmem, hcontent⟩ p]
    constructor
    · rintro ⟨hp, hall⟩
      rw [← hindent, Text.prefix_indentOf_iff]
      exact ⟨hp, hall _ hmem hcontent⟩
    · intro hp
      refine ⟨fun c hc => isIndent_margin c (hp.subset hc), fun l hl hcontent => ?_⟩
      rcases List.mem_cons.mp hl with rfl | hl
      · cases hcontent
      · obtain ⟨line, -, rfl⟩ := List.mem_map.mp hl
        exact hp.trans (List.prefix_append _ line)
  exact ((hcommon _).mp List.prefix_rfl).eq_of_length_le
    ((hcommon _).mpr List.prefix_rfl).length_le

theorem dedent_withMargin (hsingle : ∀ l ∈ first :: rest, '\n' ∉ l) (h : first.head? = some c)
    (hc : isIndent c = false) :
    Text.dedent (withMargin width (first :: rest)) =
      Text.unlines ([] :: ((first :: rest).map keptLine ++ [[]])) := by
  have hkept (line : Text) : (if hasContent (List.replicate width ' ' ++ line) then
      (List.replicate width ' ' ++ line).drop (List.replicate width ' ').length else []) =
      keptLine line := by
    rw [hasContent_margin, List.drop_left, keptLine]
  have hlines : dedentLines (Text.lines (withMargin width (first :: rest))) =
      [] :: ((first :: rest) ++ [[]]).map keptLine := by
    rw [lines_withMargin hsingle, dedentLines, List.cons_append, margin_withMargin h hc,
      List.map_cons, List.map_map]
    exact congrArg ([] :: ·) (List.map_congr_left fun line _ => hkept line)
  rw [Text.dedent, hlines, List.map_append]
  rfl

theorem stripLineFeeds_around {t : Text} (hne : t ≠ []) (hhead : t.head? ≠ some '\n')
    (hend : t.getLast? ≠ some '\n') : Text.stripLineFeeds ('\n' :: (t ++ ['\n'])) = t := by
  obtain ⟨c, t, rfl⟩ := List.exists_cons_of_ne_nil hne
  have hc : (c == '\n') = false := by simpa using hhead
  have hstart : ('\n' :: (c :: t ++ ['\n'])).dropWhile (· == '\n') = c :: t ++ ['\n'] := by
    rw [List.dropWhile_cons_of_pos (by decide), List.cons_append,
      List.dropWhile_cons_of_neg (by simp [hc])]
  have hsame := Text.stripLineFeeds_eq hhead hend
  rw [Text.stripLineFeeds, List.dropWhile_cons_of_neg (by simp [hc])] at hsame
  rw [Text.stripLineFeeds, hstart, Text.dropEndWhile, List.reverse_append, List.reverse_singleton,
    List.singleton_append, List.dropWhile_cons_of_pos (by decide)]
  exact hsame

/-- A passage whose first line begins without a margin of its own and whose last line has
content stands for its lines. -/
theorem passage_withMargin (hsingle : ∀ l ∈ first :: rest, '\n' ∉ l) (h : first.head? = some c)
    (hc : isIndent c = false) (hlast : first :: rest = init ++ [last])
    (hcontent : hasContent last = true) :
    Text.passage (withMargin width (first :: rest)) = (first :: rest).map keptLine := by
  have hfeed : ∀ l ∈ (first :: rest).map keptLine, '\n' ∉ l := by
    intro l hl
    obtain ⟨line, hline, rfl⟩ := List.mem_map.mp hl
    exact Text.lineFeed_not_mem_keptLine (hsingle line hline)
  have hfirst : (Text.unlines ((first :: rest).map keptLine)).head? = some c := by
    rw [List.map_cons, Text.keptLine_of_content (Text.hasContent_of_head h hc),
      Text.head?_unlines (Text.ne_nil_of_content (Text.hasContent_of_head h hc)), h]
  have hhead : (Text.unlines ((first :: rest).map keptLine)).head? ≠ some '\n' := by
    rw [hfirst, ← h]
    exact fun hh => hsingle first List.mem_cons_self (List.mem_of_head? hh)
  have hend : (Text.unlines ((first :: rest).map keptLine)).getLast? ≠ some '\n' := by
    rw [hlast, List.map_append, List.map_singleton, Text.keptLine_of_content hcontent,
      Text.getLast?_unlines (Text.ne_nil_of_content hcontent)]
    exact fun hh => hsingle last (by simp [hlast]) (List.mem_of_getLast? hh)
  have hfeedAround : '\n' ∈ withMargin width (first :: rest) := List.mem_cons_self
  have hstripped : Text.stripLineFeeds (Text.dedent (withMargin width (first :: rest))) =
      Text.unlines ((first :: rest).map keptLine) := by
    rw [dedent_withMargin hsingle h hc, Text.unlines_cons (by simp),
      Text.unlines_append (by simp) (by simp)]
    refine stripLineFeeds_around (fun hnil => ?_) hhead hend
    rw [hnil] at hfirst
    cases hfirst
  rw [Text.passage, if_pos hfeedAround, hstripped, Text.lines_unlines _ (by simp) hfeed]

/-- A line that begins with what shows. -/
def beginsShown (line : Text) : Bool := line.head?.any fun c => !isIndent c

theorem hasContent_of_beginsShown {line : Text} (h : beginsShown line = true) :
    hasContent line = true := by
  obtain ⟨c, hc, hshown⟩ := Option.any_eq_true _ _ |>.mp h
  exact Text.hasContent_of_head hc (by simpa using hshown)

/-- Lines without a margin of their own are written as they are. -/
theorem passage_of_beginsShown {ls : List Text} (hne : ls ≠ [])
    (h : ∀ l ∈ ls, '\n' ∉ l ∧ beginsShown l = true) : Text.passage (withMargin width ls) = ls := by
  obtain ⟨first, rest, rfl⟩ := List.exists_cons_of_ne_nil hne
  obtain ⟨c, hc, hshown⟩ := Option.any_eq_true _ _ |>.mp (h first List.mem_cons_self).2
  have hlast := (List.dropLast_append_getLast hne).symm
  have hend := hasContent_of_beginsShown (h _ (List.getLast_mem hne)).2
  rw [passage_withMargin (fun l hl => (h l hl).1) hc (by simpa using hshown) hlast hend]
  exact List.map_congr_left (g := id) (fun l hl =>
    Text.keptLine_of_content (hasContent_of_beginsShown (h l hl).2)) |>.trans (List.map_id _)

/-! ## Passages of the documentation -/

/-- A line that begins with what shows, though not as the title of an example does. -/
def isPlainLine (line : Text) : Bool :=
  (line.head?.any fun c => !isIndent c && c ≠ 'H') && line.all (· ≠ '\n')

theorem isPlainLine_append {t u : Text} (h : isPlainLine t = true) (hu : '\n' ∉ u) :
    isPlainLine (t ++ u) = true := by
  rw [isPlainLine, Bool.and_eq_true] at h ⊢
  obtain ⟨hhead, hfeed⟩ := h
  constructor
  · cases t with
    | nil => cases hhead
    | cons c t => exact hhead
  · rw [List.all_append, hfeed, Bool.true_and, List.all_eq_true]
    exact fun c hc => decide_eq_true fun heq => hu (heq ▸ hc)

theorem isPlainLine_spec {line : Text} (h : isPlainLine line = true) :
    '\n' ∉ line ∧ beginsShown line = true := by
  rw [isPlainLine, Bool.and_eq_true, List.all_eq_true] at h
  constructor
  · exact fun hmem => of_decide_eq_true (h.2 _ hmem) rfl
  · cases line with
    | nil => exact h.1
    | cons c line => exact (Bool.and_eq_true_iff.mp h.1).1

theorem passage_of_isPlainLine {width : Nat} {ls : List Text} (hne : ls ≠ [])
    (h : ∀ l ∈ ls, isPlainLine l = true) : Text.passage (withMargin width ls) = ls :=
  passage_of_beginsShown hne fun l hl => isPlainLine_spec (h l hl)

theorem note_lines {typeName artifact : Text} (hT : '\n' ∉ typeName) (hartifact : '\n' ∉ artifact) :
    ∀ l ∈ Text.passage (forwardNote typeName artifact), isPlainLine l = true := by
  obtain ⟨ls, htext, hne, hplain⟩ : ∃ ls, forwardNote typeName artifact = withMargin 8 ls ∧
      ls ≠ [] ∧ ∀ l ∈ ls, isPlainLine l = true := by
    refine ⟨_, rfl, List.cons_ne_nil _ _, ?_⟩
    have haround {t u v : Text} (ht : isPlainLine t = true) (hu : '\n' ∉ u) (hv : '\n' ∉ v) :
        isPlainLine (t ++ u ++ v) = true := isPlainLine_append (isPlainLine_append ht hu) hv
    simp only [List.forall_mem_cons]
    exact ⟨haround (by decide +kernel) hT (by decide +kernel), by decide +kernel,
      by decide +kernel, haround (by decide +kernel) hartifact (by decide +kernel),
      haround (by decide) hartifact (by decide +kernel), by decide, List.forall_mem_nil _⟩
  rw [htext, passage_of_isPlainLine hne hplain]
  exact hplain

theorem caution_lines :
    ∀ l ∈ Text.passage (catchAllCaution catchAllName wrapperName), isPlainLine l = true := by
  obtain ⟨ls, htext, hne, hplain⟩ : ∃ ls,
      catchAllCaution catchAllName wrapperName = withMargin 8 ls ∧ ls ≠ [] ∧
      ∀ l ∈ ls, isPlainLine l = true := by
    refine ⟨_, rfl, List.cons_ne_nil _ _, ?_⟩
    decide +kernel
  rw [htext, passage_of_isPlainLine hne hplain]
  exact hplain

end CatchAll.Target
