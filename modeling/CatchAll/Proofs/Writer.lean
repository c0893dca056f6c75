import CatchAll.Proofs.Text.Lines
import CatchAll.Writer

/-!
# What a writer writes

Every text is written line by line. A passage without a margin of its own comes
out as it stands, at the level of the writer, with empty lines where nothing
shows.
-/

set_option autoImplicit false

namespace CatchAll.Writer

open scoped Text
open Text (passage keptLine)

theorem allBlank_of_not_hasContent {line : Text} (h : Text.hasContent line = false) :
    Text.allBlank line = true := by
  rw [Text.hasContent, Bool.not_eq_false', List.all_eq_true] at h
  rw [Text.allBlank, List.all_eq_true]
  intro c hc
  have hindent := h c hc
  simp only [Text.isIndent, Bool.or_eq_true, decide_eq_true_eq] at hindent
  rcases hindent with rfl | rfl <;> decide

@[simp] theorem codeLine_keptLine (w : Writer) (line : Text) :
    w.codeLine (keptLine line) = w.codeLine line := by
  rw [keptLine]
  split
  · rfl
  · rename_i h
    have hblank := allBlank_of_not_hasContent (eq_false_of_ne_true h)
    rw [codeLine, codeLine, hblank]
    rfl

theorem codeLine_of_shown {w : Writer} {line : Text} (h : Text.allBlank line = false) :
    w.codeLine line = w.indentation ++ line := by
  rw [codeLine, h]
  rfl

theorem shown_of_mem {c : Char} {line : Text} (h : c ∈ line) (hc : Text.isBlank c = false) :
    Text.allBlank line = false := by
  rw [Text.allBlank, List.all_eq_false]
  exact ⟨c, h, by simp [hc]⟩

theorem allBlank_append_of_shown {line : Text} (before : Text) (h : Text.allBlank line = false) :
    Text.allBlank (before ++ line) = false := by
  rw [Text.allBlank] at h ⊢
  rw [List.all_append, h, Bool.and_false]

@[simp] theorem indentation_append (w : Writer) (new : List Text) :
    (w.append new).indentation = w.indentation := rfl

theorem append_append (w : Writer) (a b : List Text) :
    (w.append a).append b = w.append (a ++ b) := by
  rw [append, append, append, List.append_assoc]

theorem lines_start_append (layout : Layout) {ls : List Text} (hne : ls ≠ [])
    (h : ∀ l ∈ ls, '\n' ∉ l) : Text.lines ((start layout).append ls).render = ls :=
  Text.lines_unlines ls hne h

/-- One line that shows something. -/
theorem write_line {w : Writer} {line : Text} (hsingle : '\n' ∉ line)
    (hshown : Text.allBlank line = false) : w.write line = w.append [w.indentation ++ line] := by
  rw [write, Text.passage_of_single hsingle, List.map_singleton, codeLine_of_shown hshown]

theorem foldl_write (lines : List Text) (h : ∀ l ∈ lines, '\n' ∉ l ∧ Text.allBlank l = false)
    (w : Writer) : lines.foldl write w = w.append (lines.map (w.indentation ++ ·)) := by
  induction lines generalizing w with
  | nil => rw [List.foldl_nil, List.map_nil, append, List.append_nil]
  | cons l lines ih =>
    obtain ⟨hsingle, hshown⟩ := h l (by simp)
    rw [List.foldl_cons, write_line hsingle hshown,
      ih (fun l' hl' => h l' (List.mem_cons_of_mem l hl')), append_append, indentation_append,
      List.map_cons, List.singleton_append]

/-- A header and the lines of its body, with nothing to close it. -/
theorem block_eq {w : Writer} {header : Text} {new : List Text} {body : Writer → Writer}
    (hsingle : '\n' ∉ header) (hshown : Text.allBlank header = false)
    (hbody : body (w.append [w.indentation ++ header]).enter =
      (w.append [w.indentation ++ header]).enter.append new) :
    w.block header none body = w.append ((w.indentation ++ header) :: new) := by
  rw [block, write_line hsingle hshown, indented, hbody, close]
  simp [append, enter]

/-- A passage that begins without a margin and ends in a line with content. -/
theorem write_of_head {w : Writer} {t first last : Text} {rest init : List Text} {c : Char}
    (hlines : Text.lines t = first :: rest) (h : first.head? = some c)
    (hc : Text.isIndent c = false) (hlast : Text.lines t = init ++ [last])
    (hcontent : Text.hasContent last = true) :
    w.write t = w.append ((Text.lines t).map w.codeLine) := by
  rw [write, Text.passage_of_head hlines h hc hlast hcontent, List.map_map]
  exact congrArg w.append (List.map_congr_left fun l _ => codeLine_keptLine w l)

/-- Such a passage below lines at the margin. -/
theorem lines_start_write (layout : Layout) {ls new init rest : List Text} {t first last : Text}
    {c : Char} (hls : ∀ l ∈ ls, '\n' ∉ l) (ht : Text.lines t = new) (hfirst : new = first :: rest)
    (h : first.head? = some c) (hc : Text.isIndent c = false) (hlast : new = init ++ [last])
    (hcontent : Text.hasContent last = true) :
    Text.lines (((start layout).append ls).write t).render =
      ls ++ new.map (start layout).codeLine := by
  have hcode : ∀ l ∈ new.map (start layout).codeLine, '\n' ∉ l := by
    rw [List.forall_mem_map, ← ht]
    intro l hl
    rw [codeLine]
    split
    · exact List.not_mem_nil
    · exact Text.lineFeed_not_mem_line hl
  rw [write_of_head (ht.trans hfirst) h hc (ht.trans hlast) hcontent, append_append, ht]
  exact lines_start_append layout (by simp [hfirst]) (List.forall_mem_append.mpr ⟨hls, hcode⟩)

/-- At the margin, lines that begin with what shows come out as they stand. -/
theorem write_shown {w : Writer} (hlevel : w.level = 0) {t : Text}
    (h : ∀ l ∈ Text.lines t, ∃ c, l.head? = some c ∧ Text.isBlank c = false) :
    w.write t = w.append (Text.lines t) := by
  have hindent : ∀ c, Text.isBlank c = false → Text.isIndent c = false := by
    intro c hc
    rw [Bool.eq_false_iff]
    intro hindent
    simp only [Text.isIndent, Bool.or_eq_true, decide_eq_true_eq] at hindent
    rcases hindent with rfl | rfl <;> exact absurd hc (by decide)
  have hmargin : w.indentation = [] := by
    rw [indentation, hlevel]
    rfl
  have hcode : ∀ l ∈ Text.lines t, w.codeLine l = l := by
    intro l hl
    obtain ⟨c, hc, hshown⟩ := h l hl
    rw [codeLine_of_shown (shown_of_mem (List.mem_of_head? hc) hshown), hmargin, List.nil_append]
  obtain ⟨first, rest, hfirst⟩ := List.exists_cons_of_ne_nil (Text.lines_ne_nil t)
  obtain ⟨c, hc, hshown⟩ := h first (hfirst ▸ List.mem_cons_self)
  have hlast := (List.dropLast_append_getLast (Text.lines_ne_nil t)).symm
  obtain ⟨x, hx, hend⟩ := h _ (List.getLast_mem (Text.lines_ne_nil t))
  rw [write_of_head hfirst hc (hindent c hshown) hlast
    (Text.hasContent_of_head hx (hindent x hend)), List.map_congr_left hcode, List.map_id']

/-! ## Below the margin -/

/-- An empty line, or one with a unit of indentation in front. -/
def Inside (unit line : Text) : Prop := (line = [] ∨ unit <+: line) ∧ '\n' ∉ line

/-- What one writer has more than another are lines below the margin. -/
structure Below (w v : Writer) : Prop where
  layout : v.layout = w.layout
  level : v.level = w.level
  lines : ∃ new, v.lines = w.lines ++ new ∧ ∀ l ∈ new, Inside w.layout.unit l

variable {w v u : Writer}

theorem Below.eq_append (h : Below w v) :
    ∃ new, v = w.append new ∧ ∀ l ∈ new, Inside w.layout.unit l := by
  obtain ⟨new, hnew, hinside⟩ := h.lines
  obtain ⟨layout, lines, level⟩ := v
  obtain rfl : layout = w.layout := h.layout
  obtain rfl : level = w.level := h.level
  obtain rfl : lines = w.lines ++ new := hnew
  exact ⟨new, rfl, hinside⟩

theorem Below.trans (h : Below w v) (h' : Below v u) : Below w u := by
  obtain ⟨new, hnew, hinside⟩ := h.lines
  obtain ⟨more, hmore, hinside'⟩ := h'.lines
  rw [h.layout] at hinside'
  refine ⟨h'.layout.trans h.layout, h'.level.trans h.level, new ++ more, ?_,
    List.forall_mem_append.mpr ⟨hinside, hinside'⟩⟩
  rw [hmore, hnew, List.append_assoc]

theorem lineFeed_not_mem_indentation (hunit : '\n' ∉ w.layout.unit) : '\n' ∉ w.indentation := by
  intro hmem
  obtain ⟨unit, hcopy, hmem⟩ := List.mem_flatten.mp hmem
  exact hunit (List.eq_of_mem_replicate hcopy ▸ hmem)

theorem inside_codeLine (hlevel : w.level ≠ 0) (hunit : '\n' ∉ w.layout.unit) {line : Text}
    (hline : '\n' ∉ line) : Inside w.layout.unit (w.codeLine line) := by
  rw [codeLine]
  split
  · exact ⟨.inl rfl, List.not_mem_nil⟩
  · obtain ⟨n, hn⟩ := Nat.exists_eq_succ_of_ne_zero hlevel
    have hfeed := lineFeed_not_mem_indentation hunit
    refine ⟨.inr ?_, by simp [hfeed, hline]⟩
    rw [indentation, hn, List.replicate_succ, List.flatten_cons, List.append_assoc]
    exact List.prefix_append _ _

theorem below_write (hlevel : w.level ≠ 0) (hunit : '\n' ∉ w.layout.unit) (t : Text) :
    Below w (w.write t) :=
  ⟨rfl, rfl, _, rfl, List.forall_mem_map.mpr fun _ hl =>
    inside_codeLine hlevel hunit (Text.lineFeed_not_mem_passage hl)⟩

theorem below_blank (w : Writer) : Below w w.blank :=
  ⟨rfl, rfl, _, rfl, List.forall_mem_singleton.mpr ⟨.inl rfl, List.not_mem_nil⟩⟩

/-- What is indented is below the margin. -/
theorem below_indented {body : Writer → Writer} (h : Below w.enter (body w.enter)) :
    Below w (w.indented body) :=
  ⟨h.layout, rfl, h.lines⟩

theorem below_block (hlevel : w.level ≠ 0) (hunit : '\n' ∉ w.layout.unit) (header : Text)
    (closer : Option Text) {body : Writer → Writer}
    (h : ∀ v : Writer, v.layout = w.layout → v.level ≠ 0 → Below v (body v)) :
    Below w (w.block header closer body) := by
  have hopened := (below_write hlevel hunit header).trans
    (below_indented (h (w.write header).enter rfl (Nat.succ_ne_zero _)))
  cases closer with
  | none => exact hopened
  | some closer =>
    refine hopened.trans (below_write ?_ ?_ closer)
    · rwa [hopened.level]
    · rwa [hopened.layout]

/-- At the margin a block is a header and a closer with lines below the margin in between. -/
theorem block_shown (hlevel : w.level = 0) {header closer : Text}
    (hheader : '\n' ∉ header ∧ Text.allBlank header = false)
    (hcloser : '\n' ∉ closer ∧ Text.allBlank closer = false) (body : Writer → Writer)
    (h : ∀ v : Writer, v.layout = w.layout → v.level ≠ 0 → Below v (body v)) :
    ∃ inside, w.block header (some closer) body = w.append (header :: (inside ++ [closer])) ∧
      ∀ l ∈ inside, Inside w.layout.unit l := by
  have hwritten {line : Text} {v : Writer} (hv : v.level = 0)
      (hline : '\n' ∉ line ∧ Text.allBlank line = false) : v.write line = v.append [line] := by
    rw [write_line hline.1 hline.2, indentation, hv]
    rfl
  have hbelow := below_indented (w := w.append [header])
    (h (w.append [header]).enter rfl (Nat.succ_ne_zero _))
  obtain ⟨inside, hbody, hinside⟩ := hbelow.eq_append
  refine ⟨inside, ?_, hinside⟩
  rw [block, hwritten hlevel hheader, hbody, append_append, close,
    hwritten (v := w.append _) hlevel hcloser, append_append, List.append_assoc,
    List.singleton_append]

end CatchAll.Writer
