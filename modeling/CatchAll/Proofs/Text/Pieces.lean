import CatchAll.Proofs.Text.Lines

/-!
# Pieces that are not empty

Cutting a text and leaving out the empty pieces goes character by character: one that
cuts adds nothing, and any other begins a piece or goes in front of the first one.
-/

set_option autoImplicit false

namespace CatchAll.Text

variable {p q : Char → Bool} {c : Char} {t : Text}

/-- The pieces of a text between runs of characters that satisfy `p`. -/
def pieces (p : Char → Bool) (t : Text) : List Text := (cut p t).filter (· ≠ [])

theorem cut_ne_nil (p : Char → Bool) (t : Text) : cut p t ≠ [] := by
  rw [cut_eq_splitOnP]
  exact List.splitOnP_ne_nil p t

theorem cut_cons_of_neg (h : p c = false) (t : Text) :
    cut p (c :: t) = (cut p t).modifyHead (c :: ·) := by
  rw [cut_eq_splitOnP, cut_eq_splitOnP, List.splitOnP_cons_eq_if_modifyHead,
    if_neg (Bool.eq_false_iff.mp h)]

theorem cut_map {f : Char → Char} (h : ∀ c ∈ t, p (f c) = q c) :
    cut p (t.map f) = (cut q t).map (List.map f) := by
  induction t with
  | nil => rfl
  | cons c t ih =>
    obtain ⟨hc, ht⟩ := List.forall_mem_cons.mp h
    rw [List.map_cons]
    by_cases hq : q c = true
    · rw [cut_cons_of_pos p _ _ (hc.trans hq), cut_cons_of_pos q _ _ hq, ih ht]
      rfl
    · rw [Bool.not_eq_true] at hq
      rw [cut_cons_of_neg (hc.trans hq), cut_cons_of_neg hq, ih ht]
      cases cut q t <;> rfl

theorem pieces_map {f : Char → Char} (h : ∀ c ∈ t, p (f c) = q c) :
    pieces p (t.map f) = (pieces q t).map (List.map f) := by
  rw [pieces, pieces, cut_map h, List.filter_map]
  congr 1
  exact List.filter_congr fun w _ => by simp

theorem not_of_mem_piece {w : Text} (hw : w ∈ pieces p t) : ∀ c ∈ w, p c = false := by
  intro c hc
  have hmem : c ∈ (cut p t).flatten := List.mem_flatten.mpr ⟨w, (List.mem_filter.mp hw).1, hc⟩
  rw [flatten_cut, List.mem_filter] at hmem
  simpa using hmem.2

theorem ne_nil_of_mem_pieces {w : Text} (hw : w ∈ pieces p t) : w ≠ [] := by
  simpa using (List.mem_filter.mp hw).2

theorem pieces_cons_of_pos (h : p c = true) (t : Text) : pieces p (c :: t) = pieces p t := by
  rw [pieces, cut_cons_of_pos p c t h]
  rfl

theorem pieces_cons_of_ends (hc : p c = false) (ht : ∀ d, t.head? = some d → p d = true) :
    pieces p (c :: t) = [c] :: pieces p t := by
  rw [pieces, cut_cons_of_neg hc]
  cases t with
  | nil => rfl
  | cons d t =>
    rw [cut_cons_of_pos p d t (ht d rfl), pieces_cons_of_pos (ht d rfl)]
    rfl

theorem pieces_cons_cons {d : Char} (hc : p c = false) (hd : p d = false) (t : Text) :
    pieces p (c :: d :: t) = (pieces p (d :: t)).modifyHead (c :: ·) := by
  rw [pieces, pieces, cut_cons_of_neg hc, cut_cons_of_neg hd]
  cases cut p t with
  | nil => rfl
  | cons piece pieces => simp

/-- A character that does not cut is in a piece. -/
theorem exists_pieces_cons (hc : p c = false) (t : Text) :
    ∃ w ws, pieces p (c :: t) = w :: ws := by
  obtain ⟨piece, more, hcut⟩ := List.exists_cons_of_ne_nil (cut_ne_nil p t)
  rw [pieces, cut_cons_of_neg hc, hcut, List.modifyHead_cons, List.filter_cons_of_pos (by simp)]
  exact ⟨_, _, rfl⟩

theorem dropEndWhile_cons (p : Char → Bool) (c : Char) (t : Text) :
    dropEndWhile p (c :: t) =
      if dropEndWhile p t = [] then (if p c then [] else [c]) else c :: dropEndWhile p t := by
  rw [dropEndWhile, List.reverse_cons, List.dropWhile_append, dropEndWhile]
  cases hdrop : t.reverse.dropWhile p with
  | nil => by_cases hc : p c = true <;> simp [hc]
  | cons d rest => simp

end CatchAll.Text
