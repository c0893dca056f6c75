import CatchAll.Proofs.Text.Lines

/-!
# Texts cut at a separator

A separator of several characters is looked for from left to right, and what is found
is passed over. If its last character is in no piece and occurs in it only once, pieces
that were joined by it are found again, whatever they end with.
-/

set_option autoImplicit false

namespace CatchAll.Text

open scoped Text

/-- The pieces of a text between the occurrences of a separator, where some characters that
come first belong to an occurrence found before. -/
def cutFrom (separator : Text) : Nat → Text → List Text
  | _, [] => [[]]
  | passed + 1, _ :: rest => cutFrom separator passed rest
  | 0, c :: rest =>
    if separator.isPrefixOf (c :: rest) then [] :: cutFrom separator (separator.length - 1) rest
    else (cutFrom separator 0 rest).modifyHead (c :: ·)

def cutAt (separator t : Text) : List Text := cutFrom separator 0 t

/-- The text with all occurrences of a text replaced by another. -/
def replace (old new t : Text) : Text := joinWith new (cutAt old t)

theorem cutFrom_length (separator : Text) (u t : Text) :
    cutFrom separator u.length (u ++ t) = cutAt separator t := by
  induction u with
  | nil => rfl
  | cons c u ih => exact ih

/-- A separator at the start of a text is passed over. -/
theorem cutAt_append {separator : Text} (hne : separator ≠ []) (t : Text) :
    cutAt separator (separator ++ t) = [] :: cutAt separator t := by
  obtain ⟨c, rest, rfl⟩ := List.exists_cons_of_ne_nil hne
  have hstarts : (c :: rest).isPrefixOf (c :: (rest ++ t)) = true :=
    List.isPrefixOf_iff_prefix.mpr (List.prefix_append (c :: rest) t)
  rw [cutAt, List.cons_append, cutFrom, if_pos hstarts]
  exact congrArg ([] :: ·) (cutFrom_length (c :: rest) rest t)

theorem cutAt_cons_of_absent {separator : Text} {c : Char} {t : Text}
    (h : ¬ separator <+: c :: t) :
    cutAt separator (c :: t) = (cutAt separator t).modifyHead (c :: ·) := by
  rw [cutAt, cutFrom, if_neg]
  · rfl
  · rwa [List.isPrefixOf_iff_prefix]

section Joined

variable {mark : Text} {last : Char}

/-- No separator begins before the end of a piece, since its last character comes too late. -/
theorem not_prefix_of_piece (hmark : last ∉ mark) {c : Char} {piece : Text}
    (hpiece : last ∉ c :: piece) (t : Text) :
    ¬ mark ++ [last] <+: c :: (piece ++ (mark ++ [last] ++ t)) := by
  intro hprefix
  have hwhole : c :: piece ++ mark <+: c :: (piece ++ (mark ++ [last] ++ t)) := by
    rw [List.append_assoc mark, ← List.cons_append, ← List.append_assoc]
    exact List.prefix_append _ _
  have hwithin : mark ++ [last] <+: c :: piece ++ mark :=
    List.prefix_of_prefix_length_le hprefix hwhole (by simp)
  have hmem : last ∈ c :: piece ++ mark := hwithin.subset (by simp)
  exact (List.mem_append.mp hmem).elim hpiece hmark

theorem cutAt_piece_append (hmark : last ∉ mark) {piece : Text} (hpiece : last ∉ piece)
    (t : Text) :
    cutAt (mark ++ [last]) (piece ++ (mark ++ [last] ++ t)) =
      piece :: cutAt (mark ++ [last]) t := by
  induction piece with
  | nil => exact cutAt_append (by simp) t
  | cons c piece ih =>
    have hrest := ih fun h => hpiece (List.mem_cons_of_mem c h)
    rw [List.cons_append, cutAt_cons_of_absent (not_prefix_of_piece hmark hpiece t), hrest]
    rfl

theorem cutAt_piece (mark : Text) {piece : Text} (hpiece : last ∉ piece) :
    cutAt (mark ++ [last]) piece = [piece] := by
  induction piece with
  | nil => rfl
  | cons c piece ih =>
    have hnone : ¬ mark ++ [last] <+: c :: piece := fun h => hpiece (h.subset (by simp))
    rw [cutAt_cons_of_absent hnone, ih fun h => hpiece (List.mem_cons_of_mem c h)]
    rfl

/-- Pieces are found again between the separators that join them. -/
theorem cutAt_joinWith (hmark : last ∉ mark) {pieces : List Text} (hne : pieces ≠ [])
    (h : ∀ piece ∈ pieces, last ∉ piece) :
    cutAt (mark ++ [last]) (joinWith (mark ++ [last]) pieces) = pieces := by
  induction pieces with
  | nil => exact absurd rfl hne
  | cons piece pieces ih =>
    obtain ⟨hpiece, hpieces⟩ := List.forall_mem_cons.mp h
    cases pieces with
    | nil => simpa [joinWith] using cutAt_piece mark hpiece
    | cons next pieces =>
      rw [joinWith_cons_cons, List.append_assoc, cutAt_piece_append hmark hpiece,
        ih (List.cons_ne_nil next pieces) hpieces]

theorem replace_joinWith (hmark : last ∉ mark) (new : Text) {pieces : List Text}
    (hne : pieces ≠ []) (h : ∀ piece ∈ pieces, last ∉ piece) :
    replace (mark ++ [last]) new (joinWith (mark ++ [last]) pieces) = joinWith new pieces := by
  rw [replace, cutAt_joinWith hmark hne h]

end Joined

end CatchAll.Text
