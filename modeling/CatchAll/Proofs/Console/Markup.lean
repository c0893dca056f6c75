import CatchAll.Console.Markup
import Mathlib.Data.List.Induction
import Mathlib.Data.List.TakeWhile

/-!
# Tags in a text

Where the tags of a text are, what is left of them when it is joined with other texts,
and what escaping does to them.
-/

set_option autoImplicit false

namespace CatchAll.Console

open scoped Text

variable {t a b inside after : Text} {c : Char} {n : Nat}

/-! ## Brackets -/

/-- The first bracket of a text. -/
def bracket? (t : Text) : Option Char := t.find? isBracket

theorem bracket?_append : bracket? (a ++ b) = (bracket? a).or (bracket? b) := List.find?_append

theorem bracket?_cons_of_isBracket (h : isBracket c = true) : bracket? (c :: t) = some c :=
  List.find?_cons_of_pos h

theorem bracket?_cons_of_not (h : isBracket c = false) : bracket? (c :: t) = bracket? t :=
  List.find?_cons_of_neg (Bool.not_eq_true _ ▸ h)

theorem bracket?_eq_none : bracket? t = none ↔ ∀ c ∈ t, isBracket c = false := by
  simp [bracket?]

theorem isBracket_of_startsTag (h : startsTag c = true) : isBracket c = false := by
  by_contra hbracket
  simp only [Bool.not_eq_false, isBracket, Bool.or_eq_true, decide_eq_true_eq] at hbracket
  rcases hbracket with rfl | rfl <;> exact absurd h (by decide)

/-- What stands between the brackets of a tag. -/
structure IsInside (t : Text) : Prop where
  start : t.head?.any startsTag = true
  bare : ∀ c ∈ t, isBracket c = false

instance (t : Text) : Decidable (IsInside t) :=
  decidable_of_iff (t.head?.any startsTag && t.all (!isBracket ·)) <| by
    rw [Bool.and_eq_true, List.all_eq_true]
    exact ⟨fun h => ⟨h.1, fun c hc => Bool.not_eq_true' _ ▸ h.2 c hc⟩,
      fun h => ⟨h.start, fun c hc => Bool.not_eq_true' _ ▸ h.bare c hc⟩⟩

theorem takeWhile_bare (h : ∀ c ∈ a, isBracket c = false) :
    (a ++ ']' :: b).takeWhile (!isBracket ·) = a ∧
      (a ++ ']' :: b).dropWhile (!isBracket ·) = ']' :: b := by
  have hbare : ∀ c ∈ a, (!isBracket c) = true := fun c hc => by rw [h c hc]; rfl
  rw [List.takeWhile_append_of_pos hbare, List.dropWhile_append_of_pos hbare]
  exact ⟨List.append_nil a, rfl⟩

theorem tag?_eq_some_iff :
    tag? t = some (inside, after) ↔ IsInside inside ∧ t = '[' :: (inside ++ ']' :: after) := by
  constructor
  · intro h
    unfold tag? at h
    split at h
    · next c rest =>
      split at h
      · next behind hdrop =>
        split at h
        · next hstart =>
          obtain ⟨rfl, rfl⟩ := Prod.mk.inj (Option.some.inj h)
          have hsplit := List.takeWhile_append_dropWhile (p := (!isBracket ·)) (l := rest)
          refine ⟨⟨hstart, List.forall_mem_cons.mpr ⟨isBracket_of_startsTag hstart, ?_⟩⟩, ?_⟩
          · intro d hd
            simpa using List.mem_takeWhile_imp hd
          · rw [List.cons_append, ← hdrop, hsplit]
        · cases h
      · cases h
    · cases h
  · rintro ⟨hinside, rfl⟩
    cases inside with
    | nil => cases hinside.start
    | cons c rest =>
      obtain ⟨-, hbare⟩ := List.forall_mem_cons.mp hinside.bare
      obtain ⟨htake, hdrop⟩ := takeWhile_bare (b := after) hbare
      have hstart : startsTag c = true := hinside.start
      simp only [tag?, List.cons_append, htake, hdrop, hstart, if_true]

/-- Whether a tag begins here, perhaps behind backslashes. -/
def opens : Text → Bool
  | '\\' :: t => opens t
  | '[' :: c :: t => startsTag c && bracket? t == some ']'
  | _ => false

theorem opens_of_bare (h : bracket? t = none) : opens t = false := by
  fun_induction opens t with
  | case1 t ih => exact ih ((bracket?_cons_of_not rfl).symm.trans h)
  | case2 c t =>
    rw [bracket?_cons_of_isBracket rfl] at h
    cases h
  | case3 => rfl

theorem opens_of_head (hback : c ≠ '\\') (hbracket : c ≠ '[') : opens (c :: t) = false := by
  unfold opens
  split <;> simp_all

theorem bracket?_eq_some {d : Char} (h : bracket? t = some d) :
    ∃ front rest, (∀ c ∈ front, isBracket c = false) ∧ isBracket d = true ∧
      t = front ++ d :: rest := by
  obtain ⟨hd, front, rest, rfl, hfront⟩ := List.find?_eq_some_iff_append.mp h
  exact ⟨front, rest, fun c hc => by simpa using hfront c hc, hd, rfl⟩

/-! ## Pieces -/

/-- The text that a piece is read from. -/
def Piece.text : Piece → Text
  | .char c => [c]
  | .tag n inside => List.replicate n '\\' ++ '[' :: (inside ++ [']'])

theorem Piece.text_tag_append :
    (Piece.tag n inside).text ++ after =
      List.replicate n '\\' ++ '[' :: (inside ++ ']' :: after) := by
  simp [Piece.text]

theorem tagPiece?_text (h : IsInside inside) :
    tagPiece? ((Piece.tag n inside).text ++ after) = some (.tag n inside, after) := by
  have hback : ∀ c ∈ List.replicate n '\\', decide (c = '\\') = true := by
    intro c hc
    rw [List.eq_of_mem_replicate hc]
    rfl
  have htake : ((Piece.tag n inside).text ++ after).takeWhile (· = '\\') =
      List.replicate n '\\' := by
    rw [Piece.text_tag_append, List.takeWhile_append_of_pos hback,
      List.takeWhile_cons_of_neg (by decide), List.append_nil]
  rw [tagPiece?, htake, List.length_replicate, Piece.text_tag_append,
    List.drop_left' List.length_replicate, tag?_eq_some_iff.mpr ⟨h, rfl⟩]
  rfl

theorem exists_of_tagPiece? {p : Piece} (h : tagPiece? t = some (p, after)) :
    ∃ n inside, IsInside inside ∧ p = .tag n inside ∧ t = p.text ++ after := by
  obtain ⟨⟨inside, after'⟩, htag, heq⟩ := Option.map_eq_some_iff.mp h
  obtain ⟨rfl, rfl⟩ := Prod.mk.inj heq
  obtain ⟨hinside, hdrop⟩ := tag?_eq_some_iff.mp htag
  have hback : t.takeWhile (· = '\\') =
      List.replicate (t.takeWhile (· = '\\')).length '\\' :=
    List.eq_replicate_of_mem fun c hc => by simpa using List.mem_takeWhile_imp hc
  refine ⟨_, inside, hinside, rfl, ?_⟩
  rw [Piece.text_tag_append, ← hdrop, ← hback]
  exact (List.prefix_iff_eq_append.mp (List.takeWhile_prefix _)).symm

theorem opens_text (h : IsInside inside) :
    opens ((Piece.tag n inside).text ++ after) = true := by
  rw [Piece.text_tag_append]
  induction n with
  | zero =>
    cases inside with
    | nil => cases h.start
    | cons c rest =>
      obtain ⟨-, hbare⟩ := List.forall_mem_cons.mp h.bare
      have hstart : startsTag c = true := h.start
      have hclosed : bracket? (rest ++ ']' :: after) = some ']' := by
        rw [bracket?_append, bracket?_eq_none.mpr hbare]
        rfl
      simp [opens, hstart, hclosed]
  | succ n ih => exact ih

theorem exists_of_opens (h : opens t = true) :
    ∃ n inside after, IsInside inside ∧ t = (Piece.tag n inside).text ++ after := by
  fun_induction opens t with
  | case1 t ih =>
    obtain ⟨n, inside, after, hinside, rfl⟩ := ih h
    exact ⟨n + 1, inside, after, hinside, rfl⟩
  | case2 c t =>
    obtain ⟨hstart, hclosed⟩ := Bool.and_eq_true_iff.mp h
    obtain ⟨front, after, hfront, -, rfl⟩ := bracket?_eq_some (beq_iff_eq.mp hclosed)
    refine ⟨0, c :: front, after, ⟨hstart, List.forall_mem_cons.mpr ⟨?_, hfront⟩⟩, ?_⟩
    · exact isBracket_of_startsTag hstart
    · rw [Piece.text_tag_append]
      rfl
  | case3 => cases h

theorem tagPiece?_eq_none : tagPiece? t = none ↔ opens t = false := by
  constructor
  · intro h
    by_contra hopens
    obtain ⟨n, inside, after, hinside, rfl⟩ := exists_of_opens ((Bool.not_eq_false _).mp hopens)
    rw [tagPiece?_text hinside] at h
    cases h
  · intro h
    cases hfound : tagPiece? t with
    | none => rfl
    | some found =>
      obtain ⟨n, inside, hinside, hp, rfl⟩ := exists_of_tagPiece? hfound
      rw [hp, opens_text hinside] at h
      cases h

theorem pieces_text (h : IsInside inside) :
    pieces ((Piece.tag n inside).text ++ after) = .tag n inside :: pieces after := by
  have hfound : tagPiece? ((Piece.tag n inside).text ++ after) = some (.tag n inside, after) :=
    tagPiece?_text h
  cases hwhole : (Piece.tag n inside).text ++ after with
  | nil =>
    have hlength := congrArg List.length hwhole
    simp [Piece.text] at hlength
  | cons c t =>
    rw [hwhole] at hfound
    rw [pieces, nextPiece, hfound]
    rfl

theorem pieces_char (h : opens (c :: t) = false) : pieces (c :: t) = .char c :: pieces t := by
  rw [pieces, nextPiece, tagPiece?_eq_none.mpr h]
  rfl

/-- A text is made of tags with the backslashes before them, and of characters at which no tag
begins. -/
theorem pieces_induction {P : Text → Prop} (nil : P [])
    (tag : ∀ n inside after, IsInside inside → P after → P ((Piece.tag n inside).text ++ after))
    (char : ∀ c t, opens (c :: t) = false → P t → P (c :: t)) (t : Text) : P t := by
  induction hlength : t.length using Nat.strong_induction_on generalizing t with
  | h k ih =>
    cases t with
    | nil => exact nil
    | cons c t =>
      cases hopens : opens (c :: t) with
      | false => exact char c t hopens (ih t.length (by simp [← hlength]) t rfl)
      | true =>
        obtain ⟨n, inside, after, hinside, heq⟩ := exists_of_opens hopens
        have hshorter : after.length < k := by
          rw [← hlength, heq]
          simp [Piece.text]
          omega
        exact heq ▸ tag n inside after hinside (ih _ hshorter after rfl)

/-- The pieces are the text, cut. -/
theorem flatMap_text_pieces (t : Text) : (pieces t).flatMap Piece.text = t := by
  induction t using pieces_induction with
  | nil =>
    rw [pieces]
    rfl
  | tag n inside after hinside ih => rw [pieces_text hinside, List.flatMap_cons, ih]
  | char c t hopens ih =>
    rw [pieces_char hopens, List.flatMap_cons, ih]
    rfl

/-! ## Texts that are joined -/

/-- Texts that can be joined: no tag that the first one leaves open is closed by the second, and
no backslash at the end of the first one reaches a tag of the second. -/
structure Apart (a b : Text) : Prop where
  unclosed : bracket? b ≠ some ']'
  unreached : a.getLast? = some '\\' → bracket? b = none

theorem apart_of_bare (h : bracket? b = none) : Apart a b := by
  refine ⟨?_, fun _ => h⟩
  rw [h]
  exact Option.some_ne_none _ |>.symm

theorem Apart.of_append (front : Text) (h : Apart (front ++ a) b) : Apart a b := by
  refine ⟨h.unclosed, fun hlast => h.unreached ?_⟩
  rw [List.getLast?_append, hlast]
  rfl

theorem Apart.opens_bracket (h : Apart a b) : opens ('[' :: b) = false := by
  cases b with
  | nil => rfl
  | cons d b =>
    rw [opens, Bool.and_eq_false_imp]
    intro hstart
    rw [beq_eq_false_iff_ne, ← bracket?_cons_of_not (isBracket_of_startsTag hstart)]
    exact h.unclosed

theorem Apart.opens_eq (h : Apart a b) (hne : a ≠ []) : opens (a ++ b) = opens a := by
  fun_induction opens a with
  | case1 t ih =>
    cases t with
    | nil =>
      have hbare := h.unreached rfl
      exact opens_of_bare hbare
    | cons c t => exact ih (Apart.of_append ['\\'] h) (List.cons_ne_nil _ _)
  | case2 c t =>
    have hclosed : (bracket? (t ++ b) == some ']') = (bracket? t == some ']') := by
      rw [bracket?_append]
      cases bracket? t with
      | some d => rfl
      | none =>
        rw [Option.none_or, beq_eq_false_iff_ne.mpr h.unclosed]
        rfl
    simp only [List.cons_append, opens, hclosed]
  | case3 a hback hbracket =>
    cases a with
    | nil => exact absurd rfl hne
    | cons c t =>
      have hc : c ≠ '\\' := fun heq => hback t (heq ▸ rfl)
      by_cases hopening : c = '['
      · subst hopening
        cases t with
        | nil => exact h.opens_bracket
        | cons d t => exact absurd rfl (hbracket d t)
      · exact opens_of_head hc hopening

theorem pieces_append (h : Apart a b) : pieces (a ++ b) = pieces a ++ pieces b := by
  induction a using pieces_induction with
  | nil => simp [pieces]
  | tag n inside after hinside ih =>
    rw [List.append_assoc, pieces_text hinside, pieces_text hinside, ih (h.of_append _)]
    rfl
  | char c t hopens ih =>
    have hlonger : opens (c :: (t ++ b)) = false :=
      (h.opens_eq (List.cons_ne_nil c t)).trans hopens
    rw [List.cons_append, pieces_char hlonger, pieces_char hopens,
      ih (Apart.of_append [c] h)]
    rfl

theorem bracket?_tail (h : bracket? (c :: t) = none) : bracket? t = none :=
  bracket?_eq_none.mpr fun d hd => bracket?_eq_none.mp h d (List.mem_cons_of_mem c hd)

theorem pieces_of_bare (h : bracket? t = none) : pieces t = t.map .char := by
  induction t with
  | nil => rw [pieces, List.map_nil]
  | cons c t ih =>
    rw [pieces_char (opens_of_bare h), ih (bracket?_tail h)]
    rfl

/-! ## Texts without tags -/

/-- No tag anywhere. -/
def Untagged (t : Text) : Prop := ∀ rest, rest <:+ t → tag? rest = none

theorem Untagged.of_suffix (h : Untagged b) (hab : a <:+ b) : Untagged a :=
  fun rest hrest => h rest (hrest.trans hab)

theorem opens_of_tag? (h : tag? t = some (inside, after)) : opens t = true := by
  obtain ⟨hinside, rfl⟩ := tag?_eq_some_iff.mp h
  have htext : opens ((Piece.tag 0 inside).text ++ after) = true := opens_text hinside
  rwa [Piece.text_tag_append] at htext

theorem not_untagged_text (h : IsInside inside) :
    ¬ Untagged ((Piece.tag n inside).text ++ after) := by
  intro huntagged
  have hsuffix : '[' :: (inside ++ ']' :: after) <:+ (Piece.tag n inside).text ++ after :=
    Piece.text_tag_append ▸ List.suffix_append _ _
  have htag := huntagged _ hsuffix
  rw [tag?_eq_some_iff.mpr ⟨h, rfl⟩] at htag
  cases htag

/-- All pieces of a text without tags are characters. -/
theorem untagged_iff : Untagged t ↔ pieces t = t.map .char := by
  induction t using pieces_induction with
  | nil =>
    rw [pieces, List.map_nil]
    refine iff_of_true (fun rest hrest => ?_) rfl
    rw [List.suffix_nil.mp hrest]
    rfl
  | tag n inside after hinside ih =>
    refine iff_of_false (not_untagged_text hinside) fun h => ?_
    rw [pieces_text hinside] at h
    have hmem := h ▸ List.mem_cons_self (a := Piece.tag n inside) (l := pieces after)
    obtain ⟨c, -, hc⟩ := List.mem_map.mp hmem
    cases hc
  | char c t hopens ih =>
    rw [pieces_char hopens, List.map_cons, List.cons_inj_right, ← ih]
    refine ⟨fun h => h.of_suffix (List.suffix_cons c t), fun h rest hrest => ?_⟩
    rcases List.suffix_cons_iff.mp hrest with rfl | hrest
    · cases htag : tag? (c :: t) with
      | none => rfl
      | some found => exact absurd (opens_of_tag? htag) (hopens ▸ Bool.false_ne_true)
    · exact h rest hrest

theorem opens_of_untagged (h : Untagged t) : opens t = false := by
  by_contra hopens
  obtain ⟨n, inside, after, hinside, rfl⟩ := exists_of_opens ((Bool.not_eq_false _).mp hopens)
  exact not_untagged_text hinside h

theorem untagged_cons (hopens : opens (c :: t) = false) (h : Untagged t) : Untagged (c :: t) := by
  rw [untagged_iff, pieces_char hopens, untagged_iff.mp h]
  rfl

/-- What stands in front cannot make a tag of what is none, unless it opens one. -/
theorem untagged_append_left (ha : '[' ∉ a) (hb : Untagged b) : Untagged (a ++ b) := by
  induction a with
  | nil => exact hb
  | cons c a ih =>
    obtain ⟨hc, ha⟩ := not_or.mp (List.mem_cons.not.mp ha)
    have hrest := ih ha
    refine untagged_cons (t := a ++ b) ?_ hrest
    by_cases hback : c = '\\'
    · have hbehind : opens (a ++ b) = false := opens_of_untagged hrest
      rw [hback]
      exact hbehind
    · exact opens_of_head hback (Ne.symm hc)

theorem untagged_append_bare (hb : bracket? b = none) : Untagged (a ++ b) ↔ Untagged a := by
  rw [untagged_iff, untagged_iff, pieces_append (apart_of_bare hb), pieces_of_bare hb,
    List.map_append]
  exact List.append_left_inj _

theorem untagged_of_bare (h : bracket? t = none) : Untagged t :=
  untagged_iff.mpr (pieces_of_bare h)

/-! ## Escaping -/

/-- Every tag gets one backslash more than twice those that it has. -/
def Piece.masked : Piece → Piece
  | .char c => .char c
  | .tag n inside => .tag (2 * n + 1) inside

/-- A text with all tags out of action. -/
def masked (t : Text) : Text := (pieces t).flatMap Piece.escape

theorem masked_text (h : IsInside inside) : masked ((Piece.tag n inside).text ++ after) =
    (Piece.tag n inside).masked.text ++ masked after := by
  rw [masked, pieces_text h, List.flatMap_cons]
  simp [masked, Piece.escape, Piece.masked, Piece.text]

theorem masked_char (h : opens (c :: t) = false) : masked (c :: t) = c :: masked t := by
  rw [masked, pieces_char h, List.flatMap_cons]
  rfl

theorem bracket?_replicate : bracket? (List.replicate n '\\') = none :=
  bracket?_eq_none.mpr fun _ hc => List.eq_of_mem_replicate hc ▸ rfl

theorem bracket?_replicate_append : bracket? (List.replicate n '\\' ++ t) = bracket? t := by
  rw [bracket?_append, bracket?_replicate, Option.none_or]

theorem bracket?_masked : bracket? (masked t) = bracket? t := by
  induction t using pieces_induction with
  | nil =>
    rw [masked, pieces]
    rfl
  | tag n inside after hinside ih =>
    rw [masked_text hinside, Piece.masked, Piece.text_tag_append, Piece.text_tag_append,
      bracket?_replicate_append, bracket?_replicate_append]
    rfl
  | char c t hopens ih =>
    rw [masked_char hopens]
    cases hc : isBracket c with
    | true => rw [bracket?_cons_of_isBracket hc, bracket?_cons_of_isBracket hc]
    | false => rw [bracket?_cons_of_not hc, bracket?_cons_of_not hc, ih]

/-- Where no tag begins, none does when the tags behind are masked. -/
theorem opens_masked (h : opens (c :: t) = false) : opens (c :: masked t) = false := by
  induction t using pieces_induction generalizing c with
  | nil =>
    rw [masked, pieces]
    exact h
  | tag n inside after hinside ih =>
    rw [masked_text hinside]
    by_cases hback : c = '\\'
    · rw [hback] at h
      exact absurd (opens_text (n := n + 1) hinside) (h ▸ Bool.false_ne_true)
    · by_cases hbracket : c = '['
      · rw [hbracket]
        rfl
      · exact opens_of_head hback hbracket
  | char d t hopens ih =>
    rw [masked_char hopens]
    by_cases hback : c = '\\'
    · rw [hback]
      exact ih hopens
    · by_cases hbracket : c = '['
      · rw [hbracket, opens, bracket?_masked]
        rw [hbracket, opens] at h
        exact h
      · exact opens_of_head hback hbracket

theorem pieces_masked : pieces (masked t) = (pieces t).map Piece.masked := by
  induction t using pieces_induction with
  | nil =>
    rw [masked, pieces, List.flatMap_nil, pieces]
    rfl
  | tag n inside after hinside ih =>
    rw [masked_text hinside, pieces_text hinside, Piece.masked, pieces_text hinside, ih]
    rfl
  | char c t hopens ih =>
    rw [masked_char hopens, pieces_char (opens_masked hopens), pieces_char hopens, ih]
    rfl

theorem masked_append (h : Apart a b) : masked (a ++ b) = masked a ++ masked b := by
  rw [masked, pieces_append h, List.flatMap_append]
  rfl

theorem masked_of_bare (h : bracket? t = none) : masked t = t := by
  rw [masked, pieces_of_bare h, List.flatMap_map]
  exact List.flatMap_singleton' t

/-! ## The end of a text -/

/-- Every text ends in some backslashes, perhaps none. -/
theorem exists_end (t : Text) :
    ∃ u k, u.getLast? ≠ some '\\' ∧ t = u ++ List.replicate k '\\' := by
  induction t using List.reverseRecOn with
  | nil => exact ⟨[], 0, Option.some_ne_none _ |>.symm, rfl⟩
  | append_singleton t c ih =>
    by_cases hc : c = '\\'
    · obtain ⟨u, k, hu, rfl⟩ := ih
      exact ⟨u, k + 1, hu, by rw [hc, List.append_assoc, List.replicate_succ']⟩
    · exact ⟨t ++ [c], 0, by simpa using hc, (List.append_nil _).symm⟩

/-- How many backslashes are at the end when a single one is doubled. -/
def guarded (k : Nat) : Nat := if k = 1 then 2 else k

theorem guardEnd_append {u : Text} {k : Nat} (hu : u.getLast? ≠ some '\\') :
    guardEnd (u ++ List.replicate k '\\') = u ++ List.replicate (guarded k) '\\' := by
  rcases List.eq_nil_or_concat u with rfl | ⟨v, c, rfl⟩
  · match k with
    | 0 | 1 => rfl
    | k + 2 => simp [guardEnd, guarded, List.replicate_succ']
  · have hc : c ≠ '\\' := by simpa using hu
    match k with
    | 0 => simp [guardEnd, guarded, hc]
    | 1 => simp [guardEnd, guarded, hc]
    | k + 2 => simp [guardEnd, guarded, List.replicate_succ']

theorem getLast?_append_ne {u : Text} (ha : a.getLast? ≠ some '\\')
    (hu : u.getLast? ≠ some '\\') : (a ++ u).getLast? ≠ some '\\' := by
  rw [List.getLast?_append]
  cases hend : u.getLast? with
  | some c => exact fun heq => hu (hend.trans heq)
  | none => exact ha

theorem guardEnd_append_left (ha : a.getLast? ≠ some '\\') :
    guardEnd (a ++ b) = a ++ guardEnd b := by
  obtain ⟨u, k, hu, rfl⟩ := exists_end b
  rw [← List.append_assoc, guardEnd_append (getLast?_append_ne ha hu), guardEnd_append hu,
    List.append_assoc]

theorem getLast?_masked : (masked t).getLast? = t.getLast? := by
  induction t using pieces_induction with
  | nil =>
    rw [masked, pieces]
    rfl
  | tag n inside after hinside ih =>
    have hlast {k : Nat} : (Piece.tag k inside).text.getLast? = some ']' := by
      rw [Piece.text, List.getLast?_append, List.getLast?_cons, List.getLast?_concat]
      rfl
    rw [masked_text hinside, Piece.masked, List.getLast?_append, List.getLast?_append, hlast,
      hlast, ih]
  | char c t hopens ih => rw [masked_char hopens, List.getLast?_cons, List.getLast?_cons, ih]

theorem escape_append {u : Text} {k : Nat} (hu : u.getLast? ≠ some '\\') :
    escape (u ++ List.replicate k '\\') = masked u ++ List.replicate (guarded k) '\\' := by
  have hlast : (masked u).getLast? ≠ some '\\' := by rwa [getLast?_masked]
  show guardEnd (masked (u ++ List.replicate k '\\')) = _
  rw [masked_append (apart_of_bare bracket?_replicate), masked_of_bare bracket?_replicate,
    guardEnd_append hlast]

/-- Texts in front that have neither brackets nor backslashes need no escapes. -/
theorem masked_append_left (h : ∀ c ∈ a, c ≠ '[' ∧ c ≠ '\\') :
    masked (a ++ b) = a ++ masked b := by
  induction a with
  | nil => rfl
  | cons c a ih =>
    obtain ⟨⟨hbracket, hback⟩, ha⟩ := List.forall_mem_cons.mp h
    rw [List.cons_append, masked_char (opens_of_head hback hbracket), ih ha]
    rfl

theorem escape_eq_masked : escape t = masked (guardEnd t) := by
  obtain ⟨u, k, hu, rfl⟩ := exists_end t
  rw [escape_append hu, guardEnd_append hu, masked_append (apart_of_bare bracket?_replicate),
    masked_of_bare bracket?_replicate]

theorem escape_append_left (hbracket : '[' ∉ a) (hback : '\\' ∉ a) :
    escape (a ++ b) = a ++ escape b := by
  have hfixed : ∀ c ∈ a, c ≠ '[' ∧ c ≠ '\\' := fun c hc =>
    ⟨ne_of_mem_of_not_mem hc hbracket, ne_of_mem_of_not_mem hc hback⟩
  have hlast : a.getLast? ≠ some '\\' := fun ha => hback (List.mem_of_getLast? ha)
  rw [escape_eq_masked, guardEnd_append_left hlast, masked_append_left hfixed, ← escape_eq_masked]

end CatchAll.Console
