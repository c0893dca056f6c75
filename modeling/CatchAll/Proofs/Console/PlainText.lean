import CatchAll.Proofs.Console.Markup
import CatchAll.Proofs.Outcome

/-!
# What a text shows

A text shows its plain text when none of its tags counts. This is what escaping is for.
A text that is read as markup shows no more than that, and less as soon as there is a tag.
-/

set_option autoImplicit false

namespace CatchAll.Console

open scoped Text

/-! ## Emoji -/

namespace Emoji

variable {w : Text}

theorem replaceFrom_none_of_free (h : ':' ∉ w) : replaceFrom none w = w := by
  induction w with
  | nil => rfl
  | cons c w ih =>
    obtain ⟨hc, hw⟩ := not_or.mp (List.mem_cons.not.mp h)
    rw [replaceFrom, if_neg (Ne.symm hc), ih hw]

theorem replaceFrom_some_of_free (back : Text) (h : ':' ∉ w) :
    replaceFrom (some back) w = ':' :: back.reverse ++ w := by
  induction w generalizing back with
  | nil => rw [replaceFrom, List.append_nil]
  | cons c w ih =>
    obtain ⟨hc, hw⟩ := not_or.mp (List.mem_cons.not.mp h)
    rw [replaceFrom, if_neg (Ne.symm hc)]
    split
    · rw [replaceFrom_none_of_free hw]
    · rw [ih (c :: back) hw, List.reverse_cons, List.cons_append, List.append_assoc]
      rfl

/-- Without a colon nothing behind a text can close a name that is open at its end. -/
theorem replaceFrom_append (h : ':' ∉ w) (state : Option Text) (t : Text) :
    replaceFrom state (t ++ w) = replaceFrom state t ++ w := by
  induction t generalizing state with
  | nil =>
    cases state with
    | none => exact replaceFrom_none_of_free h
    | some back => exact replaceFrom_some_of_free back h
  | cons c t ih =>
    cases state with
    | none =>
      rw [List.cons_append, replaceFrom, replaceFrom]
      split
      · exact ih _
      · rw [ih]
        rfl
    | some back =>
      rw [List.cons_append, replaceFrom, replaceFrom]
      split
      · rw [ih, List.append_assoc]
      · split
        · rw [ih, List.append_assoc]
          rfl
        · exact ih _

theorem replace_append (h : ':' ∉ w) (t : Text) : replace (t ++ w) = replace t ++ w :=
  replaceFrom_append h none t

/-- No name between two colons is known. -/
def Free (t : Text) : Prop := ∀ code, ':' ∉ code → (∀ c ∈ code, Text.isBlank c = false) →
  ':' :: (code ++ [':']) <:+: t → shown code = ':' :: (code ++ [':'])

theorem Free.of_infix {s t : Text} (h : Free t) (hst : s <:+: t) : Free s :=
  fun code hcolon hblank hcode => h code hcolon hblank (hcode.trans hst)

/-- A text without known names stays as it is, and so does one with an open name in front. -/
theorem replaceFrom_of_free (t : Text) : (Free t → replaceFrom none t = t) ∧
    ∀ back, ':' ∉ back → (∀ c ∈ back, Text.isBlank c = false) →
      Free (':' :: (back.reverse ++ t)) →
        replaceFrom (some back) t = ':' :: (back.reverse ++ t) := by
  induction t with
  | nil => exact ⟨fun _ => rfl, fun back _ _ _ => by rw [replaceFrom, List.append_nil]⟩
  | cons c t ih =>
    refine ⟨fun h => ?_, fun back hcolon hblank h => ?_⟩
    · rw [replaceFrom]
      split
      · next hc =>
        subst hc
        exact ih.2 [] List.not_mem_nil (List.forall_mem_nil _) h
      · rw [ih.1 (h.of_infix (List.suffix_cons c t).isInfix)]
    · have hrest : t <:+: ':' :: (back.reverse ++ c :: t) :=
        ⟨':' :: (back.reverse ++ [c]), [], by simp⟩
      rw [replaceFrom]
      split
      · next hc =>
        subst hc
        have hcode : ':' :: (back.reverse ++ [':']) <:+: ':' :: (back.reverse ++ ':' :: t) :=
          ⟨[], t, by simp⟩
        rw [h _ (List.mem_reverse.not.mpr hcolon)
          (fun c hc => hblank c (List.mem_reverse.mp hc)) hcode, ih.1 (h.of_infix hrest)]
        simp
      · next hc =>
        split
        · rw [ih.1 (h.of_infix hrest)]
          rfl
        · next hshown =>
          have hgrown := ih.2 (c :: back) (List.not_mem_cons_of_ne_of_not_mem (Ne.symm hc) hcolon)
            (List.forall_mem_cons.mpr ⟨Bool.not_eq_true _ ▸ hshown, hblank⟩)
          rw [List.reverse_cons, List.append_assoc] at hgrown
          exact hgrown h

theorem replace_of_free {t : Text} (h : Free t) : replace t = t := (replaceFrom_of_free t).1 h

end Emoji

/-! ## Plain text -/

variable {t : Text} {ps qs : List Part} {n : Nat}

/-- What a run of characters shows. -/
def plainRun (run : Text) : Text := Emoji.replace (bareBrackets run)

/-- What pieces show when no tag counts; the characters since the last tag are kept backwards. -/
def plainFrom (back : Text) : List Piece → Text
  | [] => plainRun back.reverse
  | .char c :: rest => plainFrom (c :: back) rest
  | .tag n inside :: rest =>
    plainRun back.reverse ++ List.replicate n '\\' ++ plainRun ('[' :: (inside ++ [']'])) ++
      plainFrom [] rest

def plain (t : Text) : Text := plainFrom [] (pieces t)

theorem bareBrackets_replicate (k : Nat) :
    bareBrackets (List.replicate k '\\') = List.replicate k '\\' := by
  induction k with
  | zero => rfl
  | succ k ih =>
    cases k with
    | zero => rfl
    | succ k => exact congrArg ('\\' :: ·) ih

theorem bareBrackets_append_replicate (run : Text) (k : Nat) :
    bareBrackets (run ++ List.replicate k '\\') = bareBrackets run ++ List.replicate k '\\' := by
  fun_induction bareBrackets run with
  | case1 rest ih => exact congrArg ('[' :: ·) ih
  | case2 c rest hnot ih =>
    have hlonger : ∀ more, c = '\\' → rest ++ List.replicate k '\\' = '[' :: more → False := by
      intro more hc hmore
      cases rest with
      | nil =>
        cases k with
        | zero => cases hmore
        | succ k => exact absurd (List.cons.inj hmore).1 (by decide)
      | cons d rest => exact hnot rest hc (by rw [(List.cons.inj hmore).1])
    rw [List.cons_append, bareBrackets.eq_2 _ _ hlonger, ih]
    rfl
  | case3 => exact bareBrackets_replicate k

theorem plainRun_append_replicate (run : Text) (k : Nat) :
    plainRun (run ++ List.replicate k '\\') = plainRun run ++ List.replicate k '\\' := by
  have hcolon : ':' ∉ List.replicate k '\\' :=
    fun h => absurd (List.eq_of_mem_replicate h) (by decide)
  rw [plainRun, bareBrackets_append_replicate, Emoji.replace_append hcolon]
  rfl

theorem plainFrom_chars (back t : Text) : plainFrom back (t.map .char) =
    plainRun (back.reverse ++ t) := by
  induction t generalizing back with
  | nil => rw [List.map_nil, plainFrom, List.append_nil]
  | cons c t ih =>
    rw [List.map_cons, plainFrom, ih, List.reverse_cons, List.append_assoc]
    rfl

theorem plainFrom_append_replicate (back : Text) (ps : List Piece) (k : Nat) :
    plainFrom back (ps ++ (List.replicate k '\\').map .char) =
      plainFrom back ps ++ List.replicate k '\\' := by
  induction ps generalizing back with
  | nil => rw [List.nil_append, plainFrom_chars, plainRun_append_replicate, plainFrom]
  | cons p ps ih =>
    cases p with
    | char c => exact ih (c :: back)
    | tag n inside => rw [List.cons_append, plainFrom, ih, plainFrom, List.append_assoc _ _
        (List.replicate k '\\')]

/-- Backslashes at the end are shown. -/
theorem plain_append_replicate (t : Text) (k : Nat) :
    plain (t ++ List.replicate k '\\') = plain t ++ List.replicate k '\\' := by
  rw [plain, pieces_append (apart_of_bare bracket?_replicate), pieces_of_bare bracket?_replicate,
    plainFrom_append_replicate, plain]

theorem plain_of_untagged {t : Text} (h : Untagged t) : plain t = plainRun t := by
  rw [plain, untagged_iff.mp h, plainFrom_chars]
  rfl

/-! ## Inert text -/

/-- A text that shows itself wherever its tags do not count: no name of an emoji, no backslash
before a bracket, and nothing that moves the cursor. -/
structure Inert (t : Text) : Prop where
  free : Emoji.Free t
  bare : ¬ ['\\', '['] <:+: t
  fixed : ∀ c ∈ t, movesCursor c = false

theorem Inert.of_infix {s t : Text} (h : Inert t) (hst : s <:+: t) : Inert s where
  free := h.free.of_infix hst
  bare := fun hs => h.bare (hs.trans hst)
  fixed := fun c hc => h.fixed c (hst.subset hc)

/-- A name stands between two colons. -/
theorem Emoji.free_of_count {t : Text} (h : t.count ':' ≤ 1) : Emoji.Free t := by
  intro code _ _ hcode
  have hcount := hcode.sublist.count_le ':'
  rw [List.count_cons_self, List.count_append, List.count_singleton_self] at hcount
  omega

theorem bareBrackets_of_bare {t : Text} (h : ¬ ['\\', '['] <:+: t) : bareBrackets t = t := by
  fun_induction bareBrackets t with
  | case1 rest => exact absurd (List.prefix_append ['\\', '['] rest).isInfix h
  | case2 c rest hnot ih =>
    rw [ih fun hrest => h (hrest.trans (List.suffix_cons c rest).isInfix)]
  | case3 => rfl

theorem Inert.plainRun_eq {t : Text} (h : Inert t) : plainRun t = t := by
  rw [plainRun, bareBrackets_of_bare h.bare, Emoji.replace_of_free h.free]

theorem Inert.plainFrom_eq (back : Text) (ps : List Piece)
    (h : Inert (back.reverse ++ ps.flatMap Piece.text)) :
    plainFrom back ps = back.reverse ++ ps.flatMap Piece.text := by
  induction ps generalizing back with
  | nil =>
    rw [List.flatMap_nil, List.append_nil] at h ⊢
    exact h.plainRun_eq
  | cons p ps ih =>
    cases p with
    | char c =>
      have hgrown := ih (c :: back)
      rw [List.reverse_cons, List.append_assoc] at hgrown
      exact hgrown h
    | tag n inside =>
      have hback : back.reverse <:+:
          back.reverse ++ (Piece.tag n inside :: ps).flatMap Piece.text :=
        (List.prefix_append _ _).isInfix
      have htag : '[' :: (inside ++ [']']) <:+:
          back.reverse ++ (Piece.tag n inside :: ps).flatMap Piece.text :=
        ⟨back.reverse ++ List.replicate n '\\', ps.flatMap Piece.text, by simp [Piece.text]⟩
      have hrest : ps.flatMap Piece.text <:+:
          back.reverse ++ (Piece.tag n inside :: ps).flatMap Piece.text :=
        ⟨back.reverse ++ (Piece.tag n inside).text, [], by simp⟩
      rw [plainFrom, (h.of_infix hback).plainRun_eq, (h.of_infix htag).plainRun_eq,
        ih [] (h.of_infix hrest)]
      simp [Piece.text]

theorem Inert.plain_eq {t : Text} (h : Inert t) : plain t = t := by
  have hpieces := flatMap_text_pieces t
  have hplain := Inert.plainFrom_eq [] (pieces t) (by simpa [hpieces] using h)
  rwa [hpieces] at hplain

/-! ## Parts -/

def partsOf (t : Text) : List Part := partsFrom [] (pieces t)

/-- What a part shows; a tag shows nothing. -/
def Part.shown : Part → Text
  | .text t => t
  | .tag _ => []

def textOf (ps : List Part) : Text := ps.flatMap Part.shown

theorem textOf_append (ps qs : List Part) : textOf (ps ++ qs) = textOf ps ++ textOf qs :=
  List.flatMap_append

theorem textOf_plainPart (run : Text) : textOf (plainPart run) = plainRun run := by
  cases run with
  | nil => rfl
  | cons c run => exact List.append_nil _

theorem partsFrom_append (back : Text) (n : Nat) (inside : Text) (ps qs : List Piece) :
    partsFrom back (ps ++ .tag n inside :: qs) =
      partsFrom back ps ++ tagParts n inside ++ partsFrom [] qs := by
  induction ps generalizing back with
  | nil => rfl
  | cons p ps ih =>
    cases p with
    | char c => exact ih (c :: back)
    | tag m other => simp only [List.cons_append, partsFrom, ih, List.append_assoc]

/-- A text in front of a tag is read by itself, but its backslashes at the end belong to the
tag. -/
theorem partsOf_append {u inside rest : Text} {k : Nat} (hu : u.getLast? ≠ some '\\')
    (h : IsInside inside) : partsOf (u ++ ((Piece.tag k inside).text ++ rest)) =
      partsOf u ++ tagParts k inside ++ partsOf rest := by
  have hapart : Apart u ((Piece.tag k inside).text ++ rest) := by
    refine ⟨?_, fun hlast => absurd hlast hu⟩
    rw [Piece.text_tag_append, bracket?_replicate_append, bracket?_cons_of_isBracket rfl]
    decide
  rw [partsOf, pieces_append hapart, pieces_text h, partsFrom_append]
  rfl

/-- Parts that are all text, with what they show. -/
structure Says (ps : List Part) (said : Text) : Prop where
  untagged : ∀ part ∈ ps, ∃ t, part = .text t
  said : textOf ps = said

theorem says_plainPart (run : Text) : Says (plainPart run) (plainRun run) := by
  refine ⟨fun part hpart => ?_, textOf_plainPart run⟩
  rw [plainPart, List.mem_ite_nil_left, List.mem_singleton] at hpart
  exact ⟨_, hpart.2⟩

theorem says_text (t : Text) : Says [.text t] t :=
  ⟨List.forall_mem_singleton.mpr ⟨t, rfl⟩, List.append_nil t⟩

theorem Says.append {s s' : Text} (h : Says ps s) (h' : Says qs s') :
    Says (ps ++ qs) (s ++ s') :=
  ⟨List.forall_mem_append.mpr ⟨h.untagged, h'.untagged⟩, by rw [textOf_append, h.said, h'.said]⟩

theorem partsFrom_chars (back t : Text) : partsFrom back (t.map .char) =
    plainPart (back.reverse ++ t) := by
  induction t generalizing back with
  | nil => rw [List.map_nil, partsFrom, List.append_nil]
  | cons c t ih =>
    rw [List.map_cons, partsFrom, ih, List.reverse_cons, List.append_assoc]
    rfl

theorem says_of_untagged {t : Text} (h : Untagged t) : Says (partsOf t) (plain t) := by
  rw [partsOf, plain_of_untagged h, untagged_iff.mp h, partsFrom_chars]
  exact says_plainPart t

theorem says_tagParts_masked (n : Nat) (inside : Text) : Says (tagParts (2 * n + 1) inside)
    (List.replicate n '\\' ++ plainRun ('[' :: (inside ++ [']']))) := by
  have hhalf : (2 * n + 1) / 2 = n := by omega
  have hodd : (2 * n + 1) % 2 = 1 := by omega
  rw [tagParts, hhalf, if_pos hodd]
  exact (says_text _).append (says_plainPart _)

theorem says_partsFrom_masked (back : Text) (ps : List Piece) :
    Says (partsFrom back (ps.map Piece.masked)) (plainFrom back ps) := by
  induction ps generalizing back with
  | nil => exact says_plainPart _
  | cons p ps ih =>
    cases p with
    | char c => exact ih (c :: back)
    | tag n inside =>
      rw [plainFrom, List.append_assoc (plainRun back.reverse)]
      exact ((says_plainPart _).append (says_tagParts_masked n inside)).append (ih [])

/-- Masked tags are shown. -/
theorem says_masked (t : Text) : Says (partsOf (masked t)) (plain t) := by
  rw [partsOf, pieces_masked]
  exact says_partsFrom_masked [] (pieces t)

/-! ## Reading -/

variable {stack : List Tag} {shown : Text}

/-- Whatever the tags do, what is shown is the text between them. -/
theorem eq_textOf_of_shownParts (h : shownParts stack ps = .ok shown) : shown = textOf ps := by
  induction ps generalizing stack shown with
  | nil => exact (Except.ok.inj h).symm
  | cons part ps ih =>
    cases part with
    | text t =>
      obtain ⟨rest, hrest, hdone⟩ := Outcome.bind_eq_ok.mp h
      rw [← Except.ok.inj hdone, ih hrest]
      rfl
    | tag inside =>
      obtain ⟨stack', -, hrest⟩ := Outcome.bind_eq_ok.mp h
      exact ih hrest

theorem Says.shownParts_append {s : Text} (h : Says ps s) :
    shownParts stack (ps ++ qs) = (shownParts stack qs).map (s ++ ·) := by
  rw [← h.said]
  have huntagged := h.untagged
  clear h
  induction ps with
  | nil => cases hqs : shownParts stack qs <;> exact hqs
  | cons part ps ih =>
    obtain ⟨⟨t, rfl⟩, hps⟩ := List.forall_mem_cons.mp huntagged
    rw [List.cons_append, shownParts, ih hps]
    cases shownParts stack qs with
    | error fault => rfl
    | ok shown => exact congrArg Except.ok (List.append_assoc t (textOf ps) shown).symm

theorem shownParts_tag (inside : Text) : shownParts stack (tagParts 0 inside ++ qs) =
    openAfter stack inside >>= fun stack => shownParts stack qs := by
  show (do return [] ++ (← (do shownParts (← openAfter stack inside) qs))) = _
  cases openAfter stack inside with
  | error fault => rfl
  | ok stack =>
    show (do return [] ++ (← shownParts stack qs)) = shownParts stack qs
    cases shownParts stack qs <;> rfl

theorem Says.checked (h : Says ps shown) : ∀ part ∈ ps, checkPart part = .ok () := by
  intro part hpart
  obtain ⟨t, rfl⟩ := h.untagged part hpart
  rfl

/-- Text as a terminal shows it. -/
def still (t : Text) : Text := t.filter (!movesCursor ·)

theorem still_append (s t : Text) : still (s ++ t) = still s ++ still t := List.filter_append s t

theorem Inert.still_plain {t : Text} (h : Inert t) : still (plain t) = t := by
  rw [h.plain_eq, still, List.filter_eq_self]
  exact fun c hc => by rw [h.fixed c hc]; rfl

theorem forM_checkPart (h : ∀ part ∈ ps, checkPart part = .ok ()) :
    ps.forM checkPart = .ok () := by
  induction ps with
  | nil => rfl
  | cons part ps ih =>
    obtain ⟨hpart, hps⟩ := List.forall_mem_cons.mp h
    exact Outcome.bind_eq_ok.mpr ⟨(), hpart, ih hps⟩

theorem display_eq_ok {markup : Text} (hshown : shownParts [] (partsOf markup) = .ok shown)
    (hchecked : ∀ part ∈ partsOf markup, checkPart part = .ok ()) :
    display markup = .ok (still shown) :=
  Outcome.bind_eq_ok.mpr ⟨shown, hshown,
    Outcome.bind_eq_ok.mpr ⟨(), forM_checkPart hchecked, rfl⟩⟩

theorem eq_textOf_of_display {markup : Text} (h : display markup = .ok shown) :
    shown = still (textOf (partsOf markup)) := by
  obtain ⟨s, hs, h⟩ := Outcome.bind_eq_ok.mp h
  obtain ⟨-, -, hdone⟩ := Outcome.bind_eq_ok.mp h
  rw [← Except.ok.inj hdone, eq_textOf_of_shownParts hs]
  rfl

/-! ## Losses -/

/-- Counts the characters that tags can lose. Backslashes count twice: an odd number of them
loses the rest of its half to a bracket. -/
def weight (t : Text) : Nat := 2 * t.count '\\' + t.count '['

theorem weight_append (s t : Text) : weight (s ++ t) = weight s + weight t := by
  simp only [weight, List.count_append]
  omega

theorem weight_replicate (k : Nat) : weight (List.replicate k '\\') = 2 * k := by
  simp [weight, List.count_replicate]

theorem weight_still (t : Text) : weight (still t) = weight t := by
  rw [weight, still, List.count_filter (by decide), List.count_filter (by decide), weight]

theorem weight_plainRun_bracket (t : Text) : 0 < weight (plainRun ('[' :: t)) := by
  have hrun : plainRun ('[' :: t) = '[' :: plainRun t := by
    rw [plainRun, bareBrackets]
    · rfl
    · intro rest hback
      exact absurd hback (by decide)
  rw [hrun, weight, List.count_cons_self]
  omega

theorem textOf_tagParts (n : Nat) (inside : Text) : textOf (tagParts n inside) =
    List.replicate (n / 2) '\\' ++
      if n % 2 = 1 then plainRun ('[' :: (inside ++ [']'])) else [] := by
  rw [tagParts, ← textOf_plainPart]
  split <;> rfl

/-- A tag shows less than its plain text. -/
theorem weight_tagParts (n : Nat) (inside : Text) : weight (textOf (tagParts n inside)) <
    weight (List.replicate n '\\' ++ plainRun ('[' :: (inside ++ [']']))) := by
  have hpositive := weight_plainRun_bracket (inside ++ [']'])
  rw [textOf_tagParts, weight_append, weight_append, weight_replicate, weight_replicate]
  split
  · omega
  · have hnothing : weight [] = 0 := rfl
    omega

theorem weight_partsFrom (back : Text) (ps : List Piece) :
    weight (textOf (partsFrom back ps)) ≤ weight (plainFrom back ps) ∧
      (weight (textOf (partsFrom back ps)) = weight (plainFrom back ps) →
        ∀ p ∈ ps, ∃ c, p = .char c) := by
  induction ps generalizing back with
  | nil =>
    rw [partsFrom, plainFrom, textOf_plainPart]
    exact ⟨le_rfl, fun _ => List.forall_mem_nil _⟩
  | cons p ps ih =>
    cases p with
    | char c =>
      obtain ⟨hle, heq⟩ := ih (c :: back)
      exact ⟨hle, fun h => List.forall_mem_cons.mpr ⟨⟨c, rfl⟩, heq h⟩⟩
    | tag n inside =>
      obtain ⟨hle, -⟩ := ih []
      have htag := weight_tagParts n inside
      have hless : weight (textOf (partsFrom back (.tag n inside :: ps))) <
          weight (plainFrom back (.tag n inside :: ps)) := by
        rw [partsFrom, plainFrom, textOf_append, textOf_append, textOf_plainPart,
          List.append_assoc (plainRun back.reverse)]
        simp only [weight_append] at htag ⊢
        omega
      exact ⟨hless.le, fun h => absurd h hless.ne⟩

theorem map_char_of_forall {ps : List Piece} (h : ∀ p ∈ ps, ∃ c, p = .char c) :
    ps = (ps.flatMap Piece.text).map .char := by
  induction ps with
  | nil => rfl
  | cons p ps ih =>
    obtain ⟨⟨c, rfl⟩, hps⟩ := List.forall_mem_cons.mp h
    exact congrArg (Piece.char c :: ·) (ih hps)

/-- A text shows no more than its plain text, and as much only without tags. -/
theorem weight_partsOf (t : Text) : weight (textOf (partsOf t)) ≤ weight (plain t) ∧
    (weight (textOf (partsOf t)) = weight (plain t) → Untagged t) := by
  obtain ⟨hle, heq⟩ := weight_partsFrom [] (pieces t)
  refine ⟨hle, fun h => untagged_iff.mpr ?_⟩
  have hchars := map_char_of_forall (heq h)
  rwa [flatMap_text_pieces] at hchars

end CatchAll.Console
