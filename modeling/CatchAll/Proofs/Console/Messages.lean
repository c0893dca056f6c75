import CatchAll.Proofs.Console.PlainText

/-!
# Messages

A message is plain text and text in colors, and texts from elsewhere are put into both,
escaped or as they are. Read as markup it shows its plain text exactly when every text
that is not escaped is free of tags, and no backslash at the end of a colored text
reaches the tag that follows.
-/

set_option autoImplicit false

namespace CatchAll.Console

open scoped Text

/-! ## Colors -/

/-- A word that names a color or nothing. -/
structure IsColorWord (w : Text) : Prop where
  whole : Text.words w = [w]
  small : Text.lower w = w
  stripped : Text.strip w = w
  other : w ∉ (["none", "on", "not", "link"].map String.toList : List Text)
  plain : Style.attribute? w = none
  unmixed : inside? "rgb" w = none

theorem readColor_eq_ok {w : Text} (h : IsColorWord w) :
    readColor w = .ok (some w) ∨ readColor w = .ok none := by
  have hmixed : isMixedColor w = .ok false := by rw [isMixedColor, h.unmixed]
  simp only [readColor, h.small, h.stripped]
  rw [hmixed]
  cases (isColorName w || isHexColor w || isPaletteColor w) with
  | true => exact .inl rfl
  | false => exact .inr rfl

/-- Known or not, such a word is its own name. -/
theorem named_eq_ok {w : Text} (h : IsColorWord w) : named w = .ok w := by
  obtain ⟨hnone, hon, hnot, hlink⟩ : w ≠ "none" ∧ w ≠ "on" ∧ w ≠ "not" ∧ w ≠ "link" := by
    simpa using h.other
  have hcolored : { Style.plain with color := some w }.name = w :=
    @List.intercalate_singleton _ " ".toList w
  have hname : styleName w = .ok w := by
    rw [styleName, Style.read, h.stripped, if_neg hnone, h.whole, Style.readWords]
    simp only [h.small, if_neg hon, if_neg hnot, if_neg hlink, h.plain]
    rcases readColor_eq_ok h with hcolor | hcolor
    · exact Outcome.bind_eq_ok.mpr
        ⟨_, Outcome.bind_eq_ok.mpr ⟨_, hcolor, rfl⟩, congrArg Except.ok hcolored⟩
    · exact Outcome.bind_eq_ok.mpr ⟨_, Outcome.bind_eq_ok.mpr ⟨_, hcolor, rfl⟩, rfl⟩
  rw [named, hname]
  rfl

/-- The colors of messages. -/
inductive Ink where
  | red
  | green
  | cyan
  | yellow

def Ink.name : Ink → Text
  | red => "red"
  | green => "green"
  | cyan => "cyan"
  | yellow => "yellow"

def Ink.close (ink : Ink) : Text := '/' :: ink.name

namespace Ink

variable (ink : Ink) {stack : List Tag}

theorem isColorWord : IsColorWord ink.name ∧ IsColorWord ink.close := by
  have hfacts : ∀ w ∈ [ink.name, ink.close], Text.words w = [w] ∧ Text.lower w = w ∧
      Text.strip w = w ∧ w ∉ (["none", "on", "not", "link"].map String.toList : List Text) ∧
      Style.attribute? w = none ∧ inside? "rgb" w = none := by
    cases ink <;> decide +kernel
  have hword (w : Text) (hw : w ∈ [ink.name, ink.close]) : IsColorWord w := by
    obtain ⟨hwhole, hsmall, hstripped, hother, hplain, hunmixed⟩ := hfacts w hw
    exact ⟨hwhole, hsmall, hstripped, hother, hplain, hunmixed⟩
  exact ⟨hword _ List.mem_cons_self, hword _ (by simp)⟩

theorem isInside : IsInside ink.name ∧ IsInside ink.close := by
  cases ink <;> decide

theorem read_name : Tag.read ink.name = ⟨ink.name, none⟩ := by
  cases ink <;> rfl

theorem read_close : Tag.read ink.close = ⟨ink.close, none⟩ := by
  cases ink <;> rfl

theorem openAfter_name : openAfter stack ink.name = .ok (⟨ink.name, none⟩ :: stack) := by
  have hnamed := named_eq_ok ink.isColorWord.1
  rw [openAfter, read_name]
  cases ink <;> exact Outcome.bind_eq_ok.mpr ⟨_, hnamed, rfl⟩

theorem openAfter_close : openAfter (⟨ink.name, none⟩ :: stack) ink.close = .ok stack := by
  have hword := ink.isColorWord.1
  have hne : ink.name ≠ [] := by cases ink <;> exact List.cons_ne_nil _ _
  have hclosed : closed? ink.name (⟨ink.name, none⟩ :: stack) =
      some (⟨ink.name, none⟩, stack) := by
    rw [closed?, decide_eq_true rfl, Bool.or_true]
    rfl
  rw [openAfter, read_close]
  simp only [close, hword.stripped, if_neg hne, named_eq_ok hword]
  refine Outcome.bind_eq_ok.mpr ⟨ink.name, rfl, ?_⟩
  rw [hclosed]
  rfl

theorem checkPart_of_read {w : Text} (h : IsColorWord w) (hread : Tag.read w = ⟨w, none⟩) :
    checkPart (.tag w) = .ok () := by
  rw [checkPart, hread]
  refine Outcome.bind_eq_ok.mpr ⟨w, named_eq_ok h, ?_⟩
  exact Outcome.bind_eq_ok.mpr ⟨w, named_eq_ok h, rfl⟩

theorem checkPart_name : checkPart (.tag ink.name) = .ok () :=
  checkPart_of_read ink.isColorWord.1 ink.read_name

theorem checkPart_close : checkPart (.tag ink.close) = .ok () :=
  checkPart_of_read ink.isColorWord.2 ink.read_close

/-- Each backslash before a closing tag weighs half of what it does as text. -/
theorem weight_tagParts_close (k : Nat) : weight (textOf (tagParts k ink.close)) = k := by
  have hshown : weight (plainRun ('[' :: (ink.close ++ [']']))) = 1 := by
    cases ink <;> decide +kernel
  rw [textOf_tagParts, weight_append, weight_replicate]
  split
  · rw [hshown]
    omega
  · have hnothing : weight [] = 0 := rfl
    omega

end Ink

/-! ## Words in a message -/

/-- A text in a message, escaped or as it is. -/
structure Words where
  text : Text
  escaped : Bool

namespace Words

def written (w : Words) : Text := if w.escaped then escape w.text else w.text

/-- What the words show at the end of a message: there escaping shows a single backslash
twice. -/
def last (w : Words) : Text := if w.escaped then guardEnd w.text else w.text

/-- Tags count unless they are escaped. -/
def Tagless (w : Words) : Prop := w.escaped = true ∨ Untagged w.text

/-- The backslashes at the end that would reach a tag behind the words. -/
def reach (w : Words) : Nat := if w.escaped then 2 else 1

/-- No backslash reaches a tag behind the words. -/
def Ended (w : Words) : Prop := ¬ List.replicate w.reach '\\' <:+ w.text

end Words

theorem Words.tagless_raw {t : Text} : (Words.mk t false).Tagless ↔ Untagged t :=
  or_iff_right Bool.false_ne_true

theorem Words.ended_raw {t : Text} : (Words.mk t false).Ended ↔ t.getLast? ≠ some '\\' := by
  rw [Ended, reach, if_neg Bool.false_ne_true, Ne, List.getLast?_eq_some_iff]
  refine not_congr ⟨?_, ?_⟩
  · rintro ⟨front, hfront⟩
    exact ⟨front, hfront.symm⟩
  · rintro ⟨front, hfront⟩
    exact ⟨front, hfront.symm⟩

/-- How many backslashes are at the end of a text. -/
theorem replicate_suffix_iff {u : Text} {k m : Nat} (hu : u.getLast? ≠ some '\\') :
    List.replicate m '\\' <:+ u ++ List.replicate k '\\' ↔ m ≤ k := by
  constructor
  · rintro ⟨front, hfront⟩
    by_contra hlt
    obtain ⟨n, rfl⟩ : ∃ n, m = n + 1 + k := ⟨m - k - 1, by omega⟩
    rw [List.replicate_add, ← List.append_assoc, List.replicate_succ',
      ← List.append_assoc] at hfront
    rw [← List.append_cancel_right hfront] at hu
    exact hu List.getLast?_concat
  · intro hle
    obtain ⟨n, rfl⟩ := Nat.exists_eq_add_of_le' hle
    rw [List.replicate_add, ← List.append_assoc]
    exact List.suffix_append _ _

/-- Words between tags: the parts that they are read as, with the tag behind them, show no more
than the plain text, and as much only if no tag counts and none is reached. Then they show it. -/
theorem Words.between (w : Words) (ink : Ink) : ∃ u k, u.getLast? ≠ some '\\' ∧
    w.written = u ++ List.replicate k '\\' ∧
    weight (textOf (partsOf u ++ tagParts k ink.close)) ≤ weight (plain w.text) ∧
    (weight (textOf (partsOf u ++ tagParts k ink.close)) = weight (plain w.text) →
      w.Tagless ∧ w.Ended) ∧
    (w.Tagless ∧ w.Ended → k % 2 = 0 ∧
      Says (partsOf u ++ [.text (List.replicate (k / 2) '\\')]) (plain w.text)) := by
  obtain ⟨t, escaped⟩ := w
  obtain ⟨u, k, hu, rfl⟩ := exists_end t
  cases escaped with
  | true =>
    have hended : (Words.mk (u ++ List.replicate k '\\') true).Ended ↔ k ≤ 1 := by
      rw [Words.Ended, Words.reach, if_pos rfl, replicate_suffix_iff hu]
      omega
    have hmasked : (masked u).getLast? ≠ some '\\' := by rwa [getLast?_masked]
    refine ⟨masked u, guarded k, hmasked, escape_append hu, ?_⟩
    rw [textOf_append, weight_append, ink.weight_tagParts_close, (says_masked u).said,
      plain_append_replicate, weight_append, weight_replicate, hended]
    refine ⟨?_, fun h => ⟨.inl rfl, ?_⟩, fun h => ?_⟩
    · unfold guarded
      split <;> omega
    · unfold guarded at h
      split at h <;> omega
    · have hguarded : guarded k = 2 * k := by
        have hk := h.2
        unfold guarded
        split <;> omega
      rw [hguarded, Nat.mul_mod_right, Nat.mul_div_cancel_left k Nat.two_pos]
      exact ⟨rfl, (says_masked u).append (says_text _)⟩
  | false =>
    have hended : (Words.mk (u ++ List.replicate k '\\') false).Ended ↔ k = 0 := by
      rw [Words.Ended, Words.reach, if_neg Bool.false_ne_true, replicate_suffix_iff hu]
      omega
    obtain ⟨hle, htagless⟩ := weight_partsOf u
    refine ⟨u, k, hu, rfl, ?_⟩
    rw [textOf_append, weight_append, ink.weight_tagParts_close, plain_append_replicate,
      weight_append, weight_replicate, hended]
    refine ⟨by omega, fun h => ?_, fun h => ?_⟩
    · obtain rfl : k = 0 := by omega
      have huntagged := htagless (by omega)
      refine ⟨.inr ?_, rfl⟩
      rwa [List.replicate_zero, List.append_nil]
    · obtain ⟨htags, rfl⟩ := h
      have huntagged : Untagged u := by
        simpa using htags.resolve_left Bool.false_ne_true
      exact ⟨rfl, (says_of_untagged huntagged).append (says_text _)⟩

theorem Words.atEnd (w : Words) :
    weight (textOf (partsOf w.written)) ≤ weight (plain w.last) ∧
    (weight (textOf (partsOf w.written)) = weight (plain w.last) → w.Tagless) ∧
    (w.Tagless → Says (partsOf w.written) (plain w.last)) := by
  obtain ⟨t, escaped⟩ := w
  cases escaped with
  | true =>
    have hmeant : Says (partsOf (escape t)) (plain (guardEnd t)) :=
      escape_eq_masked (t := t) ▸ says_masked (guardEnd t)
    have hsaid := congrArg weight hmeant.said
    exact ⟨hsaid.le, fun _ => .inl rfl, fun _ => hmeant⟩
  | false =>
    obtain ⟨hle, htagless⟩ := weight_partsOf t
    exact ⟨hle, fun h => .inr (htagless h),
      fun h => says_of_untagged (h.resolve_left Bool.false_ne_true)⟩

/-! ## Messages -/

/-- Words at the end, or a text and words in a color before a message. -/
inductive Message where
  | tail (w : Words)
  | colored (lead : Text) (free : lead.getLast? ≠ some '\\') (ink : Ink) (w : Words)
      (rest : Message)

namespace Message

/-- How a message is written. -/
def markup : Message → Text
  | tail w => w.written
  | colored lead _ ink w rest =>
    lead ++ ('[' :: (ink.name ++ ']' :: (w.written ++ ('[' :: (ink.close ++ ']' :: rest.markup)))))

/-- What a message is meant to show. -/
def meant : Message → Text
  | tail w => plain w.last
  | colored lead _ _ w rest => plain lead ++ (plain w.text ++ rest.meant)

/-- The message without colors. -/
def literal : Message → Text
  | tail w => w.last
  | colored lead _ _ w rest => lead ++ (w.text ++ rest.literal)

/-- Only the tags of the message itself count. -/
def Clean : Message → Prop
  | tail w => w.Tagless
  | colored lead _ _ w rest => Untagged lead ∧ (w.Tagless ∧ w.Ended) ∧ rest.Clean

theorem partsOf_colored {lead : Text} {free : lead.getLast? ≠ some '\\'} {ink : Ink} {w : Words}
    {rest : Message} {u : Text} {k : Nat} (hu : u.getLast? ≠ some '\\')
    (hw : w.written = u ++ List.replicate k '\\') :
    partsOf (colored lead free ink w rest).markup = partsOf lead ++ ([.text [], .tag ink.name] ++
      (partsOf u ++ tagParts k ink.close ++ partsOf rest.markup)) := by
  have hopen (more : Text) : '[' :: (ink.name ++ ']' :: more) =
      (Piece.tag 0 ink.name).text ++ more := (Piece.text_tag_append (n := 0)).symm
  have hclose : w.written ++ ('[' :: (ink.close ++ ']' :: rest.markup)) =
      u ++ ((Piece.tag k ink.close).text ++ rest.markup) := by
    rw [hw, Piece.text_tag_append, List.append_assoc]
  rw [markup, hclose, hopen, partsOf_append free ink.isInside.1, partsOf_append hu ink.isInside.2,
    List.append_assoc]
  rfl

/-- A message shows no more than it is meant to, and as much only if it is clean. -/
theorem weight_partsOf_markup (m : Message) :
    weight (textOf (partsOf m.markup)) ≤ weight m.meant ∧
      (weight (textOf (partsOf m.markup)) = weight m.meant → m.Clean) := by
  induction m with
  | tail w => exact ⟨w.atEnd.1, w.atEnd.2.1⟩
  | colored lead free ink w rest ih =>
    obtain ⟨u, k, hu, hw, hle, hclean, -⟩ := w.between ink
    obtain ⟨hlead, huntagged⟩ := weight_partsOf lead
    obtain ⟨hrest, hrestclean⟩ := ih
    have hweight : weight (textOf (partsOf (colored lead free ink w rest).markup)) =
        weight (textOf (partsOf lead)) + (weight (textOf (partsOf u ++ tagParts k ink.close)) +
          weight (textOf (partsOf rest.markup))) := by
      rw [partsOf_colored hu hw, textOf_append, weight_append, textOf_append,
        textOf_append (partsOf u ++ tagParts k ink.close), weight_append, weight_append]
      have hnothing : weight (textOf [.text [], .tag ink.name]) = 0 := rfl
      omega
    rw [hweight, meant, weight_append, weight_append]
    exact ⟨by omega, fun h =>
      ⟨huntagged (by omega), hclean (by omega), hrestclean (by omega)⟩⟩

theorem shown_of_clean {m : Message} (h : m.Clean) :
    shownParts [] (partsOf m.markup) = .ok m.meant ∧
      ∀ part ∈ partsOf m.markup, checkPart part = .ok () := by
  induction m with
  | tail w =>
    have hmeant := w.atEnd.2.2 h
    have hshown : shownParts [] (partsOf w.written ++ []) = .ok (plain w.last ++ []) :=
      hmeant.shownParts_append
    rw [List.append_nil, List.append_nil] at hshown
    exact ⟨hshown, hmeant.checked⟩
  | colored lead free ink w rest ih =>
    obtain ⟨u, k, hu, hw, -, -, hsaid⟩ := w.between ink
    obtain ⟨hlead, hwords, hrest⟩ := h
    obtain ⟨hk, hmeant⟩ := hsaid hwords
    obtain ⟨hshown, hchecked⟩ := ih hrest
    have hclose : tagParts k ink.close =
        [.text (List.replicate (k / 2) '\\'), .tag ink.close] := by
      rw [tagParts, if_neg (by omega)]
    have hparts : partsOf (colored lead free ink w rest).markup = (partsOf lead ++ [.text []]) ++
        .tag ink.name :: ((partsOf u ++ [.text (List.replicate (k / 2) '\\')]) ++
          .tag ink.close :: partsOf rest.markup) := by
      rw [partsOf_colored hu hw, hclose]
      simp
    have hfront : Says (partsOf lead ++ [.text []]) (plain lead) :=
      List.append_nil (plain lead) ▸ (says_of_untagged hlead).append (says_text [])
    rw [hparts]
    constructor
    · have hbehind : shownParts [⟨ink.name, none⟩] (.tag ink.close :: partsOf rest.markup) =
          .ok rest.meant := Outcome.bind_eq_ok.mpr ⟨_, ink.openAfter_close, hshown⟩
      have hcolored : shownParts [] (.tag ink.name ::
          ((partsOf u ++ [.text (List.replicate (k / 2) '\\')]) ++
            .tag ink.close :: partsOf rest.markup)) = .ok (plain w.text ++ rest.meant) := by
        refine Outcome.bind_eq_ok.mpr ⟨_, ink.openAfter_name, ?_⟩
        rw [hmeant.shownParts_append, hbehind]
        rfl
      rw [hfront.shownParts_append, hcolored]
      rfl
    · refine List.forall_mem_append.mpr ⟨hfront.checked, ?_⟩
      refine List.forall_mem_cons.mpr ⟨ink.checkPart_name, ?_⟩
      refine List.forall_mem_append.mpr ⟨hmeant.checked, ?_⟩
      exact List.forall_mem_cons.mpr ⟨ink.checkPart_close, hchecked⟩

theorem still_meant_of_inert {m : Message} (h : Inert m.literal) : still m.meant = m.literal := by
  induction m with
  | tail w => exact h.still_plain
  | colored lead free ink w rest ih =>
    have hlead : Inert lead := h.of_infix (List.prefix_append _ _).isInfix
    have hbehind : Inert (w.text ++ rest.literal) := h.of_infix (List.suffix_append _ _).isInfix
    rw [meant, still_append, still_append, hlead.still_plain,
      (hbehind.of_infix (List.prefix_append _ _).isInfix).still_plain,
      ih (hbehind.of_infix (List.suffix_append _ _).isInfix)]
    rfl

/-- A message is shown as it is meant exactly when it is clean. -/
theorem display_markup_iff (m : Message) :
    display m.markup = .ok (still m.meant) ↔ m.Clean := by
  constructor
  · intro h
    have hweight := congrArg weight (eq_textOf_of_display h)
    rw [weight_still, weight_still] at hweight
    exact m.weight_partsOf_markup.2 hweight.symm
  · intro h
    obtain ⟨hshown, hchecked⟩ := shown_of_clean h
    exact display_eq_ok hshown hchecked

/-- A closing tag in a colored text that nothing opened makes the message unreadable. -/
theorem display_of_unmatched {lead : Text} {free : lead.getLast? ≠ some '\\'} {ink : Ink}
    {front name behind : Text} {rest : Message} (hlead : Untagged lead) (hfront : Untagged front)
    (hlast : front.getLast? ≠ some '\\') (hname : IsColorWord name) (hne : name ≠ [])
    (hinside : IsInside ('/' :: name)) (hread : Tag.read ('/' :: name) = ⟨'/' :: name, none⟩)
    (hother : ink.name ≠ name) :
    display (colored lead free ink ⟨front ++ '[' :: '/' :: (name ++ ']' :: behind), false⟩
      rest).markup = .error .tags := by
  have hunmatched : openAfter [⟨ink.name, none⟩] ('/' :: name) = .error .tags := by
    have hclosed : closed? name [⟨ink.name, none⟩] = none := by
      rw [closed?, decide_eq_false hne, Bool.false_or, decide_eq_false hother]
      rfl
    rw [openAfter, hread]
    simp only [hname.stripped, if_neg hne, named_eq_ok hname]
    refine Outcome.bind_eq_error.mpr (.inr ⟨name, rfl, ?_⟩)
    rw [hclosed]
    rfl
  have hmarkup : (colored lead free ink ⟨front ++ '[' :: '/' :: (name ++ ']' :: behind), false⟩
      rest).markup = lead ++ ((Piece.tag 0 ink.name).text ++ (front ++
        ((Piece.tag 0 ('/' :: name)).text ++
          (behind ++ '[' :: (ink.close ++ ']' :: rest.markup))))) := by
    simp [markup, Words.written, Piece.text]
  have hshown : shownParts [] (partsOf (colored lead free ink
      ⟨front ++ '[' :: '/' :: (name ++ ']' :: behind), false⟩ rest).markup) = .error .tags := by
    rw [hmarkup, partsOf_append free ink.isInside.1, partsOf_append hlast hinside,
      List.append_assoc, (says_of_untagged hlead).shownParts_append]
    have hreached (more : List Part) : shownParts [⟨ink.name, none⟩]
        (tagParts 0 ('/' :: name) ++ more) = .error .tags := by
      rw [shownParts_tag, hunmatched]
      rfl
    have hopened (more : List Part) : shownParts [] (tagParts 0 ink.name ++
        (partsOf front ++ tagParts 0 ('/' :: name) ++ more)) = .error .tags := by
      rw [shownParts_tag, ink.openAfter_name, List.append_assoc]
      refine Outcome.bind_eq_error.mpr (.inr ⟨_, rfl, ?_⟩)
      rw [(says_of_untagged hfront).shownParts_append, hreached]
      rfl
    rw [hopened]
    rfl
  exact Outcome.bind_eq_error.mpr (.inl hshown)

end Message

end CatchAll.Console
