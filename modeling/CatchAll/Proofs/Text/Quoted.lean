import CatchAll.Proofs.Text.Literal

/-!
# Reading quoted text

A message that quotes a text says which text it is. Every character is quoted by
something that tells it from all others, and a mark inside of a quoted text stands
behind a backslash. So a quoted text is found where it begins, and also at the end of
a message when a blank stands before it.
-/

set_option autoImplicit false

namespace CatchAll.Text

open scoped Text
open Literal (hexNumber_hex length_hex isHexDigit_of_mem_hex codeMarks codeEscape_eq)

/-! ## Characters -/

/-- The character with a code of so many digits, and what follows it. -/
def readCode (width : Nat) (t : Text) : Char × Text :=
  (Char.ofNat (hexNumber (t.take width)), t.drop width)

/-- What stands behind a backslash. -/
def readEscape : Text → Option (Char × Text)
  | [] => none
  | 'n' :: rest => some ('\n', rest)
  | 'r' :: rest => some ('\r', rest)
  | 't' :: rest => some ('\t', rest)
  | 'x' :: rest => some (readCode 2 rest)
  | 'u' :: rest => some (readCode 4 rest)
  | 'U' :: rest => some (readCode 8 rest)
  | c :: rest => some (c, rest)

/-- The character that a quoted text goes on with, and what follows it. -/
def readQuotedChar : Text → Option (Char × Text)
  | [] => none
  | c :: rest => if c = '\\' then readEscape rest else some (c, rest)

/-- What stands around a quoted text. -/
def IsMark (mark : Char) : Prop := mark = '\'' ∨ mark = '"'

theorem isMark_quoteMark (t : Text) : IsMark (quoteMark t) := by
  rw [quoteMark]
  split
  · exact .inr rfl
  · exact .inl rfl

theorem IsMark.ne_backslash {mark : Char} (h : IsMark mark) : mark ≠ '\\' := by
  rcases h with rfl | rfl <;> decide

theorem readCode_hex {width : Nat} {c : Char} (hwidth : 0 < width)
    (hc : c.toNat < Nat.pow 16 width) (rest : Text) :
    readCode width (hex width c.toNat ++ rest) = (c, rest) := by
  have hlength := length_hex hwidth hc
  rw [readCode, List.take_left' hlength, List.drop_left' hlength, hexNumber_hex, Char.ofNat_toNat]

theorem readEscape_code {mark : Char} {width : Nat} (h : (mark, width) ∈ codeMarks) (t : Text) :
    readEscape (mark :: t) = some (readCode width t) := by
  simp only [codeMarks, List.mem_cons, List.not_mem_nil, or_false, Prod.mk.injEq] at h
  rcases h with ⟨rfl, rfl⟩ | ⟨rfl, rfl⟩ | ⟨rfl, rfl⟩ <;> rfl

theorem readQuotedChar_codeEscape (c : Char) (rest : Text) :
    readQuotedChar (codeEscape c ++ rest) = some (c, rest) := by
  obtain ⟨mark, width, hmark, hwidth, hc, hescape⟩ := codeEscape_eq c
  rw [hescape, List.cons_append, List.cons_append, readQuotedChar, if_pos rfl,
    readEscape_code hmark, readCode_hex hwidth hc]

theorem readQuotedChar_quotedChar {mark : Char} (hmark : IsMark mark) (c : Char) (rest : Text) :
    readQuotedChar (quotedChar mark c ++ rest) = some (c, rest) := by
  rw [quotedChar]
  split
  · rename_i hself
    rw [Bool.or_eq_true, decide_eq_true_eq, decide_eq_true_eq] at hself
    rcases hself with rfl | rfl
    · rfl
    · rcases hmark with rfl | rfl <;> rfl
  rename_i hself
  split
  · rename_i h
    rw [h]
    rfl
  split
  · rename_i h
    rw [h]
    rfl
  split
  · rename_i h
    rw [h]
    rfl
  split
  · have hslash : c ≠ '\\' := fun h => hself (by simp [h])
    rw [List.singleton_append, readQuotedChar, if_neg hslash]
  · exact readQuotedChar_codeEscape c rest

theorem mark_not_mem_codeEscape {mark : Char} (hmark : IsMark mark) (c : Char) :
    mark ∉ codeEscape c := by
  obtain ⟨letter, width, hletter, -, -, hescape⟩ := codeEscape_eq c
  have hother : isHexDigit mark = false ∧ mark ≠ '\\' ∧ ∀ p ∈ codeMarks, mark ≠ p.1 := by
    rcases hmark with rfl | rfl <;> decide
  rw [hescape, List.mem_cons, List.mem_cons, not_or, not_or]
  refine ⟨hother.2.1, hother.2.2 _ hletter, fun hmem => ?_⟩
  rw [isHexDigit_of_mem_hex hmem] at hother
  cases hother.1

/-- A mark is quoted with a backslash, and nothing else has one in it. -/
theorem mark_mem_quotedChar {mark c : Char} (hmark : IsMark mark) (h : mark ∈ quotedChar mark c) :
    quotedChar mark c = ['\\', mark] := by
  have hother : mark ∉ ['\\', 'n'] ∧ mark ∉ ['\\', 'r'] ∧ mark ∉ ['\\', 't'] := by
    rcases hmark with rfl | rfl <;> decide
  rw [quotedChar] at h ⊢
  split at h
  · rename_i hself
    rw [if_pos hself]
    rw [List.mem_cons, List.mem_singleton] at h
    rcases h with rfl | rfl
    · exact absurd List.mem_cons_self hother.1
    · rfl
  rename_i hself
  split at h
  · exact absurd h hother.1
  split at h
  · exact absurd h hother.2.1
  split at h
  · exact absurd h hother.2.2
  split at h
  · obtain rfl := List.mem_singleton.mp h
    exact absurd (by simp) hself
  · exact absurd h (mark_not_mem_codeEscape hmark c)

/-! ## Texts -/

/-- What stands between the marks. -/
def inner (mark : Char) (t : Text) : Text := t.flatMap (quotedChar mark)

theorem quoted_eq (t : Text) :
    quoted t = quoteMark t :: (inner (quoteMark t) t ++ [quoteMark t]) := rfl

/-- Before a mark inside of a quoted text there is a backslash. -/
theorem getLast?_before_mark {mark : Char} (hmark : IsMark mark) {t front rest : Text}
    (h : inner mark t = front ++ mark :: rest) : front.getLast? = some '\\' := by
  induction t generalizing front with
  | nil => exact absurd h.symm (by simp [inner])
  | cons c t ih =>
    have hsplit : quotedChar mark c ++ inner mark t = front ++ mark :: rest := h
    rcases List.append_eq_append_iff.mp hsplit with ⟨more, rfl, hmore⟩ | ⟨more, hchar, hmore⟩
    · rw [List.getLast?_append, ih hmore]
      rfl
    · cases more with
      | nil =>
        have hnone : ([] : Text).getLast? = some '\\' := ih hmore.symm
        cases hnone
      | cons c' more =>
        obtain rfl : mark = c' := (List.cons.inj hmore).1
        have hmem : mark ∈ quotedChar mark c := hchar ▸ by simp
        rw [mark_mem_quotedChar hmark hmem] at hchar
        match front, hchar with
        | [], hchar => exact absurd (List.cons.inj hchar).1.symm hmark.ne_backslash
        | [c], hchar => exact congrArg some (List.cons.inj hchar).1.symm
        | c :: c' :: front, hchar => exact absurd (congrArg List.length hchar) (by simp)

theorem inner_append_inj {mark : Char} (hmark : IsMark mark) {a b s t : Text}
    (h : inner mark a ++ mark :: s = inner mark b ++ mark :: t) : a = b ∧ s = t := by
  -- a text that goes on is told from one that has ended
  have hgoesOn {c : Char} {a s t : Text} : mark :: s ≠ inner mark (c :: a) ++ t := by
    intro heq
    have hquoted : mark :: s = quotedChar mark c ++ (inner mark a ++ t) :=
      heq.trans (List.append_assoc ..)
    have hread := congrArg readQuotedChar hquoted
    rw [readQuotedChar_quotedChar hmark, readQuotedChar, if_neg hmark.ne_backslash] at hread
    obtain rfl : mark = c := congrArg Prod.fst (Option.some.inj hread)
    rw [quotedChar, if_pos (by simp)] at hquoted
    exact hmark.ne_backslash (List.cons.inj hquoted).1
  induction a generalizing b with
  | nil =>
    cases b with
    | nil => exact ⟨rfl, (List.cons.inj h).2⟩
    | cons c b => exact absurd h hgoesOn
  | cons c a ih =>
    cases b with
    | nil => exact absurd h.symm hgoesOn
    | cons c' b =>
      have hread := congrArg readQuotedChar h
      rw [inner, inner, List.flatMap_cons, List.flatMap_cons, List.append_assoc,
        List.append_assoc, readQuotedChar_quotedChar hmark,
        readQuotedChar_quotedChar hmark] at hread
      obtain ⟨rfl, hrest⟩ := Prod.mk.inj (Option.some.inj hread)
      obtain ⟨rfl, rfl⟩ := ih hrest
      exact ⟨rfl, rfl⟩

/-- A quoted text is found where it begins. -/
theorem quoted_append_inj {a b s t : Text} (h : quoted a ++ s = quoted b ++ t) :
    a = b ∧ s = t := by
  rw [quoted_eq, quoted_eq, List.cons_append, List.cons_append] at h
  obtain ⟨hmark, h⟩ := List.cons.inj h
  rw [hmark, List.append_assoc, List.append_assoc] at h
  exact inner_append_inj (isMark_quoteMark b) h

/-- The end of a quoted text has no blank with a mark behind it. -/
theorem eq_nil_of_inner {mark : Char} (hmark : IsMark mark) {a s t more rest : Text}
    (hinner : inner mark a = more ++ rest) (h : t ++ [' ', mark] = s ++ more) : more = [] := by
  rcases List.eq_nil_or_concat more with rfl | ⟨before, c, rfl⟩
  · rfl
  · have hlines : (t ++ [' ']) ++ [mark] = (s ++ before) ++ [c] := by
      simpa using h
    obtain ⟨hbefore, hlast⟩ := List.append_inj' hlines rfl
    obtain rfl : mark = c := (List.cons.inj hlast).1
    have hslash : before.getLast? = some '\\' := by
      rw [List.concat_eq_append, List.append_assoc] at hinner
      exact getLast?_before_mark hmark hinner
    have hend := congrArg List.getLast? hbefore
    rw [List.getLast?_append, List.getLast?_append, hslash] at hend
    exact absurd (Option.some.inj hend) (by decide)

/-- A quoted text behind a blank is found where it ends. -/
theorem append_quoted_inj {a b s t : Text} (h : s ++ ' ' :: quoted a = t ++ ' ' :: quoted b) :
    s = t ∧ a = b := by
  have hsplit (s a : Text) : s ++ ' ' :: quoted a =
      ((s ++ [' ', quoteMark a]) ++ inner (quoteMark a) a) ++ [quoteMark a] := by
    rw [quoted_eq]
    simp
  rw [hsplit, hsplit] at h
  obtain ⟨h, hmark⟩ := List.append_inj' h rfl
  have hsame : quoteMark a = quoteMark b := (List.cons.inj hmark).1
  have hb := isMark_quoteMark b
  rw [hsame] at h
  have hinner : s ++ [' ', quoteMark b] = t ++ [' ', quoteMark b] ∧
      inner (quoteMark b) a = inner (quoteMark b) b := by
    rcases List.append_eq_append_iff.mp h with ⟨more, hfront, hinner⟩ | ⟨more, hfront, hinner⟩
    · obtain rfl := eq_nil_of_inner hb hinner hfront
      exact ⟨by simpa using hfront.symm, hinner⟩
    · obtain rfl := eq_nil_of_inner hb hinner hfront
      exact ⟨by simpa using hfront, hinner.symm⟩
  have hwhole : inner (quoteMark b) a ++ [quoteMark b] =
      inner (quoteMark b) b ++ [quoteMark b] := by
    rw [hinner.2]
  exact ⟨List.append_cancel_right hinner.1, (inner_append_inj hb hwhole).1⟩

end CatchAll.Text
