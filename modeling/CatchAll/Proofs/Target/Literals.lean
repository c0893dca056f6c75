import CatchAll.Proofs.Naming.Identifier
import CatchAll.Proofs.Text.LiteralGrammar
import CatchAll.Target.PythonNames
import CatchAll.Target.RustNames
import Mathlib.Tactic.SplitIfs

/-!
# Literals of the two languages

Every text is what its literal stands for, by the escapes of the language and
whatever the printable characters are taken to be, and a literal stays on its
line. Besides literals, code is read by its fixed words and by names. To let the
printable characters vary, a literal is written with a test for them; the literal of
the language is the one with its own test.
-/

set_option autoImplicit false

namespace CatchAll.Target

open scoped Text
open Naming Text.Literal

/-- The name at the start of a text, and what follows it. -/
def cutName (t : Text) : Text × Text := (t.takeWhile isNameChar, t.dropWhile isNameChar)

theorem cutName_append {name : Text} (h : ∀ c ∈ name, isNameChar c = true) {rest : Text}
    (hrest : ∀ c, rest.head? = some c → isNameChar c = false) :
    cutName (name ++ rest) = (name, rest) := by
  have htake : rest.takeWhile isNameChar = [] := by
    cases rest with
    | nil => rfl
    | cons c rest => rw [List.takeWhile_cons_of_neg (by simp [hrest c rfl])]
  have hdrop : rest.dropWhile isNameChar = rest := by
    cases rest with
    | nil => rfl
    | cons c rest => rw [List.dropWhile_cons_of_neg (by simp [hrest c rfl])]
  rw [cutName, List.takeWhile_append_of_pos h, List.dropWhile_append_of_pos h, htake, hdrop,
    List.append_nil]

theorem dropPrefix?_append {α : Type} [BEq α] [LawfulBEq α] (before after : List α) :
    (before ++ after).dropPrefix? before = some after := by
  rw [List.dropPrefix?_eq_some_iff]
  exact ⟨before, rfl, by simp⟩

/-! ## Lists of literals -/

/-- The texts of a list of literals, up to what closes it. -/
def readLiterals (escapes : Escapes) (closing : Text) : Nat → Text → Option (List Text)
  | 0, _ => none
  | fuel + 1, t => do
    let (value, rest) ← unquote? escapes t
    match rest.dropPrefix? ", " with
    | some rest => return value :: (← readLiterals escapes closing fuel rest)
    | none => if rest = closing then return [value] else none

section

variable {escapes : Escapes} {literal : Text → Text} {closing : Text}
  (hliteral : ∀ t rest, unquote? escapes (literal t ++ rest) = some (t, rest))
  (hclosing : closing.dropPrefix? ", " = none)
include hliteral

theorem literal_ne_nil (t : Text) : literal t ≠ [] := by
  intro hnil
  have hread := hliteral t []
  rw [hnil] at hread
  cases hread

theorem length_le_joinWith (ts : List Text) :
    ts.length ≤ (Text.joinWith ", " (ts.map literal)).length := by
  induction ts with
  | nil => exact Nat.zero_le _
  | cons t ts ih =>
    have hone : 1 ≤ (literal t).length := List.length_pos_iff.mpr (literal_ne_nil hliteral t)
    cases ts with
    | nil => simpa [Text.joinWith] using hone
    | cons u ts =>
      rw [List.map_cons, List.map_cons, Text.joinWith_cons_cons]
      simp only [List.map_cons, List.length_cons, List.length_append] at ih ⊢
      omega

include hclosing in
theorem readLiterals_of_le {ts : List Text} (hne : ts ≠ []) {fuel : Nat}
    (hfuel : ts.length ≤ fuel) :
    readLiterals escapes closing fuel (Text.joinWith ", " (ts.map literal) ++ closing) =
      some ts := by
  induction ts generalizing fuel with
  | nil => exact absurd rfl hne
  | cons t ts ih =>
    cases fuel with
    | zero => cases hfuel
    | succ fuel =>
      cases ts with
      | nil =>
        have hone : Text.joinWith ", " ([t].map literal) = literal t := by simp [Text.joinWith]
        rw [hone, readLiterals, hliteral, Option.bind_eq_bind, Option.bind_some]
        dsimp only
        rw [hclosing]
        exact if_pos rfl
      | cons u ts =>
        have hmore := ih (List.cons_ne_nil u ts) (Nat.le_of_succ_le_succ hfuel)
        rw [List.map_cons] at hmore
        rw [List.map_cons, List.map_cons, Text.joinWith_cons_cons, List.append_assoc,
          List.append_assoc, readLiterals, hliteral, Option.bind_eq_bind, Option.bind_some]
        dsimp only
        rw [dropPrefix?_append]
        dsimp only
        rw [hmore]
        rfl

include hclosing in
/-- As many rounds as there are characters are enough. -/
theorem readLiterals_joinWith {ts : List Text} (hne : ts ≠ []) :
    readLiterals escapes closing (Text.joinWith ", " (ts.map literal) ++ closing).length
      (Text.joinWith ", " (ts.map literal) ++ closing) = some ts := by
  refine readLiterals_of_le hliteral hclosing hne ?_
  rw [List.length_append]
  exact Nat.le_add_right_of_le (length_le_joinWith hliteral ts)

end

/-! ## Literals -/

namespace Rust

def escapes : Escapes
  | '\\' => some (.char '\\')
  | '"' => some (.char '"')
  | 'n' => some (.char '\n')
  | 'r' => some (.char '\r')
  | 't' => some (.char '\t')
  | '0' => some (.char (Char.ofNat 0))
  | 'u' => some .braced
  | _ => none

/-- How a character is written when these are the printable ones. -/
def literalCharBy (printable : Char → Bool) (c : Char) : Text :=
  if c = '\\' then ['\\', '\\']
  else if c = '"' then ['\\', '"']
  else if c = '\n' then ['\\', 'n']
  else if c = '\r' then ['\\', 'r']
  else if c = '\t' then ['\\', 't']
  else if c = Char.ofNat 0 then ['\\', '0']
  else if printable c then [c]
  else ['\\', 'u', '{'] ++ Nat.toDigits 16 c.toNat ++ ['}']

def literalBy (printable : Char → Bool) : Text → Text := enclosed (literalCharBy printable)

theorem literalBy_isPrintable : literalBy Text.isPrintable = literal := rfl

theorem piece_literalCharBy (printable : Char → Bool) (c : Char) :
    Piece escapes (literalCharBy printable c) c := by
  rw [literalCharBy]
  split_ifs with hslash hquote hfeed hreturn htab hzero hprintable
  · subst hslash
    exact piece_letter rfl rfl
  · subst hquote
    exact piece_letter rfl rfl
  · subst hfeed
    exact piece_letter rfl rfl
  · subst hreturn
    exact piece_letter rfl rfl
  · subst htab
    exact piece_letter rfl rfl
  · subst hzero
    exact piece_letter rfl rfl
  · exact piece_itself (isPlain_iff.mpr ⟨⟨hquote, hslash⟩, isLineEnd_iff.mpr ⟨hfeed, hreturn⟩⟩)
  · exact piece_braced rfl rfl

theorem unquote?_literal (t rest : Text) :
    unquote? escapes (literal t ++ rest) = some (t, rest) :=
  unquote?_enclosed (piece_literalCharBy Text.isPrintable) t rest

theorem lineFeed_not_mem_literal (t : Text) : '\n' ∉ literal t := by
  intro hmem
  have hend := not_isLineEnd_enclosed (piece_literalCharBy Text.isPrintable) t '\n' hmem
  exact absurd hend (by decide)

/-- Whatever characters count as printable, each text is on one line between two quotes, no
other quote could end it, and by the escapes of the language it is the only text that its
literal spells. -/
theorem braced_literals_faithful (printable : Char → Bool) :
    Faithful escapes (literalBy printable) ∧ literalBy Text.isPrintable = literal :=
  ⟨faithful_enclosed (piece_literalCharBy printable), literalBy_isPrintable⟩

/-- A code in front of digits and of a brace. -/
example : literalBy Char.isAlphanum "\u00017\x7f\x7d".toList =
    "\"\\u\x7b1\x7d7\\u\x7b7f\x7d\\u\x7b7d\x7d\"".toList := by decide

end Rust

namespace Python

def escapes : Escapes
  | '\\' => some (.char '\\')
  | '"' => some (.char '"')
  | 'n' => some (.char '\n')
  | 'r' => some (.char '\r')
  | 't' => some (.char '\t')
  | 'x' => some (.digits 2)
  | 'u' => some (.digits 4)
  | 'U' => some (.digits 8)
  | _ => none

/-- How a character is written when these are the printable ones. -/
def literalCharBy (printable : Char → Bool) (c : Char) : Text :=
  if c = '\\' then ['\\', '\\']
  else if c = '"' then ['\\', '"']
  else if c = '\n' then ['\\', 'n']
  else if c = '\r' then ['\\', 'r']
  else if c = '\t' then ['\\', 't']
  else if printable c then [c]
  else Text.codeEscape c

def literalBy (printable : Char → Bool) : Text → Text := enclosed (literalCharBy printable)

theorem literalBy_isPrintable : literalBy Text.isPrintable = literal := rfl

theorem escapes_code {mark : Char} {width : Nat} (h : (mark, width) ∈ codeMarks) :
    escapes mark = some (.digits width) ∧ isLineEnd mark = false := by
  simp only [codeMarks, List.mem_cons, List.not_mem_nil, or_false, Prod.mk.injEq] at h
  rcases h with ⟨rfl, rfl⟩ | ⟨rfl, rfl⟩ | ⟨rfl, rfl⟩ <;> exact ⟨rfl, rfl⟩

theorem piece_codeEscape (c : Char) : Piece escapes (Text.codeEscape c) c := by
  obtain ⟨mark, width, hmark, hwidth, hc, hescape⟩ := codeEscape_eq c
  obtain ⟨hdigits, hline⟩ := escapes_code hmark
  rw [hescape]
  exact piece_hex hdigits hline hwidth hc

theorem piece_literalCharBy (printable : Char → Bool) (c : Char) :
    Piece escapes (literalCharBy printable c) c := by
  rw [literalCharBy]
  split_ifs with hslash hquote hfeed hreturn htab hprintable
  · subst hslash
    exact piece_letter rfl rfl
  · subst hquote
    exact piece_letter rfl rfl
  · subst hfeed
    exact piece_letter rfl rfl
  · subst hreturn
    exact piece_letter rfl rfl
  · subst htab
    exact piece_letter rfl rfl
  · exact piece_itself (isPlain_iff.mpr ⟨⟨hquote, hslash⟩, isLineEnd_iff.mpr ⟨hfeed, hreturn⟩⟩)
  · exact piece_codeEscape c

theorem unquote?_literal (t rest : Text) :
    unquote? escapes (literal t ++ rest) = some (t, rest) :=
  unquote?_enclosed (piece_literalCharBy Text.isPrintable) t rest

theorem lineFeed_not_mem_literal (t : Text) : '\n' ∉ literal t := by
  intro hmem
  have hend := not_isLineEnd_enclosed (piece_literalCharBy Text.isPrintable) t '\n' hmem
  exact absurd hend (by decide)

/-- Whatever characters count as printable, each text is on one line between two quotes, no
other quote could end it, and by the escapes of the language it is the only text that its
literal spells. -/
theorem fixed_width_literals_faithful (printable : Char → Bool) :
    Faithful escapes (literalBy printable) ∧ literalBy Text.isPrintable = literal :=
  ⟨faithful_enclosed (piece_literalCharBy printable), literalBy_isPrintable⟩

/-- A code in front of digits, and codes at the ends of their widths. -/
example : literalBy (fun c => c.isAlphanum) ['\x01', '7', '\u00ff', '\u0100'] =
    "\"\\x017\\xff\\u0100\"".toList := by decide

end Python

end CatchAll.Target
