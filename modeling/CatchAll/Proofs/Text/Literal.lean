import CatchAll.Text.Codes
import CatchAll.Text.Quoted

/-!
# Reading string literals

What a language makes of the text between two double quotes: every character
stands for itself, but a backslash begins an escape. The languages differ in
their escapes only, so the reader takes a table of them. A literal that spans
lines, an unknown escape and the code of no character are refused.
-/

set_option autoImplicit false

namespace CatchAll.Text.Literal

open scoped Text

/-- What follows a backslash: a letter for a character, or a code in hexadecimal digits,
a fixed number of them or up to six between braces. -/
inductive Escape where
  | char (c : Char)
  | digits (width : Nat)
  | braced

abbrev Escapes := Char → Option Escape

/-- What the pass over the characters is inside of. -/
inductive Mode where
  | plain
  | escape
  | digits (left value : Nat)
  | opening
  | braced (count value : Nat)

def char? (n : Nat) : Option Char := if n.isValidChar then some (Char.ofNat n) else none

/-- One character before what is read next. -/
def prepend (c : Char) (next : Option (Text × Text)) : Option (Text × Text) :=
  next.map fun read => (c :: read.1, read.2)

/-- The text up to the closing quote, and what follows the quote. -/
def read (escapes : Escapes) : Mode → Text → Option (Text × Text)
  | _, [] => none
  | .plain, c :: rest =>
    if c = '"' then some ([], rest)
    else if c = '\\' then read escapes .escape rest
    else if c = '\n' || c = '\r' then none
    else prepend c (read escapes .plain rest)
  | .escape, c :: rest =>
    match escapes c with
    | some (.char d) => prepend d (read escapes .plain rest)
    | some (.digits width) => read escapes (.digits width 0) rest
    | some .braced => read escapes .opening rest
    | none => none
  | .digits left value, c :: rest => do
    let value := 16 * value + (← hexValue? c)
    if left > 1 then read escapes (.digits (left - 1) value) rest
    else prepend (← char? value) (read escapes .plain rest)
  | .opening, c :: rest => if c = '{' then read escapes (.braced 0 0) rest else none
  | .braced count value, c :: rest =>
    if c = '}' then do
      if count = 0 then none else prepend (← char? value) (read escapes .plain rest)
    else do
      let value := 16 * value + (← hexValue? c)
      if count < 6 then read escapes (.braced (count + 1) value) rest else none

/-- The text that a literal at the start of a text stands for, and what follows it. -/
def unquote? (escapes : Escapes) : Text → Option (Text × Text)
  | '"' :: rest => read escapes .plain rest
  | _ => none

/-! ## Codes in hexadecimal digits -/

theorem hexValue?_digitChar {d : Nat} (hd : d < 16) : hexValue? (Nat.digitChar d) = some d := by
  have hall : ∀ d : Fin 16, hexValue? (Nat.digitChar d) = some d.val := by decide
  exact hall ⟨d, hd⟩

theorem hexNumber_append (t u : Text) :
    hexNumber (t ++ u) = u.foldl (fun n c => 16 * n + (hexValue? c).getD 0) (hexNumber t) := by
  rw [hexNumber, hexNumber, List.foldl_append]

theorem hexNumber_toDigits (n : Nat) : hexNumber (Nat.toDigits 16 n) = n := by
  induction n using Nat.base_induction 16 (by decide) with
  | single d hd => simp [Nat.toDigits_of_lt_base hd, hexNumber, hexValue?_digitChar hd]
  | digit m d hd hm ih =>
    rw [← Nat.toDigits_append_toDigits (by decide) hm hd, hexNumber_append, ih,
      Nat.toDigits_of_lt_base hd]
    simp [hexValue?_digitChar hd]

theorem isHexDigit_of_mem_toDigits {n : Nat} {c : Char} (h : c ∈ Nat.toDigits 16 n) :
    isHexDigit c = true := by
  induction n using Nat.base_induction 16 (by decide) with
  | single d hd =>
    rw [Nat.toDigits_of_lt_base hd, List.mem_singleton] at h
    rw [h, isHexDigit, hexValue?_digitChar hd, Option.isSome_some]
  | digit m d hd hm ih =>
    rw [← Nat.toDigits_append_toDigits (by decide) hm hd, Nat.toDigits_of_lt_base hd,
      List.mem_append, List.mem_singleton] at h
    rcases h with h | rfl
    · exact ih h
    · rw [isHexDigit, hexValue?_digitChar hd, Option.isSome_some]

theorem isHexDigit_of_mem_hex {width n : Nat} {c : Char} (h : c ∈ hex width n) :
    isHexDigit c = true := by
  rcases List.mem_append.mp h with h | h
  · rw [List.eq_of_mem_replicate h]
    decide
  · exact isHexDigit_of_mem_toDigits h

theorem hexNumber_hex (width n : Nat) : hexNumber (hex width n) = n := by
  have hzeros : ∀ k, hexNumber (List.replicate k '0') = 0 := by
    intro k
    induction k with
    | zero => rfl
    | succ k ih =>
      rw [List.replicate_succ', hexNumber_append, ih]
      rfl
  rw [hex, hexNumber_append, hzeros]
  exact hexNumber_toDigits n

theorem length_hex {width n : Nat} (hwidth : 0 < width) (hn : n < Nat.pow 16 width) :
    (hex width n).length = width := by
  have hlength := (Nat.length_toDigits_le_iff (b := 16) (n := n) (by decide) hwidth).mpr hn
  rw [hex, List.length_append, List.length_replicate]
  omega

theorem char?_toNat (c : Char) : char? c.toNat = some c := by
  have hvalid : c.toNat.isValidChar := c.valid
  rw [char?, if_pos hvalid, Char.ofNat_toNat]

theorem toNat_lt (c : Char) : c.toNat < 0x110000 := by
  have hvalid : c.toNat.isValidChar := c.valid
  rcases hvalid with h | h <;> omega

/-- The marks of the escapes that write a code, each with the number of its digits. -/
def codeMarks : List (Char × Nat) := [('x', 2), ('u', 4), ('U', 8)]

/-- The digits of a code have room behind the mark that is chosen for it. -/
theorem codeEscape_eq (c : Char) : ∃ mark width, (mark, width) ∈ codeMarks ∧ 0 < width ∧
    c.toNat < Nat.pow 16 width ∧ codeEscape c = '\\' :: mark :: hex width c.toNat := by
  have hbound := toNat_lt c
  rw [codeEscape]
  split
  · exact ⟨'x', 2, by decide, by decide, by simp; omega, rfl⟩
  split
  · exact ⟨'u', 4, by decide, by decide, by simp; omega, rfl⟩
  · exact ⟨'U', 8, by decide, by decide, by simp; omega, rfl⟩

/-! ## Codes read back -/

/-- The digits of a code, the last of which ends the escape. -/
theorem read_digits (escapes : Escapes) {c : Char} {digits : Text}
    (hdigits : ∀ d ∈ digits, isHexDigit d = true) (hsome : digits ≠ []) (value : Nat)
    (tail : Text)
    (hvalue : digits.foldl (fun n d => 16 * n + (hexValue? d).getD 0) value = c.toNat) :
    read escapes (.digits digits.length value) (digits ++ tail) =
      prepend c (read escapes .plain tail) := by
  induction digits generalizing value with
  | nil => exact absurd rfl hsome
  | cons d digits ih =>
    obtain ⟨v, hv⟩ := Option.isSome_iff_exists.mp (hdigits d (by simp))
    rw [List.foldl_cons, hv, Option.getD_some] at hvalue
    cases digits with
    | nil =>
      rw [List.foldl_nil] at hvalue
      simp [read, hv, hvalue, char?_toNat]
    | cons d' digits =>
      have hlonger : (d :: d' :: digits).length > 1 := by simp
      have hnext := ih (fun e he => hdigits e (List.mem_cons_of_mem d he)) (by simp) _ hvalue
      simpa [read, hv, hlonger] using hnext

/-- The digits of a code between braces, of which six have room. -/
theorem read_braced (escapes : Escapes) {c : Char} {digits : Text}
    (hdigits : ∀ d ∈ digits, isHexDigit d = true) (count value : Nat)
    (hsome : 0 < count + digits.length) (hroom : count + digits.length ≤ 6) (tail : Text)
    (hvalue : digits.foldl (fun n d => 16 * n + (hexValue? d).getD 0) value = c.toNat) :
    read escapes (.braced count value) (digits ++ '}' :: tail) =
      prepend c (read escapes .plain tail) := by
  induction digits generalizing count value with
  | nil =>
    rw [List.length_nil] at hsome
    have hcount : count ≠ 0 := by omega
    rw [List.foldl_nil] at hvalue
    simp [read, hcount, hvalue, char?_toNat]
  | cons d digits ih =>
    rw [List.length_cons] at hsome hroom
    have hd := hdigits d (by simp)
    obtain ⟨v, hv⟩ := Option.isSome_iff_exists.mp hd
    have hbrace : d ≠ '}' := by
      rintro rfl
      exact absurd hd (by decide)
    rw [List.foldl_cons, hv, Option.getD_some] at hvalue
    have hnext := ih (fun e he => hdigits e (List.mem_cons_of_mem d he)) (count + 1) _ (by omega)
      (by omega) hvalue
    have hfits : count < 6 := by omega
    simpa [read, hv, hbrace, hfits] using hnext

end CatchAll.Text.Literal
