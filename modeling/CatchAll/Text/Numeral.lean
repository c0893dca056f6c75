import CatchAll.Text.Basic

/-!
# Numerals

Digits at the start of a text, with single underscores between them, and the
exponents that follow them.
-/

set_option autoImplicit false

namespace CatchAll.Text

/-- Digits of a kind without their underscores, and what follows. An underscore comes
before the first digit only if something else stands before it. -/
def cutDigits (isDigit : Char → Bool) (inside : Bool) : Text → Text × Text
  | '_' :: c :: rest =>
    if inside && isDigit c then
      let (digits, rest) := cutDigits isDigit true rest
      (c :: digits, rest)
    else ([], '_' :: c :: rest)
  | c :: rest =>
    if isDigit c then
      let (digits, rest) := cutDigits isDigit true rest
      (c :: digits, rest)
    else ([], c :: rest)
  | [] => ([], [])

/-- The sign of an exponent, whether it is negative, and what follows. -/
def cutSign : Text → Bool × Text
  | '-' :: rest => (true, rest)
  | '+' :: rest => (false, rest)
  | rest => (false, rest)

/-- An exponent, whether it is negative and its digits, and what follows. A mark without
digits is no exponent. -/
def cutExponent (t : Text) : Option (Bool × Text) × Text :=
  match t with
  | e :: rest =>
    let (negative, rest) := cutSign rest
    let (digits, rest) := cutDigits Char.isDigit false rest
    if (e = 'e' || e = 'E') && !digits.isEmpty then (some (negative, digits), rest)
    else (none, t)
  | [] => (none, t)

end CatchAll.Text
