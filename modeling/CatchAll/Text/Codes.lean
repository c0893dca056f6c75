import CatchAll.Text.Basic

/-!
# Codes

Characters by their code numbers. Some notations write a character outside of the
first plane as two halves, each with a code of its own; a half alone is none.
-/

set_option autoImplicit false

namespace CatchAll.Text

def isHigh (n : Nat) : Bool := 0xD800 ≤ n && n < 0xDC00

def isLow (n : Nat) : Bool := 0xDC00 ≤ n && n < 0xE000

/-- The largest code. -/
def maxCode : Nat := 0x10FFFF

/-- A half alone becomes the replacement character. -/
def ofCode (n : Nat) : Char :=
  if isHigh n || isLow n then Char.ofNat 0xFFFD else Char.ofNat n

/-- The characters with the given codes; two halves become one character. -/
def ofCodes : List Nat → Text
  | high :: low :: rest =>
    if isHigh high && isLow low then
      Char.ofNat (0x10000 + (high - 0xD800) * 0x400 + (low - 0xDC00)) :: ofCodes rest
    else ofCode high :: ofCodes (low :: rest)
  | [n] => [ofCode n]
  | [] => []

def hexValue? (c : Char) : Option Nat :=
  if '0' ≤ c && c ≤ '9' then some (c.toNat - '0'.toNat)
  else if 'a' ≤ c && c ≤ 'f' then some (c.toNat - 'a'.toNat + 10)
  else if 'A' ≤ c && c ≤ 'F' then some (c.toNat - 'A'.toNat + 10)
  else none

def isHexDigit (c : Char) : Bool := (hexValue? c).isSome

/-- The number that hexadecimal digits write. -/
def hexNumber (t : Text) : Nat := t.foldl (fun n c => 16 * n + (hexValue? c).getD 0) 0

end CatchAll.Text
