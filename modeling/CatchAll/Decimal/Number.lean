import CatchAll.Decimal.Shortest
import CatchAll.Text.Basic

/-!
# Written numbers

The text of a double precision number: the shortest digits that read back,
positional from `10^-4` up to `10^16` and with an exponent of at least two
digits outside, always with a fraction or an exponent.
-/

set_option autoImplicit false

namespace CatchAll.Decimal

open CatchAll.Text

/-- The parts of a finite double other than zero: sign apart, `m · 2^q`. -/
def decode (f : Float) : Nat × Int × Bool :=
  let bits := f.toBits.toNat
  let fraction : Nat := bits % Nat.pow 2 52
  let field : Nat := bits / Nat.pow 2 52 % Nat.pow 2 11
  if field == 0 then (fraction, -1074, false)
  else (fraction + Nat.pow 2 52, (field : Int) - 1075, fraction == 0 && field != 1)

def isNegative (f : Float) : Bool := f.toBits.toNat / Nat.pow 2 63 == 1

def shortest (f : Float) : Digits :=
  let (m, q, narrowBelow) := decode f
  (Interval.ofBinary m q narrowBelow).shortest

def exponentText (e : Int) : Text :=
  let digits := Text.ofNat e.natAbs
  let padded := if digits.length < 2 then '0' :: digits else digits
  (if e < 0 then '-' else '+') :: padded

/-- Where positional notation ends is the rule of this format. -/
def Digits.text (d : Digits) : Text :=
  let n := d.digits.length
  if -4 < d.exponent && d.exponent ≤ 16 then
    if d.exponent ≤ 0 then
      "0." ++ List.replicate (-d.exponent).toNat '0' ++ d.digits
    else
      let whole := d.exponent.toNat
      if n ≤ whole then d.digits ++ List.replicate (whole - n) '0' ++ ".0"
      else d.digits.take whole ++ "." ++ d.digits.drop whole
  else
    let head := d.digits.take 1
    let rest := d.digits.drop 1
    head ++ (if rest.isEmpty then [] else '.' :: rest) ++ "e" ++ exponentText (d.exponent - 1)

def text (f : Float) : Text :=
  if f.isNaN then "nan"
  else
    let sign : Text := if isNegative f then "-" else []
    if f.isInf then sign ++ "inf"
    else if f == 0 then sign ++ "0.0"
    else sign ++ (shortest f).text

/-- The double nearest to `digits · 10^exponent`; far out of range it is zero or infinite. -/
def nearest (digits : Nat) (exponent : Int) : Float :=
  let size : Int := (Nat.toDigits 10 digits).length
  if digits == 0 then 0
  else if size + exponent > 400 then 1 / 0
  else if size + exponent < -400 then 0
  else if exponent < 0 then Float.ofScientific digits true exponent.natAbs
  else Float.ofScientific digits false exponent.natAbs

end CatchAll.Decimal
