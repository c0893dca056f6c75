/-!
# Shortest decimals

A binary fraction `m · 2^q` stands for every real number that rounds to it.
Among the decimals in that interval this module finds one with the fewest
digits, and of those the nearest; a tie goes to the even digit. The ends of
the interval belong to it exactly when `m` is even.
-/

set_option autoImplicit false

namespace CatchAll.Decimal

/-- The number `0.d₁d₂… · 10^exponent`; the first digit is not zero. -/
structure Digits where
  digits : List Char
  exponent : Int

/-- A positive quotient with the two ends of its interval, over one denominator. -/
structure Interval where
  low : Nat
  mid : Nat
  high : Nat
  denominator : Nat
  closed : Bool

/-- The interval of `m · 2^q`; at a power of two the lower gap is half as wide. -/
def Interval.ofBinary (m : Nat) (q : Int) (narrowBelow : Bool) : Interval :=
  let gap := if narrowBelow then 1 else 2
  let scale := if q ≥ 2 then Nat.pow 2 (q - 2).toNat else 1
  let denominator := if q ≥ 2 then 1 else Nat.pow 2 (2 - q).toNat
  ⟨(4 * m - gap) * scale, 4 * m * scale, (4 * m + 2) * scale, denominator, m % 2 == 0⟩

def Interval.holds (i : Interval) (numerator denominator : Nat) : Bool :=
  let x := numerator * i.denominator
  let low := i.low * denominator
  let high := i.high * denominator
  if i.closed then low ≤ x && x ≤ high else low < x && x < high

/-- The least `k` with the value below `10^k`. -/
def Interval.magnitude (i : Interval) : Int :=
  if i.denominator ≤ i.mid then
    ((Nat.toDigits 10 (i.mid / i.denominator)).length : Int)
  else
    match (List.range 330).find? fun j => i.denominator ≤ i.mid * Nat.pow 10 (j + 1) with
    | some j => -(j : Int)
    | none => -330

/-- The points of the grid `10^step` at and above the value, as multiples of the step. -/
def Interval.neighbours (i : Interval) (step : Int) : Nat × Nat :=
  let below :=
    if step ≥ 0 then i.mid / (i.denominator * Nat.pow 10 step.toNat)
    else i.mid * Nat.pow 10 (-step).toNat / i.denominator
  (below, below + 1)

def Interval.holdsPoint (i : Interval) (step : Int) (n : Nat) : Bool :=
  if step ≥ 0 then i.holds (n * Nat.pow 10 step.toNat) 1 else i.holds n (Nat.pow 10 (-step).toNat)

/-- Twice the value is compared with the sum of its neighbours. -/
def Interval.nearer (i : Interval) (step : Int) (below : Nat) : Nat :=
  let sum := 2 * below + 1
  let left := if step ≥ 0 then 2 * i.mid else 2 * i.mid * Nat.pow 10 (-step).toNat
  let right := if step ≥ 0 then sum * Nat.pow 10 step.toNat * i.denominator else sum * i.denominator
  if left < right then below
  else if right < left then below + 1
  else if below % 2 == 0 then below else below + 1

/-- The grid point that stands for the value, if this grid has one. -/
def Interval.pointOn? (i : Interval) (step : Int) : Option Nat :=
  let (below, above) := i.neighbours step
  match i.holdsPoint step below && below != 0, i.holdsPoint step above with
  | true, true => some (i.nearer step below)
  | true, false => some below
  | false, true => some above
  | false, false => none

def trimZeros (ds : List Char) : List Char :=
  (ds.reverse.dropWhile (· == '0')).reverse

/-- The shortest digits of an interval; seventeen always suffice for a double. -/
def Interval.shortest (i : Interval) : Digits :=
  let k := i.magnitude
  let found := (List.range 17).findSome? fun (n : Nat) =>
    let step := k - (n + 1 : Nat)
    (i.pointOn? step).map fun point => (point, step)
  match found with
  | some (point, step) =>
    let ds := Nat.toDigits 10 point
    ⟨trimZeros ds, ds.length + step⟩
  | none => ⟨['0'], 1⟩

end CatchAll.Decimal
