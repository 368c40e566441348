/-
The shortest decimal that reads back as a given double.

Around a double lies the interval of numbers that round to it; its ends
belong to it when the significand is even. Among the decimals with one
digit, then two, and so on, the first that falls into the interval is
the shortest that reads back. On each grid of decimals only the two
neighbours of the double itself have to be looked at: if any point of
the grid lies in the interval, so does one of these.
-/
import SchemaClasses.Decimal.Double

namespace SchemaClasses.Decimal

/-- The decimal `coefficient · 10 ^ exponent`. -/
structure Coefficient where
  coefficient : Nat
  exponent : Int
deriving DecidableEq, Repr

/-- The place of the leading digit: the `p` with `10 ^ (p - 1) ≤ num / den < 10 ^ p`. -/
def leadingPlace (num den : Nat) : Int :=
  if den ≤ num then Double.digitCount (num / den)
  else 1 - (Double.digitCount ((den - 1) / num) : Int)

/-- The numbers that round to a double, in quarters of its last place. -/
structure Rounding where
  /-- Numerators of the lower end, the double and the upper end. -/
  low : Nat
  mid : Nat
  high : Nat
  /-- Their common denominator. -/
  unit : Nat
  /-- The ends round to the double as well. -/
  closed : Bool

/--
The interval of a double other than zero. Below a power of two the doubles lie twice as close, so
the lower half is half as wide there.
-/
def Double.rounding (x : Double) : Rounding :=
  let (n, d) := Double.power 2 (x.exponent - 2)
  let narrow := x.significand = Double.significandBound / 2 ∧ Double.leastExponent < x.exponent
  let m := 4 * x.significand
  { low := (if narrow then m - 1 else m - 2) * n
    mid := m * n
    high := (m + 2) * n
    unit := d
    closed := x.significand % 2 = 0 }

/-- The point of the grid of multiples of `10 ^ e` that is in the interval and nearest to its middle. -/
def Rounding.onGrid? (r : Rounding) (e : Int) : Option Coefficient :=
  -- over the denominator `step`, the point `c` of the grid is `c * step / step`
  let (p, q) := Double.power 10 e
  let step := r.unit * p
  let inside (c : Nat) : Bool :=
    if r.closed then r.low * q ≤ c * step && c * step ≤ r.high * q
    else r.low * q < c * step && c * step < r.high * q
  let below := r.mid * q / step
  match inside below, inside (below + 1) with
  | true, true =>
    let twice := 2 * (r.mid * q)
    let middle := (2 * below + 1) * step
    if twice < middle ∨ (twice = middle ∧ below % 2 = 0) then some ⟨below, e⟩
    else some ⟨below + 1, e⟩
  | true, false => some ⟨below, e⟩
  | false, true => some ⟨below + 1, e⟩
  | false, false => none

/--
The shortest decimal that rounds to the double, sign apart, and of those the nearest to it.
Seventeen digits always suffice.
-/
def Double.shortest (x : Double) : Coefficient :=
  if x.isZero then ⟨0, 0⟩
  else
    let r := x.rounding
    let place := leadingPlace r.mid r.unit
    ((List.range 17).findSome? fun (n : Nat) => r.onGrid? (place - (n + 1))).getD ⟨0, 0⟩

end SchemaClasses.Decimal
