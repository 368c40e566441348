/-
The numbers of JSON.

A whole number that fits 64 bits, with or without sign, is kept exactly.
Every other number becomes a double in three steps: as many leading
digits as fit 64 bits make a whole number, that number is rounded to a
double, and the double is multiplied or divided by a power of ten. Each
step rounds on its own, so the result can be a neighbour of the double
nearest to the literal. A number beyond the doubles is refused; minus
zero is a double, since no whole number is.
-/
import SchemaClasses.Decimal.Literal
import SchemaClasses.Value.Basic

namespace SchemaClasses.Json

open Decimal (Double Literal)

/-- Leading digits are collected while the number they make is below this. -/
def digitLimit : Nat := Nat.pow 2 64

/-- Appends digits to a number while it fits; also tells how many digits were left out. -/
def appendDigits (n : Nat) : List Char → Nat × Nat
  | [] => (n, 0)
  | d :: rest =>
    if 10 * n + Text.digitValue d < digitLimit then
      appendDigits (10 * n + Text.digitValue d) rest
    else (n, rest.length + 1)

/-- The greatest power of ten that is a finite double. -/
def greatestPower : Nat := 308

/-- The double nearest to a power of ten, if it is finite. -/
def powerOfTen (n : Nat) : Option Double := Double.ofNat (Nat.pow 10 n)

/-- Divides by the greatest power of ten, over and over. Zero stays zero, so it ends the repetition. -/
def divideByGreatest (x : Double) : Nat → Option Double
  | 0 => some x
  | times + 1 =>
    if x.isZero then some x
    else ((powerOfTen greatestPower).bind x.div).bind fun y => divideByGreatest y times

/-- Divides by `10 ^ n`, in steps that are doubles themselves. -/
def divideByPower (x : Double) (n : Nat) : Option Double := do
  let y ← divideByGreatest x (n / greatestPower)
  (powerOfTen (n % greatestPower)).bind y.div

/-- The double `n · 10 ^ e`, rounded at each step. -/
def scaleByPower (n : Nat) (e : Int) : Option Double := do
  let x ← Double.ofNat n
  if e < 0 then divideByPower x e.natAbs
  else if e ≤ greatestPower then (powerOfTen e.natAbs).bind x.mul
  else if x.isZero then some x
  else none

/-- The number that a literal stands for. -/
def number? (negative : Bool) (l : Literal) : Option Number :=
  let (n, dropped) := appendDigits 0 l.whole
  let signed : Int := if negative then -n else n
  if l.fraction.isNone ∧ l.power.isNone ∧ dropped = 0 ∧ ¬(negative ∧ n = 0) ∧ fitsBits 64 signed then
    some (.whole signed)
  else
    let digits := l.fraction.getD []
    let (n, left) := appendDigits n digits
    let e : Int := dropped - (digits.length - left) + l.power.getD 0
    (scaleByPower n e).map fun x => .fraction (if negative then x.neg else x)

end SchemaClasses.Json
