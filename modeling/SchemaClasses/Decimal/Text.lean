/-
How decimals are written.

A number of ordinary size is written out with a decimal point, any other
with an exponent. Which sizes are ordinary is a decision of the format
the number is written in.
-/
import SchemaClasses.Decimal.Shortest

namespace SchemaClasses.Decimal

/-- The sizes that are written without an exponent. -/
structure Layout where
  /-- Numbers from `10 ^ low` on, -/
  low : Int
  /-- and below `10 ^ high`. -/
  high : Int

/-- `count` zeros. -/
def zeros (count : Int) : String := String.ofList (List.replicate count.toNat '0')

/-- Digits with a point after the first `place` of them, zeros filling what is missing. -/
def pointed (digits : List Char) (place : Int) : String :=
  if place ≤ 0 then "0." ++ zeros (-place) ++ String.ofList digits
  else if digits.length ≤ place.toNat then
    String.ofList digits ++ zeros (place - digits.length) ++ ".0"
  else String.ofList (digits.take place.toNat) ++ "." ++ String.ofList (digits.drop place.toNat)

/-- One digit, a point if more follow, and the power of ten with its sign. -/
def powered (digits : List Char) (e : Int) : String :=
  let sign := if e < 0 then "-" else "+"
  let fraction := if digits.length ≤ 1 then "" else "." ++ String.ofList (digits.drop 1)
  String.ofList (digits.take 1) ++ fraction ++ "e" ++ sign ++ toString e.natAbs

/-- The text of a decimal without its sign. Zero is `0.0`. -/
def Coefficient.text (layout : Layout) (x : Coefficient) : String :=
  if x.coefficient = 0 then "0.0"
  else
    let all := Nat.toDigits 10 x.coefficient
    let place : Int := all.length + x.exponent
    -- the zeros at the end say nothing that `place` does not say
    let digits := (all.reverse.dropWhile (· == '0')).reverse
    if layout.low ≤ place - 1 ∧ place - 1 < layout.high then pointed digits place
    else powered digits (place - 1)

/-- The text of a double: its shortest decimal, with the sign also of a negative zero. -/
def Double.text (layout : Layout) (x : Double) : String :=
  (if x.negative then "-" else "") ++ x.shortest.text layout

end SchemaClasses.Decimal
