/-
Double-precision numbers, exactly.

A finite double is a sign, a significand below 2^53 and a power of two
between 2^-1074 and 2^971. Everything that rounds goes through one
function: the double nearest to a quotient of whole numbers, an even
significand winning a tie. All arithmetic is on whole numbers, so each
result can be computed and reasoned about without a machine float.
-/

namespace SchemaClasses.Decimal

/-- The finite double `±significand · 2 ^ exponent`. -/
structure Double where
  negative : Bool
  significand : Nat
  exponent : Int
deriving DecidableEq, Repr

namespace Double

/-- The least power of two of a double. -/
def leastExponent : Int := -1074

/-- The greatest power of two of a finite double. -/
def greatestExponent : Int := 971

/-- Significands stay below this bound, and from half of it on unless the exponent is the least. -/
def significandBound : Nat := Nat.pow 2 53

/-- The two zeros. -/
def zero (negative : Bool) : Double := ⟨negative, 0, leastExponent⟩

def isZero (x : Double) : Bool := x.significand == 0

/-- The quotient rounded to a whole number, halves to the even neighbour. -/
def divideToNearest (num den : Nat) : Nat :=
  let quotient := num / den
  let remainder := num % den
  if 2 * remainder < den ∨ (2 * remainder = den ∧ quotient % 2 = 0) then quotient
  else quotient + 1

/-- The terms of the quotient `num / den / 2 ^ e`. -/
def scaled (num den : Nat) (e : Int) : Nat × Nat :=
  if 0 ≤ e then (num, den * Nat.pow 2 e.toNat) else (num * Nat.pow 2 (-e).toNat, den)

/-- The power of two at which the quotient, cut to a whole number, has 53 bits. -/
def scaleOf (num den : Nat) : Int :=
  let guess : Int := num.log2 - den.log2 - 53
  let (n, d) := scaled num den guess
  if n / d < significandBound then guess else guess + 1

/-- The double nearest to `±num / den`, if it is finite. The denominator is not zero. -/
def ofRatio (negative : Bool) (num den : Nat) : Option Double :=
  if num = 0 then some (zero negative)
  else
    let e := max (scaleOf num den) leastExponent
    let (n, d) := scaled num den e
    let m := divideToNearest n d
    -- rounding up can reach the bound, which is the next power of two
    let (m, e) := if m = significandBound then (significandBound / 2, e + 1) else (m, e)
    if greatestExponent < e then none else some ⟨negative, m, e⟩

/-- The double nearest to a whole number, if it is finite. -/
def ofNat (n : Nat) : Option Double := ofRatio false n 1

/-- The quotient of two powers of ten or two, as numerator and denominator of `base ^ e`. -/
def power (base : Nat) (e : Int) : Nat × Nat :=
  if 0 ≤ e then (Nat.pow base e.toNat, 1) else (1, Nat.pow base (-e).toNat)

/-- The product, rounded, if it is finite. -/
def mul (x y : Double) : Option Double :=
  let (n, d) := power 2 (x.exponent + y.exponent)
  ofRatio (x.negative != y.negative) (x.significand * y.significand * n) d

/-- The quotient by a number other than zero, rounded, if it is finite. -/
def div (x y : Double) : Option Double :=
  let (n, d) := power 2 (x.exponent - y.exponent)
  ofRatio (x.negative != y.negative) (x.significand * n) (y.significand * d)

/-- The number of decimal digits of a whole number; zero has one. -/
def digitCount (n : Nat) : Nat := (Nat.toDigits 10 n).length

/--
The double nearest to `±coefficient · 10 ^ e`, if it is finite. Numbers beyond the range of doubles
are recognised by their digits, so that no huge power is ever formed.
-/
def ofDecimal (negative : Bool) (coefficient : Nat) (e : Int) : Option Double :=
  let magnitude : Int := digitCount coefficient + e
  if coefficient = 0 ∨ magnitude < -330 then some (zero negative)
  else if 310 < magnitude then none
  else
    let (n, d) := power 10 e
    ofRatio negative (coefficient * n) d

def neg (x : Double) : Double := { x with negative := !x.negative }

end Double

end SchemaClasses.Decimal
