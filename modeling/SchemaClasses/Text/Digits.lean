/-
Digits of bases up to sixteen, and characters named by their number.
-/

namespace SchemaClasses.Text

/-- The value of a digit. -/
def digitValue (c : Char) : Nat :=
  if '0' ≤ c ∧ c ≤ '9' then c.toNat - '0'.toNat
  else if 'a' ≤ c ∧ c ≤ 'f' then c.toNat - 'a'.toNat + 10
  else c.toNat - 'A'.toNat + 10

/-- The digits of a base; letters stand for ten and above, in either case. -/
def isDigitOf (base : Nat) (c : Char) : Bool := c.isAlphanum && digitValue c < base

/-- The whole number that digits of a base spell, the first the most significant. -/
def ofDigits (base : Nat) (digits : List Char) : Nat :=
  digits.foldl (fun n c => base * n + digitValue c) 0

/-- The whole number that digits of a base spell, if they are digits and at least one. -/
def natural? (base : Nat) (digits : List Char) : Option Nat :=
  if !digits.isEmpty && digits.all (isDigitOf base) then some (ofDigits base digits) else none

/-- The character that so many hexadecimal digits name, if they do name one. -/
def charOfDigits? (count : Nat) (digits : List Char) : Option Char := do
  guard (digits.length = count)
  let n ← natural? 16 digits
  if n.isValidChar then some (Char.ofNat n) else none

end SchemaClasses.Text
