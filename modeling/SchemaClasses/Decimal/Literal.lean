/-
Decimal literals: digits, perhaps a point and more digits, perhaps a
power of ten.

The reader here takes as much as has this form; what a format demands
beyond it (a digit before the point, no zero in front) is for the format
to check. The value of a literal is the double nearest to it.
-/
import SchemaClasses.Decimal.Double
import SchemaClasses.Text.Cut
import SchemaClasses.Text.Digits

namespace SchemaClasses.Decimal

/-- A decimal literal without a sign. -/
structure Literal where
  /-- The digits before the point. -/
  whole : List Char
  /-- The digits after the point, if there is a point. -/
  fraction : Option (List Char)
  /-- The power of ten, if one is given. -/
  power : Option Int
deriving Repr

/-- A sign, which may be missing: whether it is a minus, and what follows. -/
def readSign : List Char → Bool × List Char
  | '-' :: rest => (true, rest)
  | '+' :: rest => (false, rest)
  | text => (false, text)

/-- The power of ten after an `e`: a sign, which may be missing, and at least one digit. -/
def readPower (text : List Char) : Option (Int × List Char) :=
  let (negative, unsigned) := readSign text
  let n : Int := Text.ofDigits 10 (unsigned.takeWhile Char.isDigit)
  if (unsigned.takeWhile Char.isDigit).isEmpty then none
  else some (if negative then -n else n, unsigned.dropWhile Char.isDigit)

/-- The digits of a fraction, where the text goes on with a point. -/
def readFraction : List Char → Option (List Char) × List Char
  | '.' :: rest => (some (rest.takeWhile Char.isDigit), rest.dropWhile Char.isDigit)
  | text => (none, text)

/-- The power of ten, where the text goes on with one. -/
def readExponent : List Char → Option Int × List Char
  | c :: rest =>
    if c = 'e' ∨ c = 'E' then
      match readPower rest with
      | some (power, after) => (some power, after)
      | none => (none, c :: rest)
    else (none, c :: rest)
  | [] => (none, [])

/-- The longest literal at the front of a text, and the rest. -/
def Literal.read (text : List Char) : Literal × List Char :=
  let (fraction, text₁) := readFraction (text.dropWhile Char.isDigit)
  let (power, text₂) := readExponent text₁
  (⟨text.takeWhile Char.isDigit, fraction, power⟩, text₂)

/-- All digits of a literal, the point left out. -/
def Literal.digits (l : Literal) : List Char := l.whole ++ l.fraction.getD []

/-- The double nearest to the literal, if it is finite. -/
def Literal.nearest (l : Literal) (negative : Bool) : Option Double :=
  Double.ofDecimal negative (Text.ofDigits 10 l.digits)
    (l.power.getD 0 - ((l.fraction.getD []).length : Int))

-- ============================================== the rest is no longer

theorem length_readSign_le (text : List Char) : (readSign text).2.length ≤ text.length := by
  unfold readSign
  split <;> simp

theorem length_readPower_le {text rest : List Char} {n : Int}
    (h : readPower text = some (n, rest)) : rest.length ≤ text.length := by
  simp only [readPower, Option.ite_none_left_eq_some, Option.some.injEq, Prod.mk.injEq] at h
  obtain ⟨_, _, rfl⟩ := h
  exact Nat.le_trans (Text.length_dropWhile_le _ _) (length_readSign_le text)

theorem length_readFraction_le (text : List Char) :
    (readFraction text).2.length ≤ text.length := by
  unfold readFraction
  split
  · rename_i rest
    have := Text.length_dropWhile_le Char.isDigit rest
    simp only [List.length_cons]; omega
  · simp

theorem length_readExponent_le (text : List Char) :
    (readExponent text).2.length ≤ text.length := by
  unfold readExponent
  split
  · split
    · split
      · rename_i h; have := length_readPower_le h; simp only [List.length_cons]; omega
      · simp
    · simp
  · simp

theorem Literal.length_read_le (text : List Char) :
    (Literal.read text).2.length ≤ (text.dropWhile Char.isDigit).length :=
  Nat.le_trans (length_readExponent_le _) (length_readFraction_le _)

/-- A literal with a digit before the point leaves a shorter rest. -/
theorem Literal.length_read_lt {text : List Char} (h : (Literal.read text).1.whole ≠ []) :
    (Literal.read text).2.length < text.length := by
  refine Nat.lt_of_le_of_lt (Literal.length_read_le text) ?_
  have whole : text.takeWhile Char.isDigit ≠ [] := h
  have sum : (text.takeWhile Char.isDigit).length + (text.dropWhile Char.isDigit).length
      = text.length := by
    rw [← List.length_append, List.takeWhile_append_dropWhile]
  have := List.length_pos_iff.2 whole
  omega

end SchemaClasses.Decimal
