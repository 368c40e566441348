/-
The characters of written numbers.

Digits, signs, a point and the letter of an exponent: nothing else is
ever written for a number, whatever the number and wherever its point
falls.
-/
import SchemaClasses.Value.Text

namespace SchemaClasses

namespace Decimal

/-- The characters a number may be written with. -/
def isNumberChar (c : Char) : Bool := c.isDigit || ['+', '-', '.', 'e'].contains c

/-- The text holds nothing but characters of numbers. -/
def isNumberText (text : String) : Bool := text.toList.all isNumberChar

theorem isNumberText_append (front back : String) :
    isNumberText (front ++ back) = (isNumberText front && isNumberText back) := by
  rw [isNumberText, String.toList_append, List.all_append]
  rfl

theorem isNumberText_ofList {digits : List Char} (h : ∀ c ∈ digits, c.isDigit = true) :
    isNumberText (String.ofList digits) = true := by
  rw [isNumberText, String.toList_ofList, List.all_eq_true]
  intro c mem
  rw [isNumberChar, h c mem, Bool.true_or]

theorem isNumberText_zeros (count : Int) : isNumberText (zeros count) = true := by
  refine isNumberText_ofList fun c mem => ?_
  rw [List.eq_of_mem_replicate mem]
  rfl

theorem isNumberText_natural (n : Nat) : isNumberText (toString n) = true := by
  rw [Nat.toString_eq_ofList_toDigits]
  exact isNumberText_ofList fun c mem => Nat.isDigit_of_mem_toDigits (by decide) (by decide) mem

-- ======================================================== both layouts

theorem isNumberText_pointed {digits : List Char} (h : ∀ c ∈ digits, c.isDigit = true)
    (place : Int) : isNumberText (pointed digits place) = true := by
  have all := isNumberText_ofList h
  have front := isNumberText_ofList fun c mem => h c (List.mem_of_mem_take (i := place.toNat) mem)
  have back := isNumberText_ofList fun c mem => h c (List.mem_of_mem_drop (i := place.toNat) mem)
  unfold pointed
  split
  · rw [isNumberText_append, isNumberText_append, isNumberText_zeros, all]
    decide
  · split
    · rw [isNumberText_append, isNumberText_append, isNumberText_zeros, all]
      decide
    · rw [isNumberText_append, isNumberText_append, front, back]
      decide

theorem isNumberText_powered {digits : List Char} (h : ∀ c ∈ digits, c.isDigit = true) (e : Int) :
    isNumberText (powered digits e) = true := by
  have first := isNumberText_ofList fun c mem => h c (List.mem_of_mem_take (i := 1) mem)
  have others := isNumberText_ofList fun c mem => h c (List.mem_of_mem_drop (i := 1) mem)
  have sign : isNumberText (if e < 0 then "-" else "+") = true := by
    split <;> decide
  have fraction : isNumberText
      (if digits.length ≤ 1 then "" else "." ++ String.ofList (digits.drop 1)) = true := by
    split
    · decide
    · rw [isNumberText_append, others]
      decide
  simp only [powered, isNumberText_append, first, fraction, sign, isNumberText_natural]
  decide

theorem isNumberText_coefficient (layout : Layout) (x : Coefficient) :
    isNumberText (x.text layout) = true := by
  have digits : ∀ c ∈ ((Nat.toDigits 10 x.coefficient).reverse.dropWhile (· == '0')).reverse,
      c.isDigit = true := by
    intro c mem
    have inside := (List.dropWhile_suffix _).mem (List.mem_reverse.1 mem)
    exact Nat.isDigit_of_mem_toDigits (by decide) (by decide) (List.mem_reverse.1 inside)
  unfold Coefficient.text
  split
  · decide
  · dsimp only
    split
    · exact isNumberText_pointed digits _
    · exact isNumberText_powered digits _

end Decimal

/-- The text of a number holds nothing but characters of numbers. -/
theorem Number.isNumberText_text (n : Number) : Decimal.isNumberText n.text = true := by
  cases n with
  | whole n =>
      cases n with
      | ofNat n => exact Decimal.isNumberText_natural n
      | negSucc n =>
          show Decimal.isNumberText ("-" ++ toString (n + 1)) = true
          rw [Decimal.isNumberText_append, Decimal.isNumberText_natural]
          decide
  | fraction x =>
      show Decimal.isNumberText ((if x.negative then "-" else "") ++ x.shortest.text layout) = true
      rw [Decimal.isNumberText_append, Decimal.isNumberText_coefficient]
      split <;> decide

/-- A character no number is written with is in the text of none. -/
theorem Number.notMem_text {c : Char} (foreign : Decimal.isNumberChar c = false) (n : Number) :
    c ∉ n.text.toList := by
  intro mem
  have := List.all_eq_true.1 n.isNumberText_text c mem
  rw [foreign] at this
  cases this

end SchemaClasses
