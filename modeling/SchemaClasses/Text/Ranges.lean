/-
Sets of characters as ascending lists of code-point ranges.

The character classes of this library (letters, numbers, combining
marks, characters without a shape) are properties of the Unicode
Standard. Each is stored as the ranges of its code points, bounds
included, so a table can be read against the standard line by line, and
one walk answers for all of them.
-/

namespace SchemaClasses.Text

/-- A set of code points: its ranges, bounds included, in ascending order. -/
abbrev Ranges := List (Nat × Nat)

/-- Membership. The ranges ascend, so the first one that ends at or above `n` decides. -/
def Ranges.covers : Ranges → Nat → Bool
  | [], _ => false
  | (lo, hi) :: above, n => if n ≤ hi then lo ≤ n else Ranges.covers above n

end SchemaClasses.Text
