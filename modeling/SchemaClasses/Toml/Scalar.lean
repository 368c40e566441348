/-
The scalars of TOML.

A number may have underscores between its digits and no zero in front of
more digits. Whole numbers can be written in other bases. All other
numbers have digits on either side of a point.
-/
import SchemaClasses.Decimal.Literal
import SchemaClasses.Toml.Moment

namespace SchemaClasses.Toml

open Decimal (Double Literal)

inductive Scalar where
  | string (text : String)
  | bool (b : Bool)
  | whole (n : Int)
  | fraction (x : Double)
  /-- An infinity, or the not-a-number. -/
  | unbounded
  /-- A date, a time, or both. -/
  | moment (text : String)

/-- The digits of a base, without the single underscores between them. -/
def digits? (base : Nat) (text : List Char) : Option (List Char) :=
  let groups := Text.pieces '_' text
  if groups.all fun group => !group.isEmpty && group.all (Text.isDigitOf base) then
    some groups.flatten
  else none

/-- Decimal digits without a zero in front of others. -/
def unpadded? (text : List Char) : Option (List Char) := do
  let digits ← digits? 10 text
  if digits.length = 1 ∨ digits.head? ≠ some '0' then some digits else none

/-- A whole number of another base, which has no sign. -/
def basedWhole? : List Char → Option Int
  | '0' :: 'x' :: text => (digits? 16 text).map fun digits => Text.ofDigits 16 digits
  | '0' :: 'o' :: text => (digits? 8 text).map fun digits => Text.ofDigits 8 digits
  | '0' :: 'b' :: text => (digits? 2 text).map fun digits => Text.ofDigits 2 digits
  | _ => none

/-- A decimal whole number. -/
def whole? (text : List Char) : Option Int := do
  let (negative, unsigned) := Decimal.readSign text
  let n : Int := Text.ofDigits 10 (← unpadded? unsigned)
  return if negative then -n else n

/-- The power of ten in what follows the digits of a number. -/
def power? : List Char → Option (Option Int)
  | [] => some none
  | c :: text => do
    guard (c = 'e' ∨ c = 'E')
    let (negative, unsigned) := Decimal.readSign text
    let n : Int := Text.ofDigits 10 (← digits? 10 unsigned)
    return some (if negative then -n else n)

/-- A number with a point or a power of ten. -/
def double? (text : List Char) : Option Double := do
  let (negative, unsigned) := Decimal.readSign text
  let isPart := fun (c : Char) => c.isDigit || c == '_'
  let whole ← unpadded? (unsigned.takeWhile isPart)
  match unsigned.dropWhile isPart with
  | [] => none
  | '.' :: rest =>
    let fraction ← digits? 10 (rest.takeWhile isPart)
    let power ← power? (rest.dropWhile isPart)
    Literal.nearest ⟨whole, some fraction, power⟩ negative
  | rest =>
    let power ← power? rest
    Literal.nearest ⟨whole, none, power⟩ negative

/-- The text spells an infinity or the not-a-number. -/
def isUnbounded (text : List Char) : Bool :=
  ["inf", "+inf", "-inf", "nan", "+nan", "-nan"].contains (String.ofList text)

/-- The scalar that a text without quotes spells. -/
def scalar? (text : List Char) : Option Scalar :=
  if text = "true".toList then some (.bool true)
  else if text = "false".toList then some (.bool false)
  else if isUnbounded text then some .unbounded
  else
    ((basedWhole? text).map .whole).or <| ((whole? text).map .whole).or <|
      ((double? text).map .fraction).or <|
        (momentText? text).map fun moment => .moment (String.ofList moment)

/-- The characters that end a text without quotes. -/
def endsBare (c : Char) : Bool :=
  [' ', '\t', '\n', '\r', '#', '=', ',', '[', ']', '{', '}'].contains c

/--
The text without quotes that a value begins with, and what follows it. A date and a time may have a
single space between them.
-/
def readBare (text : List Char) : Option (List Char × List Char) :=
  let bare := text.takeWhile fun c => !endsBare c
  if bare.isEmpty then none
  else
    match text.dropWhile fun c => !endsBare c with
    | ' ' :: d :: rest =>
      if isDate bare && d.isDigit then
        some (bare ++ ' ' :: (d :: rest).takeWhile fun c => !endsBare c,
          (d :: rest).dropWhile fun c => !endsBare c)
      else some (bare, ' ' :: d :: rest)
    | rest => some (bare, rest)

theorem length_readBare_lt {text rest bare : List Char} (h : readBare text = some (bare, rest)) :
    rest.length < text.length := by
  simp only [readBare, Option.ite_none_left_eq_some, Bool.not_eq_true] at h
  obtain ⟨nonempty, h⟩ := h
  have shorter := Text.length_dropWhile_lt nonempty
  split at h
  next d after found =>
    rw [found] at shorter
    split at h
    · cases h
      have := Text.length_dropWhile_le (fun c => !endsBare c) (d :: after)
      simp only [List.length_cons] at *; omega
    · cases h
      exact shorter
  · cases h
    exact shorter

end SchemaClasses.Toml
