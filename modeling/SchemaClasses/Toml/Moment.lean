/-
Dates and times.

A moment is a date, a time, or both, and with both perhaps an offset. It
is kept as text in one form: a `T` between date and time, seconds always
given, no zeros at the end of a fraction, a capital `Z`.
-/
import SchemaClasses.Text.Digits
import SchemaClasses.Text.Pieces

namespace SchemaClasses.Toml

/-- A number of exactly two digits up to a greatest one. -/
def twoDigits? (greatest : Nat) (digits : List Char) : Option Nat := do
  guard (digits.length = 2)
  let n ← Text.natural? 10 digits
  if n ≤ greatest then some n else none

/-- The number of days in a month of a year. -/
def daysIn (year month : Nat) : Nat :=
  let isLeap := year % 4 = 0 ∧ (year % 100 ≠ 0 ∨ year % 400 = 0)
  if month = 2 then if isLeap then 29 else 28
  else if month = 4 ∨ month = 6 ∨ month = 9 ∨ month = 11 then 30
  else 31

/-- The text is a date: a year, a month and a day that exists in it. -/
def isDate (text : List Char) : Bool :=
  match Text.pieces '-' text with
  | [year, month, day] =>
    match Text.natural? 10 year, twoDigits? 12 month, twoDigits? 31 day with
    | some y, some m, some d => year.length = 4 && 0 < m && 0 < d && d ≤ daysIn y m
    | _, _, _ => false
  | _ => false

/-- How many digits of a fraction of a second are kept. -/
def fractionDigits : Nat := 9

/-- The fraction of a second in its one form. -/
def fractionText (digits : List Char) : List Char :=
  let kept := ((digits.take fractionDigits).reverse.dropWhile (· == '0')).reverse
  if kept.isEmpty then [] else '.' :: kept

/-- The seconds of a time in their one form. -/
def secondText? (text : List Char) : Option (List Char) :=
  match Text.pieces '.' text with
  | [second] => (twoDigits? 60 second).map fun _ => second
  | [second, fraction] => do
    let _ ← twoDigits? 60 second
    let _ ← Text.natural? 10 fraction
    return second ++ fractionText fraction
  | _ => none

/-- A time in its one form. -/
def timeText? (text : List Char) : Option (List Char) := do
  let (hour, minute, second) ← match Text.pieces ':' text with
    | [hour, minute] => some (hour, minute, ['0', '0'])
    | [hour, minute, second] => some (hour, minute, second)
    | _ => none
  let _ ← twoDigits? 23 hour
  let _ ← twoDigits? 59 minute
  let second ← secondText? second
  return hour ++ ':' :: minute ++ ':' :: second

/-- An offset in its one form; none at all is one too. Every offset is shorter than a day. -/
def offsetText? : List Char → Option (List Char)
  | [] => some []
  | ['Z'] => some ['Z']
  | ['z'] => some ['Z']
  | sign :: text =>
    match Text.pieces ':' text with
    | [hour, minute] => do
      guard (sign = '+' ∨ sign = '-')
      let h ← twoDigits? 23 hour
      let m ← twoDigits? 59 minute
      return (if h = 0 ∧ m = 0 then '+' else sign) :: hour ++ ':' :: minute
    | _ => none

/-- How long the text of a date is. -/
def dateLength : Nat := 10

/-- The text begins with a date. -/
def startsWithDate (text : List Char) : Bool := isDate (text.take dateLength)

/-- A moment in its one form. -/
def momentText? (text : List Char) : Option (List Char) :=
  if startsWithDate text then
    match text.drop dateLength with
    | [] => some text
    | separator :: rest => do
      guard (separator = 'T' ∨ separator = 't' ∨ separator = ' ')
      let isTimeChar := fun (c : Char) => c.isDigit || c == ':' || c == '.'
      let time ← timeText? (rest.takeWhile isTimeChar)
      let offset ← offsetText? (rest.dropWhile isTimeChar)
      return text.take dateLength ++ 'T' :: time ++ offset
  else timeText? text

end SchemaClasses.Toml
