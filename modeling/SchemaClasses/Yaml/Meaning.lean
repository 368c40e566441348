/-
What the scalars of YAML mean.

A plain scalar without a tag means null, a boolean or a number if it is
spelled like one, and otherwise its text. Quoted and block scalars mean
their text. A tag can ask for null, a boolean or a number whatever the
scalar looks like, which fails if it is not spelled like one. Tags of a
document's own have no meaning here: a scalar with one fails, unless the
octets of the tag are no text, and then it is as if it were not there.
-/
import SchemaClasses.Decimal.Literal
import SchemaClasses.Value.Basic

namespace SchemaClasses.Yaml

open Decimal (Double Literal)

def isNull (text : String) : Bool := ["~", "null", "Null", "NULL"].contains text

def bool? (text : String) : Option Bool :=
  if ["true", "True", "TRUE"].contains text then some true
  else if ["false", "False", "FALSE"].contains text then some false
  else none

-- ====================================================== whole numbers

/-- The digits of a base that a letter after a zero announces. -/
def basedNatural? : List Char → Option Nat
  | '0' :: 'x' :: digits => Text.natural? 16 digits
  | '0' :: 'o' :: digits => Text.natural? 8 digits
  | '0' :: 'b' :: digits => Text.natural? 2 digits
  | _ => none

/-- Digits that are no number, because a zero stands in front of more of them. -/
def isPaddedDigits : List Char → Bool
  | '0' :: d :: digits => (d :: digits).all Char.isDigit
  | _ => false

/-- The whole number that a text spells, of any size. -/
def whole? (text : List Char) : Option Int := do
  let (negative, digits) := Decimal.readSign text
  let n ← (basedNatural? digits).or (if isPaddedDigits digits then none else Text.natural? 10 digits)
  return if negative then -n else n

/-- What a whole number becomes. -/
inductive Fit where
  /-- It fits 64 bits and is kept. -/
  | kept
  /-- It needs more, though no more than 128: it is refused. -/
  | refused
  /-- It needs still more: it is no whole number any longer. -/
  | beyond

def Fit.of (n : Int) : Fit :=
  if fitsBits 64 n then .kept
  else if fitsBits 128 n then .refused
  else .beyond

-- ==================================================== other numbers

/-- Infinities and the not-a-number, which become null. -/
def isUnbounded (text : String) : Bool :=
  [".inf", ".Inf", ".INF", "+.inf", "+.Inf", "+.INF", "-.inf", "-.Inf", "-.INF",
    ".nan", ".NaN", ".NAN"].contains text

/-- The number in a text that spells a finite one with digits, point and exponent. -/
def double? (text : List Char) : Option Double :=
  let (negative, unsigned) := Decimal.readSign text
  let (literal, rest) := Literal.read unsigned
  if rest.isEmpty && !literal.digits.isEmpty then literal.nearest negative else none

/-- The value of a text that spells any such number. -/
def fraction? (text : String) : Option Value :=
  if isUnbounded text then some .null
  else (double? text.toList).map fun x => .number (.fraction x)

-- ============================================================= scalars

/-- The value of a text that spells a whole number: none if it spells none, `some none` if refused. -/
def wholeValue? (text : String) : Option (Option Value) :=
  match whole? text.toList with
  | none => none
  | some n =>
    match Fit.of n with
    | .kept => some (some (.number (.whole n)))
    | .refused => some none
    | .beyond => none

/-- What a text without quotes means. -/
def plainValue? (text : String) : Option Value :=
  if text.isEmpty ∨ isNull text then some .null
  else
    match bool? text with
    | some b => some (.bool b)
    | none =>
      match wholeValue? text with
      | some value => value
      | none =>
        let unsigned := (Decimal.readSign text.toList).2
        if isPaddedDigits unsigned then some (.string text)
        else some ((fraction? text).getD (.string text))

/-- The tag is one of a document's own, which begin with an exclamation mark. -/
def startsLocalTag (tag : String) : Bool := tag.toList.head? = some '!'

/-- A tag of a document's own whose octets are text. -/
def isLocalTag (tag : String) : Bool :=
  match tag.toList with
  | '!' :: octets => (String.fromUTF8? ⟨(octets.map fun c => c.toNat.toUInt8).toArray⟩).isSome
  | _ => false

/-- The tags with a meaning of their own start with this. -/
def commonTag (name : String) : String := "tag:yaml.org,2002:" ++ name

/-- What a scalar means: none if nothing. -/
def scalarValue? (tag : Option String) (plain : Bool) (text : String) : Option Value :=
  match tag with
  | none => if plain then plainValue? text else some (.string text)
  | some tag =>
    if isLocalTag tag then none
    else if startsLocalTag tag then if plain then plainValue? text else some (.string text)
    else if tag = commonTag "bool" then (bool? text).map .bool
    else if tag = commonTag "int" then (wholeValue? text).join
    else if tag = commonTag "float" then fraction? text
    else if tag = commonTag "null" then if isNull text then some .null else none
    else some (.string text)

end SchemaClasses.Yaml
