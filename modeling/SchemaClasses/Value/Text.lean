/-
Values as compact text.

The text is a JSON document without spaces: keys in their order, whole
numbers in full, other numbers by their shortest decimal. It is what
messages and generated comments show of a number.
-/
import SchemaClasses.Decimal.Text
import SchemaClasses.Value.Basic

namespace SchemaClasses

/-- Numbers from 10^-5 on and below 10^16 are written without an exponent. -/
def Number.layout : Decimal.Layout := ⟨-5, 16⟩

def Number.text : Number → String
  | .whole n => toString n
  | .fraction x => x.text Number.layout

namespace Value

/-- The four hexadecimal digits of a control character. -/
def controlDigits (c : Char) : String :=
  String.ofList ('0' :: '0' :: (if c.toNat < 16 then ['0'] else []) ++ Nat.toDigits 16 c.toNat)

/-- A character inside quotes: quotes, backslashes and controls are escaped, all else stands. -/
def quotedChar (c : Char) : String :=
  if c = '"' then "\\\""
  else if c = '\\' then "\\\\"
  else if c = '\n' then "\\n"
  else if c = '\r' then "\\r"
  else if c = '\t' then "\\t"
  else if c = '\x08' then "\\b"
  else if c = '\x0c' then "\\f"
  else if c.toNat < 0x20 then "\\u" ++ controlDigits c
  else c.toString

/-- A string in quotes. -/
def quoted (s : String) : String :=
  "\"" ++ String.join (s.toList.map quotedChar) ++ "\""

mutual

/-- The compact text of a value. -/
def text : Value → String
  | .null => "null"
  | .bool b => if b then "true" else "false"
  | .number n => n.text
  | .string s => quoted s
  | .sequence items => "[" ++ ",".intercalate (itemTexts items) ++ "]"
  | .mapping entries => "\x7b" ++ ",".intercalate (entryTexts entries) ++ "\x7d"

/-- The texts of the items of a sequence. -/
def itemTexts : List Value → List String
  | [] => []
  | item :: rest => item.text :: itemTexts rest

/-- The texts of the entries of a mapping, key and value. -/
def entryTexts : List (String × Value) → List String
  | [] => []
  | (key, value) :: rest => (quoted key ++ ":" ++ value.text) :: entryTexts rest

end

end Value

end SchemaClasses
