/-
Quoted text, as messages show paths and names.

Whatever the text holds, its quoted form stays on one line and can be
told from its surroundings: quotes and backslashes are escaped, and a
character that would not show on its own is named by its number.
-/
import SchemaClasses.Text.Combining
import SchemaClasses.Text.Shapeless

namespace SchemaClasses.Text

/-- The number of a character, in lower-case hexadecimal digits without zeros in front. -/
def hexadecimal (c : Char) : String := String.ofList (Nat.toDigits 16 c.toNat)

/-- A character inside quotes. -/
def quotedChar (c : Char) : String :=
  if c = '\x00' then "\\0"
  else if c = '\t' then "\\t"
  else if c = '\r' then "\\r"
  else if c = '\n' then "\\n"
  else if c = '"' then "\\\""
  else if c = '\\' then "\\\\"
  else if isCombining c || isShapeless c then "\\u\x7b" ++ hexadecimal c ++ "\x7d"
  else c.toString

/-- A text in quotes. -/
def quoted (text : String) : String :=
  "\"" ++ String.join (text.toList.map quotedChar) ++ "\""

end SchemaClasses.Text
