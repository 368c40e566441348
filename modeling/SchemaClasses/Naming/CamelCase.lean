/-
From column names to field names.

Columns are named in words joined by underscores, fields in camel case.
Every underscore goes away and the character after it becomes upper
case; nothing else changes, so a name without underscores is its own
camel case.
-/
import SchemaClasses.Text.Uppercase

namespace SchemaClasses.Naming

/-- Reads on after an underscore (`capital`) or inside a word. -/
def camelChars (capital : Bool) : List Char → List Char
  | [] => []
  | c :: rest =>
    if c = '_' then camelChars true rest
    else if capital then Text.upper c ++ camelChars false rest
    else c :: camelChars false rest

/-- The field name of a column name. -/
def camelCase (name : String) : String :=
  String.ofList (camelChars false name.toList)

end SchemaClasses.Naming
