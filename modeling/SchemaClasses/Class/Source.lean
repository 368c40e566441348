/-
The text of a class.

A class is a list of lines: the package, the imports in ascending order,
the declaration, then for every field a comment with all that the schema
says about its column, the column's name where it differs, and the
declaration of the field. No part of a line holds a line break, so the
lines can be read back off the text.
-/
import SchemaClasses.Class.Field

namespace SchemaClasses

-- ========================================================== comments

mutual

/-- A value as a comment shows it: strings as they are, mappings as `key=value` in braces. -/
def Value.describe : Value → String
  | .string s => s
  | .sequence items => "[" ++ ", ".intercalate (Value.describeItems items) ++ "]"
  | .mapping entries => "\x7b" ++ ", ".intercalate (Value.describeEntries entries) ++ "\x7d"
  | .null => Value.text .null
  | .bool b => Value.text (.bool b)
  | .number n => Value.text (.number n)

/-- The items of a sequence as a comment shows them. -/
def Value.describeItems : List Value → List String
  | [] => []
  | item :: rest => item.describe :: Value.describeItems rest

/-- The entries of a mapping as a comment shows them. -/
def Value.describeEntries : List (String × Value) → List String
  | [] => []
  | (key, value) :: rest => (key ++ "=" ++ value.describe) :: Value.describeEntries rest

end

/-- A text on one line: every line break becomes a space. -/
def onOneLine (text : String) : String :=
  String.ofList (text.toList.map fun c => if c = '\r' ∨ c = '\n' then ' ' else c)

-- =================================================== string literals

/-- A character inside a string literal. -/
def literalChar (c : Char) : List Char :=
  if c = '\\' then ['\\', '\\'] else if c = '"' then ['\\', '"'] else [c]

/-- The inside of the string literal for a text. -/
def literalBody (text : String) : String :=
  String.ofList (text.toList.flatMap literalChar)

-- =========================================================== imports

/-- Adds a name to an ascending list, unless it is there. -/
def insertAscending (name : String) : List String → List String
  | [] => [name]
  | other :: rest =>
    if name < other then name :: other :: rest
    else if name = other then other :: rest
    else other :: insertAscending name rest

/-- What a class with these fields imports, in ascending order. -/
def importsOf (fields : List Field) : List String :=
  let renamed := fields.any (·.serializedName?.isSome)
  let names := "lombok.Data" ::
    (if renamed then ["com.google.gson.annotations.SerializedName"] else []) ++
    fields.filterMap (·.type.importName)
  names.foldr insertAscending []

-- ============================================================= lines

/-- The lines of a field. -/
def Field.lines (field : Field) : List String :=
  ("    // " ++ onOneLine (Value.mapping field.property.metadata).describe) ::
  (match field.serializedName? with
    | some name => ["    @SerializedName(\"" ++ literalBody name ++ "\")"]
    | none => []) ++
  ["    private " ++ field.type.name ++ " " ++ field.name ++ ";", ""]

/-- The lines of a class. -/
def classLines (package name : String) (fields : List Field) : List String :=
  ["package " ++ package ++ ";", ""] ++
  (importsOf fields).map (fun path => "import " ++ path ++ ";") ++
  ["", "@Data", "public class " ++ name ++ " \x7b", ""] ++
  fields.flatMap Field.lines ++
  ["\x7d"]

/-- The text of lines, each with the break that ends it. -/
def unlines (lines : List String) : String :=
  String.join (lines.map (· ++ "\n"))

end SchemaClasses
