/-
Column types and the field types that hold their values.

A schema names the type of a column in its own vocabulary. The
vocabulary is closed: eleven names, in five categories, and each
category is held by one type of the generated language. All of these are
object types, so a missing column value stays representable.
-/

namespace SchemaClasses

/-- What the values of a column are. -/
inductive Category where
  | dateTime
  | integer
  | bigInteger
  | decimal
  | text
deriving DecidableEq, Repr

/-- The names of the column types, each with its category, in the order they are listed in. -/
def columnTypes : List (String × Category) := [
  ("TIMESTAMP", .dateTime), ("TIME", .dateTime),
  ("INTEGER", .integer), ("SMALLINT", .integer), ("TINYINT", .integer),
  ("BIGINT", .bigInteger),
  ("DECIMAL", .decimal), ("DOUBLE", .decimal), ("FLOAT", .decimal),
  ("VARCHAR", .text), ("LONGVARCHAR", .text)]

/-- The category of a column type, if the vocabulary has the name, letter for letter. -/
def category? (columnType : String) : Option Category :=
  columnTypes.lookup columnType

/-- A name that is no column type. -/
structure UnknownType where
  name : String
deriving DecidableEq, Repr

def UnknownType.message (e : UnknownType) : String := s!"unknown type: {e.name}"

/-- The category of a column type. -/
def Category.ofColumnType (columnType : String) : Except UnknownType Category :=
  match category? columnType with
  | some category => .ok category
  | none => .error ⟨columnType⟩

/-- A type of the generated language. -/
structure FieldType where
  /-- The name a declaration uses. -/
  name : String
  /-- What has to be imported for the name, if anything. -/
  importName : Option String
deriving DecidableEq, Repr

/-- The type of the fields that hold values of a category. -/
def Category.fieldType : Category → FieldType
  | .dateTime => ⟨"DateTime", some "org.joda.time.DateTime"⟩
  | .integer => ⟨"Integer", none⟩
  | .bigInteger => ⟨"BigInteger", some "java.math.BigInteger"⟩
  | .decimal => ⟨"BigDecimal", some "java.math.BigDecimal"⟩
  | .text => ⟨"String", none⟩

end SchemaClasses
