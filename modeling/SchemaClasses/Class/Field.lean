/-
Fields: what the columns of an entity become.

A column with a known type and a name that makes an identifier becomes a
field. The field is named in camel case; where that changes the name,
the field carries the column's name along. Of several columns with one
camel case the first becomes the field.
-/
import SchemaClasses.Class.Fault
import SchemaClasses.ColumnType
import SchemaClasses.Naming.CamelCase
import SchemaClasses.Naming.Identifier
import SchemaClasses.Schema.Basic
import SchemaClasses.Value.Text

namespace SchemaClasses

/-- A field of a class. -/
structure Field where
  /-- The column the field stands for. -/
  property : Property
  name : String
  type : FieldType

namespace Field

/-- The column's name, where the field's name differs from it. -/
def serializedName? (field : Field) : Option String :=
  if field.name = field.property.name then none else some field.property.name

/-- The category of a column, read off its `type`. -/
def categoryOf (property : Property) : Except FieldFault Category :=
  match property.rawType? with
  | none | some .null => .error .missingType
  | some (.string columnType) =>
    match category? columnType with
    | some category => .ok category
    | none => .error (.unknownType columnType)
  | some other => .error (.nonStringType other.text)

/-- The field of a column, looked at on its own. -/
def ofProperty (property : Property) : Except FieldFault Field := do
  if let some definition := property.nonMapping then
    throw (.notAMapping definition.kind)
  let category ← categoryOf property
  let name := Naming.camelCase property.name
  if Naming.isIdentifier name then
    return ⟨property, name, category.fieldType⟩
  else
    throw (.invalidIdentifier name)

/-- The field of a column that comes after the fields `earlier`. -/
def ofPropertyAfter (earlier : List Field) (property : Property) : Except FieldFault Field := do
  let field ← ofProperty property
  if earlier.any (·.name == field.name) then
    throw (.duplicateIdentifier field.name)
  else
    return field

/-- The fields of columns that come after the fields `earlier`, and the faults of those without. -/
def ofProperties (entity : String) (earlier : List Field) :
    List Property → List Field × List FieldError
  | [] => ([], [])
  | property :: rest =>
    match ofPropertyAfter earlier property with
    | .ok field =>
      let (fields, errors) := ofProperties entity (earlier ++ [field]) rest
      (field :: fields, errors)
    | .error fault =>
      let (fields, errors) := ofProperties entity earlier rest
      (fields, ⟨entity, property.name, fault⟩ :: errors)

end Field

end SchemaClasses
