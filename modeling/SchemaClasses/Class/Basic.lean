/-
Classes: what the entities of a schema become.

An entity becomes a class when its attributes name one and the name is
an identifier. The columns decide which fields the class has, never
whether there is a class: a column without a field is left out and
reported beside it.
-/
import SchemaClasses.Class.Source

namespace SchemaClasses

/-- A class that has been rendered and not yet written. -/
structure Class where
  /-- The name, which is also that of the file. -/
  name : String
  /-- The entity the class comes from. -/
  entity : String
  /-- The whole text. -/
  source : String
  /-- The columns that have no field, in order. -/
  skipped : List FieldError

namespace Class

/-- The name of the file a class belongs into. -/
def fileName (cls : Class) : String := cls.name ++ ".java"

/-- The class name of an entity, taken from its attributes. -/
def nameOf (entity : Entity) : Except ClassFault String := do
  if let some definition := entity.nonMapping then
    throw (.notAMapping definition.kind)
  if entity.attributes?.isNone then
    throw .missingAttributes
  match entity.outputTypeName? with
  | none => throw .missingOutputTypeName
  | some name => if Naming.isIdentifier name then return name else throw (.invalidOutputTypeName name)

/-- The class of an entity. -/
def render (entity : Entity) (package : String) : Except ClassFault Class := do
  let name ← nameOf entity
  let (fields, skipped) := Field.ofProperties entity.name [] entity.properties
  return { name, entity := entity.name, source := unlines (classLines package name fields), skipped }

end Class

end SchemaClasses
