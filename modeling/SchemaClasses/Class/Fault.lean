/-
Why an entity has no class, and why a column has no field.

Each fault names its cause; the sentence shown to people is made in one
place from the cause and the names it concerns.
-/
import SchemaClasses.Value.Basic

namespace SchemaClasses

/-- Why a column has no field. -/
inductive FieldFault where
  /-- The definition is of a kind that says nothing about a column. -/
  | notAMapping (found : Kind)
  /-- The definition has no type, or a null one. -/
  | missingType
  /-- The type is no string; `text` is its compact text. -/
  | nonStringType (text : String)
  /-- The type is not in the vocabulary. -/
  | unknownType (columnType : String)
  /-- The camel case of the name is no identifier. -/
  | invalidIdentifier (identifier : String)
  /-- The camel case of the name is that of an earlier field. -/
  | duplicateIdentifier (identifier : String)
deriving DecidableEq, Repr

/-- A column without a field. -/
structure FieldError where
  entity : String
  property : String
  fault : FieldFault
deriving DecidableEq, Repr

/-- Why an entity has no class. -/
inductive ClassFault where
  /-- The definition is of a kind that says nothing about an entity. -/
  | notAMapping (found : Kind)
  /-- There are no attributes, or they are no mapping. -/
  | missingAttributes
  /-- The attributes have no class name that is a string. -/
  | missingOutputTypeName
  /-- The class name is no identifier. -/
  | invalidOutputTypeName (name : String)
deriving DecidableEq, Repr

/-- The message for a column. -/
def FieldError.message (e : FieldError) : String :=
  let property := s!"property `{e.entity}.{e.property}`"
  match e.fault with
  | .notAMapping found => s!"{property} must be a mapping, found {found.phrase}"
  | .missingType => s!"{property} has no `type`"
  | .nonStringType text => s!"{property} has a non-string `type`: {text}"
  | .unknownType columnType => s!"unknown type `{columnType}` for {property}"
  | .invalidIdentifier identifier =>
    s!"{property} becomes `{identifier}`, which is not a valid Java field name"
  | .duplicateIdentifier identifier =>
    s!"{property} becomes `{identifier}`, which an earlier property already uses"

/-- The message for an entity. -/
def ClassFault.message (entity : String) : ClassFault → String
  | .notAMapping found => s!"entity `{entity}` must be a mapping, found {found.phrase}"
  | .missingAttributes => s!"entity `{entity}` has no `_attributes` mapping"
  | .missingOutputTypeName => s!"entity `{entity}` has no string `_attributes.phpName`"
  | .invalidOutputTypeName name =>
    s!"entity `{entity}` output type name `{name}` is not a valid Java identifier"

end SchemaClasses
