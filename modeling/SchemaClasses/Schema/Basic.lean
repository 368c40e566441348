/-
Schemas: entities, their columns, and what is said about both.

A schema lists entities, an entity lists columns. Names with a leading
underscore are bookkeeping at either level: their contents are kept
whole under `metadata`. A definition that is neither a mapping nor null
is kept whole as well, as `nonMapping`, and complained about when code
is generated from it, not before.
-/
import SchemaClasses.Naming.Metadata
import SchemaClasses.Value.Basic

namespace SchemaClasses

open Naming (isGeneratable)

/-- A column of an entity. -/
structure Property where
  name : String
  /-- What the schema says about the column, in order. -/
  metadata : Entries
  /-- The definition, where it is no mapping. -/
  nonMapping : Option Value

/-- An entity of a schema. -/
structure Entity where
  name : String
  /-- What the schema says about the entity as a whole, in order. -/
  metadata : Entries
  /-- The columns, in order. -/
  properties : List Property
  /-- The definition, where it is no mapping. -/
  nonMapping : Option Value

/-- A schema: its entities, in order. -/
structure Schema where
  entities : List Entity := []

-- ======================================================= definitions

/-- The column that a definition describes; null describes one without metadata. -/
def Property.ofDefinition (name : String) : Value → Property
  | .mapping entries => ⟨name, entries, none⟩
  | .null => ⟨name, [], none⟩
  | other => ⟨name, [], some other⟩

/-- The entity that a definition describes. All of an underscore entity is metadata. -/
def Entity.ofDefinition (name : String) : Value → Entity
  | .mapping entries =>
    if isGeneratable name then
      { name
        metadata := entries.filter fun (key, _) => !isGeneratable key
        properties := (entries.filter fun (key, _) => isGeneratable key).map fun (key, value) =>
          Property.ofDefinition key value
        nonMapping := none }
    else ⟨name, entries, [], none⟩
  | .null => ⟨name, [], [], none⟩
  | other => ⟨name, [], [], some other⟩

/-- The schema with one entity for each entry. -/
def Schema.ofEntries (entries : Entries) : Schema :=
  ⟨entries.map fun (name, definition) => Entity.ofDefinition name definition⟩

-- =========================================================== queries

namespace Property

/-- What the column says its type is, of whatever kind. -/
def rawType? (property : Property) : Option Value :=
  property.metadata.get? "type"

end Property

namespace Entity

/-- Whether the entity is one that code can be generated for. -/
def isGeneratable (entity : Entity) : Bool :=
  Naming.isGeneratable entity.name

/-- The attributes of the entity: its `_attributes`, if they are a mapping. -/
def attributes? (entity : Entity) : Option Entries :=
  (entity.metadata.get? "_attributes").bind Value.mapping?

/-- The class name the attributes ask for, if it is a string. -/
def outputTypeName? (entity : Entity) : Option String := do
  let attributes ← entity.attributes?
  let name ← attributes.get? "phpName"
  name.string?

/-- The column of a name. -/
def property? (entity : Entity) (name : String) : Option Property :=
  entity.properties.find? (·.name == name)

end Entity

namespace Schema

/-- The names of all entities, in order. -/
def names (schema : Schema) : List String :=
  schema.entities.map (·.name)

/-- The entities that code can be generated for, in order. -/
def generatable (schema : Schema) : List Entity :=
  schema.entities.filter (·.isGeneratable)

/-- The entity of a name. -/
def entity? (schema : Schema) (name : String) : Option Entity :=
  schema.entities.find? (·.name == name)

end Schema

end SchemaClasses
