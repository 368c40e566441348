/-
Schemas without two entities, or two columns of an entity, of one name.

In a document both are the keys of a mapping. A schema that is made from
entries keeps their keys as names, so it is distinct where the keys are,
and that is all a document has to guarantee.
-/
import SchemaClasses.Proofs.Class.Binding

namespace SchemaClasses

/-- The names of the entities are distinct, and within each entity those of the columns. -/
structure Schema.Distinct (schema : Schema) : Prop where
  entities : schema.names.Nodup
  properties : ∀ entity ∈ schema.entities, (entity.properties.map (·.name)).Nodup

/-- The name of an entity is the key of its definition. -/
theorem Entity.name_ofDefinition (name : String) (definition : Value) :
    (Entity.ofDefinition name definition).name = name := by
  unfold Entity.ofDefinition
  split
  · split
    · rfl
    · rfl
  · rfl
  · rfl

/-- A schema has the keys in its document as names. -/
theorem Schema.names_ofEntries (entries : Entries) :
    (Schema.ofEntries entries).names = entries.map Prod.fst := by
  rw [Schema.names, Schema.ofEntries, List.map_map]
  exact List.map_congr_left fun entry _ => Entity.name_ofDefinition entry.1 entry.2

/-- A schema has distinct names when the keys in its document are distinct. -/
theorem Schema.distinct_ofEntries {entries : Entries} (keys : (entries.map Prod.fst).Nodup)
    (columns : ∀ entry ∈ entries, ((entry.2.mapping?.getD []).map Prod.fst).Nodup) :
    (Schema.ofEntries entries).Distinct := by
  refine ⟨?_, fun entity mem => ?_⟩
  · rw [Schema.names_ofEntries]
    exact keys
  · obtain ⟨⟨name, definition⟩, isEntry, rfl⟩ := List.mem_map.1 mem
    have inner := columns _ isEntry
    cases definition with
    | mapping members => exact Entity.nodup_names_ofDefinition name inner
    | null => exact List.nodup_nil
    | bool => exact List.nodup_nil
    | number => exact List.nodup_nil
    | string => exact List.nodup_nil
    | sequence => exact List.nodup_nil

end SchemaClasses
