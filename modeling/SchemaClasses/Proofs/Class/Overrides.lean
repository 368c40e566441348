/-
Which fields are bound to a name of their own.

A field is bound to the name of its column where its own name differs
from that, and its own name is the column's in camel case. What camel
case changes is known from the name alone: the names with an underscore
(`Naming.camelCase_eq_self_iff`). So whether a field has a literal, and
with it whether its class imports the annotation, can be told from the
names in the schema, before any class is rendered.
-/
import SchemaClasses.Proofs.Class.Outline
import SchemaClasses.Proofs.Naming.Underscores

namespace SchemaClasses

open Naming (camelCase runTogether)

namespace Field

/-- The name that a field is bound to, by the name of its column: none without an underscore. -/
def override (field : Field) : Option String :=
  if '_' ∈ field.property.name.toList then some field.property.name else none

/-- The lines of a field, by the name of its column. -/
def linesByName (field : Field) : List String :=
  field.comment :: ((if '_' ∈ field.property.name.toList then [bindingLine field.property.name]
    else []) ++ [field.declaration, ""])

variable {field : Field}

/-- A field is bound to another name exactly if that has an underscore. -/
theorem serializedName?_eq_override (made : ofProperty field.property = .ok field) :
    field.serializedName? = field.override := by
  rw [serializedName?, override, name_of_ofProperty made]
  by_cases underscore : '_' ∈ field.property.name.toList
  · rw [if_pos underscore, if_neg fun same => Naming.camelCase_eq_self_iff.1 same underscore]
  · rw [if_neg underscore, if_pos (Naming.camelCase_eq_self_iff.2 underscore)]

theorem lines_eq_linesByName (made : ofProperty field.property = .ok field) :
    field.comment :: field.code = field.linesByName := by
  rw [code, serializedName?_eq_override made, linesByName, override]
  split <;> rfl

end Field

/-- Camel case runs words together. None of the underscores is left, a second time changes
nothing, and the names it leaves alone are those without an underscore. So in the text of a class
the line that binds a field to its column is there exactly if the column has an underscore in its
name, and so it is read back. -/
theorem override_iff_underscore :
    (∀ name, camelCase name = runTogether name) ∧
      (∀ name, '_' ∉ (camelCase name).toList) ∧
      (∀ name, camelCase (camelCase name) = camelCase name) ∧
      (∀ name, camelCase name = name ↔ '_' ∉ name.toList) ∧
      ∀ entity package cls, Class.render entity package = .ok cls →
        cls.source = unlines (headLines package cls.name (importsOf entity.fields) ++
          entity.fields.flatMap Field.linesByName ++ ["\x7d"]) ∧
        (Naming.isPackage package = true →
          ∃ outline, Outline.ofText? cls.source = some outline ∧
            outline.declarations.map (fun d => (d.name, d.override)) =
              entity.fields.map fun field => (camelCase field.property.name, field.override)) := by
  refine ⟨Naming.camelCase_eq_runTogether, Naming.underscore_notMem_camelCase,
    Naming.camelCase_camelCase, fun _ => Naming.camelCase_eq_self_iff, ?_⟩
  intro entity package cls rendered
  have made : ∀ field ∈ entity.fields, Field.ofProperty field.property = .ok field :=
    fun _ mem => Entity.ofProperty_of_mem_fields mem
  constructor
  · have fieldLines : entity.fields.flatMap (fun field => field.comment :: field.code) =
        entity.fields.flatMap Field.linesByName :=
      List.flatMap_congr fun field mem => Field.lines_eq_linesByName (made field mem)
    rw [(Class.source_of_render rendered).2, layout, fieldLines]
  · intro hpackage
    refine ⟨_, Outline.ofText?_source hpackage rendered, ?_⟩
    rw [List.map_map]
    refine List.map_congr_left fun field mem => ?_
    exact Prod.ext (Field.name_of_ofProperty (made field mem))
      (Field.serializedName?_eq_override (made field mem))

/-- The definition of an entity with a column that changes in camel case and one that does not. -/
def wingEntries : Entries :=
  [("_attributes", .mapping [("phpName", .string "Wing")]),
    ("bed__count_", .mapping [("type", .string "INTEGER")]),
    ("label", .mapping [("type", .string "VARCHAR")])]

theorem override_wing :
    ∃ cls, Class.render (Entity.ofDefinition "wing" (.mapping wingEntries)) "demo.model" = .ok cls ∧
      ∃ outline, Outline.ofText? cls.source = some outline ∧
        outline.declarations.map (fun d => (d.name, d.override)) =
          [("bedCount", some "bed__count_"), ("label", none)] := by
  have rendered : ∃ cls, Class.render (Entity.ofDefinition "wing" (.mapping wingEntries))
      "demo.model" = .ok cls := ⟨_, rfl⟩
  obtain ⟨cls, rendered⟩ := rendered
  obtain ⟨-, -, -, -, classes⟩ := override_iff_underscore
  obtain ⟨outline, read, declared⟩ := (classes _ _ _ rendered).2 (by decide)
  exact ⟨cls, rendered, outline, read, declared.trans (by decide +kernel)⟩

end SchemaClasses
