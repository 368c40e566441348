/-
Fields are bound to their columns.

In a document the value of a column stands under the name that the class
binds its field to: the string literal above the declaration, or the
field's own name where there is none. For every field this is the name
the schema gives the column, character for character. What camel case
does to a name cannot be undone, so the literal is there exactly where
camel case has changed something.
-/
import Mathlib.Data.List.Forall2
import SchemaClasses.Proofs.Class.Outline

namespace SchemaClasses

/-- A declaration stands for a field: it binds the field's name to that of the column, and has a
literal for it only where the two differ. -/
structure Declaration.StandsFor (d : Declaration) (field : Field) : Prop where
  name : d.name = field.name
  bound : d.boundName = field.property.name
  override : d.override.isSome = true ↔ d.name ≠ field.property.name

/-- What the code of a field says stands for the field. -/
theorem Field.standsFor_declared (field : Field) : field.declared.StandsFor field := by
  by_cases same : field.name = field.property.name
  · have none : field.serializedName? = none := if_pos same
    refine ⟨rfl, ?_, ?_⟩
    · rw [Declaration.boundName, declared, none]
      exact same
    · simp [declared, none, same]
  · have own : field.serializedName? = some field.property.name := if_neg same
    refine ⟨rfl, ?_, ?_⟩
    · rw [Declaration.boundName, declared, own]
      rfl
    · simp [declared, own, same]

/-- The columns of a definition have distinct names when its keys are distinct. -/
theorem Entity.nodup_names_ofDefinition (name : String) {entries : Entries}
    (distinct : (entries.map Prod.fst).Nodup) :
    ((Entity.ofDefinition name (.mapping entries)).properties.map (·.name)).Nodup := by
  have names : ∀ kept : Entries,
      (kept.map fun entry => Property.ofDefinition entry.1 entry.2).map (·.name) =
        kept.map Prod.fst := by
    intro kept
    rw [List.map_map]
    exact List.map_congr_left fun entry _ => Property.name_ofDefinition entry.1 entry.2
  rw [Entity.ofDefinition]
  by_cases generatable : Naming.isGeneratable name = true
  · rw [if_pos generatable]
    show (((entries.filter _).map fun entry =>
      Property.ofDefinition entry.1 entry.2).map (·.name)).Nodup
    rw [names]
    exact (List.filter_sublist.map Prod.fst).nodup distinct
  · rw [if_neg generatable]
    exact List.nodup_nil

namespace Class

/-- The text of a class binds every field to the column it was made from. Neither two fields nor
the columns of two fields share a name, and no name of a column with a field has a character
that a string literal cannot hold as it is. -/
theorem standsFor_of_render {name package : String} {entries : Entries} {cls : Class}
    (distinct : (entries.map Prod.fst).Nodup) (hpackage : Naming.isPackage package = true)
    (rendered : render (Entity.ofDefinition name (.mapping entries)) package = .ok cls) :
    ∃ outline, Outline.ofText? cls.source = some outline ∧
      List.Forall₂ Declaration.StandsFor outline.declarations
        (Entity.ofDefinition name (.mapping entries)).fields ∧
      ((Entity.ofDefinition name (.mapping entries)).fields.map (·.property)).Sublist
        (Entity.ofDefinition name (.mapping entries)).properties ∧
      (outline.declarations.map (·.boundName)).Nodup ∧
      (outline.declarations.map (·.name)).Nodup ∧
      ∀ property ∈ (Entity.ofDefinition name (.mapping entries)).properties, ∀ field,
        Field.ofProperty property = .ok field →
          ∀ sign ∈ Lexical.literalSigns, sign ∉ property.name.toList := by
  have names := Entity.nodup_names_ofDefinition name distinct
  generalize Entity.ofDefinition name (.mapping entries) = entity at *
  have boundNames : (entity.fields.map Field.declared).map (·.boundName) =
      entity.fields.map (·.property.name) := by
    rw [List.map_map]
    exact List.map_congr_left fun field _ => field.standsFor_declared.bound
  have fieldNames : (entity.fields.map Field.declared).map (·.name) = entity.fields.map (·.name) := by
    rw [List.map_map]
    rfl
  refine ⟨_, Outline.ofText?_source hpackage rendered, ?_, Entity.sublist_fields, ?_, ?_, ?_⟩
  · rw [List.forall₂_map_left_iff]
    exact List.forall₂_same.2 fun field _ => field.standsFor_declared
  · rw [boundNames]
    exact Entity.nodup_columns_fields names
  · rw [fieldNames]
    exact Entity.nodup_names_fields
  · intro property _ field made
    have origin := Field.property_of_ofProperty made
    rw [← origin] at made ⊢
    exact Field.plain_of_ofProperty made

/-- The definition of an entity with two columns, the first of which changes in camel case. -/
def accountEntries : Entries :=
  [("_attributes", .mapping [("phpName", .string "Account")]),
    ("owner_id", .mapping [("type", .string "INTEGER")]),
    ("label", .mapping [("type", .string "VARCHAR")])]

theorem standsFor_account :
    ∃ cls, render (Entity.ofDefinition "account" (.mapping accountEntries)) "demo.model" = .ok cls ∧
      ∃ outline, Outline.ofText? cls.source = some outline ∧
        List.Forall₂ Declaration.StandsFor outline.declarations
          (Entity.ofDefinition "account" (.mapping accountEntries)).fields := by
  have rendered : ∃ cls,
      render (Entity.ofDefinition "account" (.mapping accountEntries)) "demo.model" = .ok cls :=
    ⟨_, rfl⟩
  obtain ⟨cls, rendered⟩ := rendered
  obtain ⟨outline, read, bound, -⟩ := standsFor_of_render (by decide) (by decide) rendered
  exact ⟨cls, rendered, outline, read, bound⟩

end Class

end SchemaClasses
