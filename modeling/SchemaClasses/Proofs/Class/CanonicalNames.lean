/-
Columns with canonical names.

Nothing happens to a canonical name but that it is put into camel case:
no two columns clash, and only a reserved word is no identifier. So a
class leaves such a column out for the column's type or for being
called by a reserved word, and for nothing else.
-/
import SchemaClasses.Proofs.Naming.CamelCase
import SchemaClasses.Proofs.Schema.Distinct

namespace SchemaClasses

open Naming (isCanonical reservedWords)

namespace Field

variable {front back : List Property} {property : Property}

/-- After columns with other names, all of them canonical, a column gives the field that it gives on
its own. -/
theorem ofPropertyAfter_of_canonical (entity : String)
    (distinct : ((front ++ property :: back).map (·.name)).Nodup)
    (canonical : ∀ column ∈ front ++ property :: back, isCanonical column.name = true) :
    ofPropertyAfter (ofProperties entity [] front).1 property = ofProperty property := by
  cases made : ofProperty property with
  | error fault => exact ofPropertyAfter_of_error made
  | ok field =>
      -- a name that is taken is that of a field from an earlier column
      refine ofPropertyAfter_eq_ok_iff.2 ⟨made, fun taken => ?_⟩
      obtain ⟨other, mem, same⟩ := List.mem_map.1 taken
      have own := ofProperty_of_mem_ofProperties entity front [] other mem
      have before : other.property ∈ front :=
        (sublist_ofProperties entity front []).subset (List.mem_map_of_mem mem)
      rw [name_of_ofProperty own, name_of_ofProperty made] at same
      have names : other.property.name = property.name :=
        Naming.eq_of_camelCase_eq (canonical _ (List.mem_append_left _ before))
          (canonical _ (List.mem_append_right _ List.mem_cons_self)) same
      rw [List.map_append, List.map_cons, List.nodup_append] at distinct
      exact distinct.2.2 _ (List.mem_map_of_mem before) _ List.mem_cons_self names

/-- Of columns with canonical names, all of them different, those are left out that give no field on
their own. -/
theorem mem_ofProperties_of_canonical {entity : String} {properties : List Property}
    {error : FieldError}
    (distinct : (properties.map (·.name)).Nodup)
    (canonical : ∀ column ∈ properties, isCanonical column.name = true)
    (mem : error ∈ (ofProperties entity [] properties).2) :
    ∃ column ∈ properties, error.property = column.name ∧
      ofProperty column = .error error.fault := by
  obtain ⟨front, column, back, fault, rfl, found, rfl⟩ := mem_ofProperties_iff.1 mem
  rw [List.nil_append, ofPropertyAfter_of_canonical entity distinct canonical] at found
  exact ⟨column, List.mem_append_right _ List.mem_cons_self, rfl, found⟩

/-- Of columns with canonical names, all of them different, each that gives a field on its own gives
it among the others. -/
theorem mem_fields_of_canonical (entity : String) {properties : List Property} {field : Field}
    (distinct : (properties.map (·.name)).Nodup)
    (canonical : ∀ column ∈ properties, isCanonical column.name = true)
    (mem : property ∈ properties) (made : ofProperty property = .ok field) :
    field ∈ (ofProperties entity [] properties).1 := by
  obtain ⟨front, back, rfl⟩ := List.append_of_mem mem
  have after := ofPropertyAfter_of_canonical entity distinct canonical
  rw [made] at after
  rw [ofProperties_append, List.nil_append, ofProperties_cons_of_ok after]
  exact List.mem_append_right _ List.mem_cons_self

end Field

/-- A column whose type is a string has no other definition. -/
theorem Property.nonMapping_of_rawType? {name : String} {definition type : Value}
    (h : (Property.ofDefinition name definition).rawType? = some type) :
    (Property.ofDefinition name definition).nonMapping = none := by
  cases definition with
  | null => rfl
  | mapping => rfl
  | bool => cases h
  | number => cases h
  | string => cases h
  | sequence => cases h

/-- The columns of an entity are what their definitions describe. -/
theorem Entity.exists_of_mem_properties {name : String} {definition : Value} {property : Property}
    (mem : property ∈ (Entity.ofDefinition name definition).properties) :
    ∃ key value, property = Property.ofDefinition key value := by
  unfold Entity.ofDefinition at mem
  split at mem
  · split at mem
    · obtain ⟨⟨key, value⟩, -, rfl⟩ := List.mem_map.1 mem
      exact ⟨key, value, rfl⟩
    · cases mem
  · cases mem
  · cases mem

/-- No column is lost to a class because of what it is called, reserved words apart. -/
structure Class.KeepsNames (cls : Class) (entity : Entity) : Prop where
  noDuplicate : ∀ error ∈ cls.skipped, ∀ identifier,
    error.fault ≠ .duplicateIdentifier identifier
  reserved : ∀ error ∈ cls.skipped, ∀ identifier, error.fault = .invalidIdentifier identifier →
    error.property ∈ reservedWords
  fields : ∀ property ∈ entity.properties, ∀ type ∈ columnTypes.map Prod.fst,
    property.rawType? = some (.string type) → property.name ∉ reservedWords →
      (entity.fields.map (·.property.name)).count property.name = 1

namespace Class

/-- A class of columns with canonical names, all of them different, keeps these names. -/
theorem keepsNames_of_render {name package : String} {definition : Value} {cls : Class}
    (distinct : ((Entity.ofDefinition name definition).properties.map (·.name)).Nodup)
    (canonical : ∀ column ∈ (Entity.ofDefinition name definition).properties,
      isCanonical column.name = true)
    (rendered : render (Entity.ofDefinition name definition) package = .ok cls) :
    cls.KeepsNames (Entity.ofDefinition name definition) := by
  have skipped := skipped_of_render rendered
  refine ⟨fun error mem identifier duplicate => ?_, fun error mem identifier invalid => ?_,
    fun column mem type known declared free => ?_⟩
  · rw [skipped] at mem
    obtain ⟨column, -, -, alone⟩ := Field.mem_ofProperties_of_canonical distinct canonical mem
    rw [duplicate] at alone
    exact Field.ofProperty_ne_duplicateIdentifier alone
  · rw [skipped] at mem
    obtain ⟨column, isColumn, named, alone⟩ :=
      Field.mem_ofProperties_of_canonical distinct canonical mem
    rw [invalid] at alone
    have foreign := Field.isIdentifier_of_ofProperty_invalidIdentifier alone
    rw [named]
    by_contra free
    rw [(Naming.isIdentifier_camelCase_iff (canonical column isColumn)).2 free] at foreign
    cases foreign
  · obtain ⟨key, value, rfl⟩ := Entity.exists_of_mem_properties mem
    obtain ⟨category, listed⟩ := mem_columnTypes_iff.1 known
    have identifier := (Naming.isIdentifier_camelCase_iff (canonical _ mem)).2 free
    have found : Field.categoryOf (Property.ofDefinition key value) = .ok category := by
      unfold Field.categoryOf
      rw [declared]
      simp only [listed]
    have made := Field.ofProperty_eq_ok_iff.2
      ⟨Property.nonMapping_of_rawType? declared, identifier, category, found, rfl⟩
    have isField := Field.mem_fields_of_canonical (Entity.ofDefinition name definition).name
      distinct canonical mem made
    exact List.count_eq_one_of_mem (Entity.nodup_columns_fields distinct)
      (List.mem_map_of_mem (f := fun field : Field => field.property.name) isField)

/-- Canonical names keep apart in camel case and become identifiers, reserved words apart. So a
class of columns with such names loses none to a clash, a reserved word at most to its name, and
has exactly one field for each other column of a known type. -/
theorem canonical_names_kept :
    (∀ a b, isCanonical a = true → isCanonical b = true →
      Naming.camelCase a = Naming.camelCase b → a = b) ∧
    (∀ a, isCanonical a = true →
      (Naming.isIdentifier (Naming.camelCase a) = true ↔ a ∉ reservedWords) ∧
        ('_' ∈ a.toList → Naming.camelCase a ∉ reservedWords)) ∧
    ∀ (name package : String) (entries : Entries) (cls : Class),
      (entries.map Prod.fst).Nodup →
      (∀ column ∈ (Entity.ofDefinition name (.mapping entries)).properties,
        isCanonical column.name = true) →
      render (Entity.ofDefinition name (.mapping entries)) package = .ok cls →
        cls.KeepsNames (Entity.ofDefinition name (.mapping entries)) ∧
          cls.source = unlines
            (classLines package cls.name (Entity.ofDefinition name (.mapping entries)).fields) := by
  refine ⟨fun a b => Naming.eq_of_camelCase_eq, fun a canonical =>
    ⟨Naming.isIdentifier_camelCase_iff canonical, Naming.camelCase_notMem_reservedWords canonical⟩,
    fun name package entries cls distinct canonical rendered =>
      ⟨keepsNames_of_render ?_ canonical rendered, source_eq_of_render rendered⟩⟩
  exact Entity.nodup_names_ofDefinition name distinct

/-- The definition of an entity whose columns have canonical names, a reserved word and a type that
is not in the vocabulary among them. -/
def orderEntries : Entries :=
  [("_attributes", .mapping [("phpName", .string "Order")]),
    ("line1_text", .mapping [("type", .string "VARCHAR")]),
    ("line_text", .mapping [("type", .string "VARCHAR")]),
    ("default", .mapping [("type", .string "INTEGER")]),
    ("state", .mapping [("type", .string "ENUM")])]

theorem canonical_names_kept_order :
    ∃ cls, render (Entity.ofDefinition "order" (.mapping orderEntries)) "demo.model" = .ok cls ∧
      cls.KeepsNames (Entity.ofDefinition "order" (.mapping orderEntries)) ∧
      cls.skipped =
        [⟨"order", "default", .invalidIdentifier "default"⟩,
          ⟨"order", "state", .unknownType "ENUM"⟩] := by
  have rendered : ∃ cls,
      render (Entity.ofDefinition "order" (.mapping orderEntries)) "demo.model" = .ok cls ∧
        cls.skipped =
          [⟨"order", "default", .invalidIdentifier "default"⟩,
            ⟨"order", "state", .unknownType "ENUM"⟩] :=
    ⟨_, rfl, rfl⟩
  obtain ⟨cls, rendered, skipped⟩ := rendered
  have canonical : ∀ column ∈ (Entity.ofDefinition "order" (.mapping orderEntries)).properties,
      isCanonical column.name = true := by
    have names : ∀ name ∈ ["line1_text", "line_text", "default", "state"],
        isCanonical name = true := by decide +kernel
    intro column mem
    exact names column.name (List.mem_map_of_mem (f := (·.name)) mem)
  obtain ⟨-, -, classes⟩ := canonical_names_kept
  exact ⟨cls, rendered, (classes _ _ _ _ (by decide) canonical rendered).1, skipped⟩

end Class

end SchemaClasses
