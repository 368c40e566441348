/-
What holds of every schema that a text describes.

Names are keys of mappings, and no mapping that is read has a key twice
(`Format.distinct_of_entries?`), so every entity and every column is the
only one of its name. The underscore in front of a key keeps the two sorts
of entries of an entity apart, and a definition that was kept because it is
no mapping leaves nothing else to say.

All of this is established when an entity is made from its definition
(`Entity.wellFormed_ofDefinition`), whatever the definition is, as long as
its keys are distinct; nothing that works with schemas checks any of it
again.
-/
import SchemaClasses.Proofs.Schema.Container

namespace SchemaClasses

-- =============================================================== names

/-- The name has an underscore in front. -/
def Naming.isBookkeeping (name : String) : Bool := ['_'].isPrefixOf name.toList

/-- Code can be generated for the names that have no underscore in front. -/
theorem Naming.isGeneratable_eq (name : String) : isGeneratable name = !isBookkeeping name := by
  unfold isGeneratable isBookkeeping
  cases name.toList with
  | nil => rfl
  | cons c rest =>
      show (!(c == '_')) = !('_' == c && true)
      rw [Bool.and_true, BEq.comm]

-- ========================================================== the invariant

/-- A column of a schema. -/
structure Property.WellFormed (property : Property) : Prop where
  named : Naming.isBookkeeping property.name = false
  /-- A definition is kept if it is no mapping, and then nothing else is. -/
  kept : ∀ definition, property.nonMapping = some definition →
    property.metadata = [] ∧ definition.kind ≠ .null ∧ definition.kind ≠ .mapping

/-- An entity of a schema. -/
structure Entity.WellFormed (entity : Entity) : Prop where
  columns : ∀ property ∈ entity.properties, property.WellFormed
  names : (entity.properties.map (·.name)).Nodup
  keys : (entity.metadata.map Prod.fst).Nodup
  /-- No column is called like a key of the metadata. -/
  apart : ∀ property ∈ entity.properties, property.name ∉ entity.metadata.map Prod.fst
  /-- A column is found by its name, and no other column is. -/
  found : ∀ name property, entity.property? name = some property ↔
    property ∈ entity.properties ∧ property.name = name
  /-- Next to columns, metadata has an underscore. -/
  metadata : Naming.isBookkeeping entity.name = false →
    ∀ key ∈ entity.metadata.map Prod.fst, Naming.isBookkeeping key = true
  bookkeeping : Naming.isBookkeeping entity.name = true → entity.properties = []
  /-- A definition is kept if it is no mapping, and then nothing else is. -/
  kept : ∀ definition, entity.nonMapping = some definition →
    entity.metadata = [] ∧ entity.properties = [] ∧
      definition.kind ≠ .null ∧ definition.kind ≠ .mapping

/-- A schema. -/
structure Schema.WellFormed (schema : Schema) : Prop where
  entities : ∀ entity ∈ schema.entities, entity.WellFormed
  names : schema.names.Nodup
  /-- An entity is found by its name, and no other entity is. -/
  found : ∀ name entity, schema.entity? name = some entity ↔
    entity ∈ schema.entities ∧ entity.name = name
  /-- Code can be generated for the entities without an underscore, in their order. -/
  generatable : schema.generatable =
    schema.entities.filter fun entity => !Naming.isBookkeeping entity.name

/-- Among things of distinct names each is found by its name. -/
theorem find?_name_eq_some_iff {γ : Type} {nameOf : γ → String} {things : List γ}
    (distinct : (things.map nameOf).Nodup) {name : String} {a : γ} :
    things.find? (nameOf · == name) = some a ↔ a ∈ things ∧ nameOf a = name := by
  constructor
  · intro found
    exact ⟨List.mem_of_find?_eq_some found, by simpa using List.find?_some found⟩
  · rintro ⟨mem, rfl⟩
    induction things with
    | nil => cases mem
    | cons first rest ih =>
        obtain ⟨fresh, later⟩ := List.nodup_cons.1 distinct
        rw [List.find?_cons]
        rcases List.mem_cons.1 mem with rfl | inRest
        · rw [beq_self_eq_true]
        · have differ : nameOf first ≠ nameOf a := fun same =>
            fresh (same ▸ List.mem_map_of_mem inRest)
          rw [beq_eq_false_iff_ne.2 differ]
          exact ih later inRest

-- ======================================================= from definitions

/-- What defines a column is kept by it if it is neither null nor a mapping. -/
theorem Property.wellFormed_ofDefinition {name : String}
    (column : Naming.isBookkeeping name = false) (value : Value) :
    (ofDefinition name value).WellFormed := by
  refine ⟨?_, fun definition kept => ?_⟩
  · rw [Property.name_ofDefinition]
    exact column
  · cases value with
    | null => cases kept
    | mapping => cases kept
    | _ =>
        cases kept
        exact ⟨rfl, by simp [Value.kind], by simp [Value.kind]⟩

namespace Entity

variable {name : String}

/-- An entity that code can be generated for has its entries apart, by the underscore. -/
theorem ofDefinition_of_columns (own : Naming.isBookkeeping name = false) (entries : Entries) :
    ofDefinition name (.mapping entries) =
      { name
        metadata := entries.filter fun entry => Naming.isBookkeeping entry.1
        properties := (entries.filter fun entry => !Naming.isBookkeeping entry.1).map fun entry =>
          Property.ofDefinition entry.1 entry.2
        nonMapping := none } := by
  have generatable : Naming.isGeneratable name = true := by
    rw [Naming.isGeneratable_eq, own]
    rfl
  rw [ofDefinition, if_pos generatable]
  simp only [Naming.isGeneratable_eq, Bool.not_not]

/-- Any other entity has all its entries as metadata. -/
theorem ofDefinition_of_bookkeeping (own : Naming.isBookkeeping name = true) (entries : Entries) :
    ofDefinition name (.mapping entries) = ⟨name, entries, [], none⟩ := by
  have other : ¬Naming.isGeneratable name = true := by
    rw [Naming.isGeneratable_eq, own]
    simp
  rw [ofDefinition, if_neg other]

/-- An entity without columns: it is bookkeeping, or nothing is said about it. -/
theorem wellFormed_of_metadata {metadata : Entries} {kept : Option Value}
    (keys : (metadata.map Prod.fst).Nodup)
    (own : Naming.isBookkeeping name = true ∨ metadata = [])
    (other : ∀ definition ∈ kept,
      metadata = [] ∧ definition.kind ≠ .null ∧ definition.kind ≠ .mapping) :
    WellFormed ⟨name, metadata, [], kept⟩ where
  columns := by simp
  names := List.nodup_nil
  keys := keys
  apart := by simp
  found := by simp [property?]
  metadata := by
    intro columns key mem
    rcases own with underscore | rfl
    · rw [show Naming.isBookkeeping name = false from columns] at underscore
      cases underscore
    · cases mem
  bookkeeping _ := rfl
  kept definition h := ⟨(other definition h).1, rfl, (other definition h).2⟩

/-- An entity with columns, which are the entries without an underscore. -/
theorem wellFormed_of_columns (own : Naming.isBookkeeping name = false) {entries : Entries}
    (keys : (entries.map Prod.fst).Nodup) :
    (ofDefinition name (.mapping entries)).WellFormed := by
  have names := nodup_names_ofDefinition name keys
  rw [ofDefinition_of_columns own] at names ⊢
  have isMetadata : ∀ key ∈ (entries.filter fun entry =>
      Naming.isBookkeeping entry.1).map Prod.fst, Naming.isBookkeeping key = true := by
    intro key mem
    obtain ⟨entry, isEntry, rfl⟩ := List.mem_map.1 mem
    exact (List.mem_filter.1 isEntry).2
  have columns : ∀ property ∈ (entries.filter fun entry =>
      !Naming.isBookkeeping entry.1).map (fun entry =>
        Property.ofDefinition entry.1 entry.2), property.WellFormed := by
    intro property mem
    obtain ⟨entry, isEntry, rfl⟩ := List.mem_map.1 mem
    have isColumn : Naming.isBookkeeping entry.1 = false := by
      simpa using (List.mem_filter.1 isEntry).2
    exact Property.wellFormed_ofDefinition isColumn entry.2
  refine ⟨columns, names, (List.filter_sublist.map Prod.fst).nodup keys, ?_, ?_, ?_, ?_, ?_⟩
  · intro property mem isKey
    have underscore := isMetadata property.name isKey
    rw [(columns property mem).named] at underscore
    cases underscore
  · exact fun key property => find?_name_eq_some_iff names
  · exact fun _ => isMetadata
  · intro underscore
    rw [show Naming.isBookkeeping name = true from underscore] at own
    cases own
  · intro definition none
    cases none

/-- An entity is well formed if its definition has no key twice. -/
theorem wellFormed_ofDefinition (name : String) {definition : Value}
    (distinct : ∀ entries, definition = .mapping entries → (entries.map Prod.fst).Nodup) :
    (ofDefinition name definition).WellFormed := by
  cases definition with
  | null => exact wellFormed_of_metadata List.nodup_nil (.inr rfl) (by simp)
  | mapping entries =>
      cases own : Naming.isBookkeeping name with
      | true =>
          rw [ofDefinition_of_bookkeeping own]
          exact wellFormed_of_metadata (distinct entries rfl) (.inl own) (by simp)
      | false => exact wellFormed_of_columns own (distinct entries rfl)
  | _ => exact wellFormed_of_metadata List.nodup_nil (.inr rfl) (by simp [Value.kind])

end Entity

/-- No key occurs twice among the entries, nor in a mapping that is bound to one of them. -/
structure Entries.Distinct (entries : Entries) : Prop where
  keys : (entries.map Prod.fst).Nodup
  inner : ∀ entry ∈ entries, ∀ members, entry.2 = .mapping members → (members.map Prod.fst).Nodup

/-- A schema is well formed if no key occurs twice among the entries it is made from. -/
theorem Schema.wellFormed_ofEntries {entries : Entries} (distinct : entries.Distinct) :
    (ofEntries entries).WellFormed := by
  have names : (ofEntries entries).names.Nodup := by
    rw [names_ofEntries]
    exact distinct.keys
  refine ⟨fun entity mem => ?_, names, fun name entity => find?_name_eq_some_iff names, ?_⟩
  · obtain ⟨entry, isEntry, rfl⟩ := List.mem_map.1 mem
    exact Entity.wellFormed_ofDefinition entry.1 (distinct.inner entry isEntry)
  · rw [generatable]
    simp only [Entity.isGeneratable, Naming.isGeneratable_eq]

-- ========================================================== from documents

namespace Document

variable {d : Document} {node : d.Node} {entries : Entries}

/-- What is read as a mapping has no key twice. -/
theorem Reads.nodup_keys (read : d.Reads node (.mapping entries)) :
    (entries.map Prod.fst).Nodup := by
  cases read with
  | moment => exact List.nodup_singleton _
  | scalar _ scalar => cases scalar
  | mapping _ distinct => exact distinct

/-- What is read as a mapping has distinct keys, and so have the mappings in it. -/
theorem Reads.distinct (read : d.Reads node (.mapping entries)) : entries.Distinct := by
  refine ⟨read.nodup_keys, fun entry mem members isMapping => ?_⟩
  cases read with
  | moment =>
      rw [List.mem_singleton.1 mem] at isMapping
      cases isMapping
  | scalar _ scalar => cases scalar
  | mapping _ distinct bound =>
      have found : entries.get? entry.1 = some entry.2 := (lookup_eq_some_iff_mem distinct).2 mem
      have related := bound entry.1
      rw [found, isMapping] at related
      generalize d.get? node entry.1 = bound at related
      cases related with
      | some read => exact read.nodup_keys

end Document

/-- What a format reads from a text has no key twice. -/
theorem Format.distinct_of_entries? {format : Format} {text : String} {entries : Entries}
    (h : format.entries? text = some (some entries)) : entries.Distinct := by
  have nothing : Entries.Distinct [] := ⟨List.nodup_nil, fun _ mem => by cases mem⟩
  cases format with
  | yaml =>
      obtain ⟨root, -, lists⟩ := Yaml.lists_of_entries? h
      cases lists with
      | container _ _ _ read => exact read.distinct
      | blank => exact nothing
  | json =>
      obtain ⟨root, -, lists⟩ := Json.lists_of_entries? h
      cases lists with
      | container _ _ _ read => exact read.distinct
      | item _ _ _ read => exact read.distinct
  | toml =>
      obtain ⟨members, item, -, -, read⟩ := Toml.exists_item_of_entries? h
      exact read.distinct

namespace Schema

/-- A schema that a text describes is well formed, and the names of its entities are the keys that
are listed in the text, in their order. -/
theorem wellFormed_of_ofText {format : Format} {text : String} {schema : Schema}
    (accepted : ofText format text = .ok schema) :
    schema.WellFormed ∧ ∃ entries, format.entries? text = some (some entries) ∧
      schema.names = entries.map Prod.fst := by
  obtain ⟨entries, read, rfl⟩ := exists_entries_of_ofText accepted
  exact ⟨wellFormed_ofEntries (Format.distinct_of_entries? read), entries, read,
    names_ofEntries entries⟩

/-- A version, an entity with a text for a column between bookkeeping, and a list for an entity. -/
def shelfYaml : String :=
  "propel:\n  _version: 2\n  shelf:\n    _attributes: \x7bphpName: Shelf\x7d\n    label: text\n" ++
    "    _note: ~\n    width: \x7btype: DECIMAL\x7d\n  crates: [a, b]\n"

theorem wellFormed_shelfYaml :
    ∃ schema, ofText .yaml shelfYaml = .ok schema ∧ schema.names = ["_version", "shelf", "crates"] ∧
      schema.WellFormed := by
  have names : ((ofText .yaml shelfYaml).map Schema.names).toOption =
      some ["_version", "shelf", "crates"] := by
    decide +kernel
  cases accepted : ofText .yaml shelfYaml with
  | error error =>
      rw [accepted] at names
      cases names
  | ok schema =>
      rw [accepted] at names
      exact ⟨schema, rfl, Option.some.inj names, (wellFormed_of_ofText accepted).1⟩

end Schema

end SchemaClasses
