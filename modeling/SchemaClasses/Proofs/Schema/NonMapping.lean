/-
Definitions that are no mappings.

An entity and a column are defined by a mapping, or by null, which says
nothing about them. Any other definition should be kept as it is and
complained about: an entity has no class because of it, a column no
field. So it goes for all definitions whose form has a counterpart among
the values, and for no others. A number without a bound is read as null,
and a moment as a mapping, so they are taken for definitions.
-/
import SchemaClasses.Proofs.Schema.Container

namespace SchemaClasses

-- ============================================================= lookup

/-- An entity is found under the key of its definition. -/
theorem Schema.entity?_ofEntries (entries : Entries) (name : String) :
    (ofEntries entries).entity? name = (entries.get? name).map (Entity.ofDefinition name) :=
  find?_map_named Entity.name_ofDefinition entries name

/-- A column is found under the key of its definition. -/
theorem Entity.property?_ofDefinition {name key : String} (entries : Entries)
    (hname : Naming.isGeneratable name = true) (hkey : Naming.isGeneratable key = true) :
    (ofDefinition name (.mapping entries)).property? key =
      (entries.get? key).map (Property.ofDefinition key) := by
  have properties : (ofDefinition name (.mapping entries)).properties =
      (entries.filter fun entry => Naming.isGeneratable entry.1).map fun entry =>
        Property.ofDefinition entry.1 entry.2 := by
    rw [ofDefinition, if_pos hname]
  rw [property?, properties, find?_map_named Property.name_ofDefinition, lookup_filter_key hkey]
  rfl

-- ========================================================== rejection

/-- The value is neither a mapping nor null. -/
def Value.IsNonMapping : Value → Prop
  | .null => False
  | .mapping _ => False
  | _ => True

/-- An entity that is kept with what defines it, without columns, and that no class can be made
of. -/
structure Entity.Rejected (entity : Entity) : Prop where
  kept : entity.nonMapping.isSome = true
  properties : entity.properties = []
  unrendered : ∀ package, ∃ found, Class.render entity package = .error (.notAMapping found)

/-- A column that is kept with what defines it, without metadata, and that is reported with the
class of its entity. -/
structure Property.Rejected (entity : Entity) (property : Property) : Prop where
  kept : property.nonMapping.isSome = true
  metadata : property.metadata = []
  reported : ∀ package cls, Class.render entity package = .ok cls →
    ∃ found, ⟨entity.name, property.name, .notAMapping found⟩ ∈ cls.skipped

theorem Class.render_of_nonMapping {entity : Entity} {definition : Value}
    (h : entity.nonMapping = some definition) (package : String) :
    render entity package = .error (.notAMapping definition.kind) := by
  unfold render nameOf
  rw [h]
  rfl

/-- The column is among those that a class is left without. -/
theorem Class.mem_skipped_of_nonMapping {entity : Entity} {property : Property}
    {definition : Value} {package : String} {cls : Class} (mem : property ∈ entity.properties)
    (h : property.nonMapping = some definition) (rendered : render entity package = .ok cls) :
    ⟨entity.name, property.name, .notAMapping definition.kind⟩ ∈ cls.skipped := by
  obtain ⟨front, back, parts⟩ := List.append_of_mem mem
  obtain ⟨name, named, rfl⟩ := render_eq_ok_iff.1 rendered
  exact Field.mem_ofProperties_iff.2
    ⟨front, property, back, _, parts,
      Field.ofPropertyAfter_of_error (Field.ofProperty_of_nonMapping h), rfl⟩

/-- An entity is rejected exactly if its definition is neither a mapping nor null. -/
theorem Entity.rejected_ofDefinition_iff (name : String) (definition : Value) :
    (ofDefinition name definition).Rejected ↔ definition.IsNonMapping := by
  constructor
  · intro rejected
    have kept := rejected.kept
    cases definition with
    | null => cases kept
    | mapping entries =>
        rw [ofDefinition] at kept
        split at kept
        · cases kept
        · cases kept
    | _ => trivial
  · intro isNonMapping
    cases definition with
    | null => cases isNonMapping
    | mapping entries => cases isNonMapping
    | _ => exact ⟨rfl, rfl, fun package => ⟨_, Class.render_of_nonMapping rfl package⟩⟩

/-- A column of an entity is rejected exactly if its definition is neither a mapping nor null. -/
theorem Property.rejected_ofDefinition_iff {entity : Entity} {name : String} {definition : Value}
    (mem : ofDefinition name definition ∈ entity.properties) :
    Rejected entity (ofDefinition name definition) ↔ definition.IsNonMapping := by
  constructor
  · intro rejected
    have kept := rejected.kept
    cases definition with
    | null => cases kept
    | mapping entries => cases kept
    | _ => trivial
  · intro isNonMapping
    cases definition with
    | null => cases isNonMapping
    | mapping entries => cases isNonMapping
    | _ =>
        exact ⟨rfl, rfl, fun package cls rendered =>
          ⟨_, Class.mem_skipped_of_nonMapping mem rfl rendered⟩⟩

-- ========================================================== documents

/-- Anything but a mapping or null. -/
def Form.IsNonMapping (form : Form) : Prop := form ≠ .mapping ∧ form ≠ .null

/-- There are values of this form. -/
def Form.HasCounterpart (form : Form) : Prop := form ≠ .unbounded ∧ form ≠ .moment

namespace Document

variable {d : Document} {node : d.Node} {value : Value}

/-- What is no mapping in a document is none as a value, if there are values of its form. -/
theorem Reads.isNonMapping_iff (read : d.Reads node value) (other : (d.form node).IsNonMapping) :
    value.IsNonMapping ↔ (d.form node).HasCounterpart := by
  cases read with
  | null form => exact absurd form other.2
  | mapping form => exact absurd form other.1
  | unbounded form => simp [Value.IsNonMapping, Form.HasCounterpart, form]
  | moment form => simp [Value.IsNonMapping, Form.HasCounterpart, form]
  | sequence form => simp [Value.IsNonMapping, Form.HasCounterpart, form]
  | scalar form scalar =>
      rw [form]
      refine ⟨fun _ => ⟨by simp, by simp⟩, fun _ => ?_⟩
      cases value with
      | null => cases scalar
      | mapping => cases scalar
      | _ => trivial

/-- The node that lists the entities: it stands under the key of the container, or is all there is in
a sequence. -/
inductive Container (d : Document) (node : d.Node) : Prop
  | bound (root : d.form d.root = .mapping) (bound : d.get? d.root containerKey = some node)
  | item (root : d.form d.root = .sequence) (only : d.items d.root = [node])

/-- A mapping that lists the entities is read as their entries. -/
theorem Lists.reads {format : Format} {entries : Entries} (lists : d.Lists format entries)
    (container : d.Container node) (mapping : d.form node = .mapping) :
    d.Reads node (.mapping entries) := by
  cases container with
  | bound isMapping under =>
      cases lists with
      | container root bound form read =>
          cases under.symm.trans bound
          exact read
      | item root => cases isMapping.symm.trans root
      | moment root bound form =>
          cases under.symm.trans bound
          cases mapping.symm.trans form
      | blank root bound form =>
          cases under.symm.trans bound
          exact absurd mapping form
  | item isSequence own =>
      cases lists with
      | container root => cases isSequence.symm.trans root
      | item root only form read =>
          cases own.symm.trans only
          exact read
      | moment root => cases isSequence.symm.trans root
      | blank root => cases isSequence.symm.trans root

/-- The entity that a body defines: of the body and of what defines its columns, what is no mapping is
rejected exactly if there are values of its form. -/
structure Defines (d : Document) (body : d.Node) (entity : Entity) : Prop where
  own : (d.form body).IsNonMapping → (entity.Rejected ↔ (d.form body).HasCounterpart)
  columns : d.form body = .mapping → ∀ key definition, d.get? body key = some definition →
    Naming.isGeneratable key = true →
      ∃ property, entity.property? key = some property ∧
        ((d.form definition).IsNonMapping →
          (Property.Rejected entity property ↔ (d.form definition).HasCounterpart))

/-- A body defines the entity that is made of its value. -/
theorem Reads.defines {name : String} (read : d.Reads node value)
    (generatable : Naming.isGeneratable name = true) :
    d.Defines node (Entity.ofDefinition name value) := by
  refine ⟨fun other => ?_, fun mapping key definition defined own => ?_⟩
  · rw [Entity.rejected_ofDefinition_iff]
    exact read.isNonMapping_iff other
  · obtain ⟨entries, rfl, -, bound⟩ := read.exists_of_mapping mapping
    obtain ⟨inner, found, read⟩ := exists_of_rel (bound key) defined
    have property : (Entity.ofDefinition name (.mapping entries)).property? key =
        some (Property.ofDefinition key inner) := by
      rw [Entity.property?_ofDefinition entries generatable own, found]
      rfl
    refine ⟨_, property, fun other => ?_⟩
    rw [Property.rejected_ofDefinition_iff (List.mem_of_find?_eq_some property)]
    exact read.isNonMapping_iff other

end Document

namespace Schema

/-- Whatever a document defines, in a text that is taken for a schema, is an entity of the schema. What
is no mapping is rejected, as an entity or as a column, exactly if there are values of its form. -/
theorem defines_of_ofText {format : Format} {text : String} {schema : Schema}
    (accepted : ofText format text = .ok schema) :
    ∃ document, format.document? text = some document ∧
      ∀ container, document.Container container → document.form container = .mapping →
        ∀ name body, document.get? container name = some body →
          Naming.isGeneratable name = true →
            ∃ entity, schema.entity? name = some entity ∧ document.Defines body entity := by
  obtain ⟨entries, read, rfl⟩ := exists_entries_of_ofText accepted
  obtain ⟨document, spelled, lists⟩ := Format.lists_of_entries? read
  refine ⟨document, spelled, fun container isContainer mapping name body bound own => ?_⟩
  obtain ⟨all, eq, -, keys⟩ := (lists.reads isContainer mapping).exists_of_mapping mapping
  cases eq
  obtain ⟨value, found, read⟩ := exists_of_rel (keys name) bound
  refine ⟨Entity.ofDefinition name value, ?_, read.defines own⟩
  rw [entity?_ofEntries, found]
  rfl

/-- An entity with a text for a column, and a sequence for an entity. -/
def notesYaml : String :=
  "propel:\n  account:\n    _attributes:\n      phpName: Account\n    note: text\n  tags: [a]\n"

theorem defines_notesYaml :
    ∃ schema, ofText .yaml notesYaml = .ok schema ∧
      (∃ tags, schema.entity? "tags" = some tags ∧ tags.Rejected) ∧
      ∃ account, schema.entity? "account" = some account ∧
        ∃ note, account.property? "note" = some note ∧ note.Rejected account := by
  have names : ((ofText .yaml notesYaml).map Schema.names).toOption = some ["account", "tags"] := by
    decide +kernel
  have seen : (Format.document? .yaml notesYaml).bind (fun d => do
      let container ← d.get? d.root containerKey
      let tags ← d.get? container "tags"
      let account ← d.get? container "account"
      let note ← d.get? account "note"
      return [d.root, container, tags, account, note].map d.form) =
        some [.mapping, .mapping, .sequence, .mapping, .scalar] := by
    decide +kernel
  cases accepted : ofText .yaml notesYaml with
  | error error =>
      rw [accepted] at names
      cases names
  | ok schema =>
      obtain ⟨document, spelled, defines⟩ := defines_of_ofText accepted
      rw [spelled, Option.bind_some] at seen
      obtain ⟨container, bound, seen⟩ := Option.bind_eq_some_iff.1 seen
      obtain ⟨tags, hasTags, seen⟩ := Option.bind_eq_some_iff.1 seen
      obtain ⟨account, hasAccount, seen⟩ := Option.bind_eq_some_iff.1 seen
      obtain ⟨note, hasNote, seen⟩ := Option.bind_eq_some_iff.1 seen
      obtain ⟨root, mapping, sequence, body, text⟩ : document.form document.root = .mapping ∧
          document.form container = .mapping ∧ document.form tags = .sequence ∧
          document.form account = .mapping ∧ document.form note = .scalar := by
        simpa using seen
      have entities := defines container (.bound root bound) mapping
      obtain ⟨tagsEntity, foundTags, ofTags⟩ := entities "tags" tags hasTags (by decide)
      obtain ⟨accountEntity, foundAccount, ofAccount⟩ :=
        entities "account" account hasAccount (by decide)
      obtain ⟨column, foundNote, ofNote⟩ := ofAccount.columns body "note" note hasNote (by decide)
      have ofEntity := ofTags.own
      rw [sequence] at ofEntity
      rw [text] at ofNote
      refine ⟨schema, rfl, ⟨tagsEntity, foundTags, ?_⟩, accountEntity, foundAccount, column,
        foundNote, ?_⟩
      · exact (ofEntity ⟨by decide, by decide⟩).2 ⟨by decide, by decide⟩
      · exact (ofNote ⟨by decide, by decide⟩).2 ⟨by decide, by decide⟩

/-- A moment for a column and for an entity, and a number without a bound for a column. -/
def openedToml : String :=
  "[propel]\nclosed = 1979-05-27\n\n[propel.account]\n_attributes = \x7bphpName = 'Account'\x7d\n" ++
    "opened = 1979-05-27\nlimit = inf\n"

/-- None of them is kept as no mapping: the moment is a column without a type, or the definition of an
entity with a column, and so is the number. -/
theorem reports_openedToml :
    (Format.document? .toml openedToml).bind (fun d => do
      let container ← d.get? d.root containerKey
      let account ← d.get? container "account"
      let closed ← d.get? container "closed"
      let opened ← d.get? account "opened"
      let limit ← d.get? account "limit"
      return [d.root, container, account, closed, opened, limit].map d.form) =
        some [.mapping, .mapping, .mapping, .moment, .moment, .unbounded] ∧
    ((ofText .toml openedToml).toOption.bind (·.entity? "account")).bind
        (fun account => (Class.render account "demo.model").toOption.map (·.skipped)) =
      some [⟨"account", "limit", .missingType⟩, ⟨"account", "opened", .missingType⟩] ∧
    ((ofText .toml openedToml).toOption.bind (·.entity? "closed")).map
        (fun closed => (closed.nonMapping.isSome, closed.properties.map (·.name))) =
      some (false, ["$__toml_private_datetime"]) := by
  decide +kernel

end Schema

end SchemaClasses
