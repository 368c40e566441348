/-
Which documents are taken for schemas.

The entities should be listed in a container: the root of the document is
a mapping, and binds a fixed key to a mapping. A document with a container
gives a schema with the keys of the container as names, each once. Every
format also lets one kind of document pass that has none, and no other
(`Document.Departs`). In JSON the root may be a sequence of one mapping,
which then stands for the container. In TOML a moment may stand where the
container should, and in YAML a tag with nothing behind it.
-/
import SchemaClasses.Proofs.Json.Contents
import SchemaClasses.Proofs.Schema.Distinct
import SchemaClasses.Proofs.Toml.Contents
import SchemaClasses.Proofs.Yaml.Contents

namespace SchemaClasses

-- ========================================================== documents

/-- The document that a text is. -/
def Format.document? : Format → String → Option Document
  | .yaml, text => (Yaml.root? text).map Yaml.Node.document
  | .json, text => (Json.Tree.ofText? text).map Json.Tree.document
  | .toml, text => (Toml.members? text).map Toml.Members.document

/-- What a format reads from a text is listed in its document. -/
theorem Format.lists_of_entries? {format : Format} {text : String} {entries : Entries}
    (h : format.entries? text = some (some entries)) :
    ∃ document, format.document? text = some document ∧ document.Lists format entries := by
  cases format with
  | yaml =>
      obtain ⟨root, spelled, lists⟩ := Yaml.lists_of_entries? h
      exact ⟨root.document, congrArg (Option.map _) spelled, lists⟩
  | json =>
      obtain ⟨root, spelled, lists⟩ := Json.lists_of_entries? h
      exact ⟨root.document, congrArg (Option.map _) spelled, lists⟩
  | toml =>
      obtain ⟨members, spelled, lists⟩ := Toml.lists_of_entries? h
      exact ⟨Toml.Members.document members, congrArg (Option.map _) spelled, lists⟩

namespace Document

/-- The root binds the key of the container to a mapping, and the names are the keys of that
mapping, each once. -/
def HasContainer (d : Document) (names : List String) : Prop :=
  d.form d.root = .mapping ∧ ∃ container, d.get? d.root containerKey = some container ∧
    d.form container = .mapping ∧ names.Nodup ∧
      ∀ name, name ∈ names ↔ (d.get? container name).isSome = true

/-- A document without a container that the format lets pass. -/
inductive Departs (d : Document) : Format → Prop
  /-- The root is a sequence of one mapping. -/
  | sequence {item : d.Node} (root : d.form d.root = .sequence) (only : d.items d.root = [item])
      (form : d.form item = .mapping) : Departs d .json
  /-- The key of the container is bound to a moment. -/
  | moment {node : d.Node} (root : d.form d.root = .mapping)
      (bound : d.get? d.root containerKey = some node) (form : d.form node = .moment) :
      Departs d .toml
  /-- The key of the container is bound to no mapping, with nothing written but a tag. -/
  | blank {node : d.Node} (root : d.form d.root = .mapping)
      (bound : d.get? d.root containerKey = some node) (form : d.form node ≠ .mapping)
      (blank : d.isBlank node = true) : Departs d .yaml

variable {d : Document} {format : Format} {entries : Entries}

/-- The keys of a mapping are those of the entries it is read as. -/
theorem mem_keys_iff {node : d.Node} (bound : ∀ key, Option.Rel d.Reads (d.get? node key)
    (entries.get? key)) (name : String) :
    name ∈ entries.map Prod.fst ↔ (d.get? node name).isSome = true := by
  rw [isSome_eq_of_rel (bound name), Entries.get?, List.lookup_isSome_iff, List.mem_map]
  constructor
  · rintro ⟨entry, mem, same⟩
    exact ⟨entry, mem, beq_iff_eq.2 same.symm⟩
  · rintro ⟨entry, mem, same⟩
    exact ⟨entry, mem, (beq_iff_eq.1 same).symm⟩

/-- A document lists the keys of its container, or departs from having one. -/
theorem Lists.hasContainer_or_departs (lists : d.Lists format entries) :
    d.HasContainer (entries.map Prod.fst) ∨ d.Departs format := by
  cases lists with
  | container root bound form read =>
      obtain ⟨own, eq, distinct, keys⟩ := read.exists_of_mapping form
      cases eq
      exact .inl ⟨root, _, bound, form, distinct, mem_keys_iff keys⟩
  | item root only form _ => exact .inr (.sequence root only form)
  | moment root bound form => exact .inr (.moment root bound form)
  | blank root bound form blank => exact .inr (.blank root bound form blank)

/-- A document with a container does not depart from having one. -/
theorem Departs.not_hasContainer (departs : d.Departs format) (names : List String) :
    ¬d.HasContainer names := by
  rintro ⟨root, container, bound, mapping, -⟩
  cases departs with
  | sequence other => cases root.symm.trans other
  | moment _ other form =>
      cases bound.symm.trans other
      cases mapping.symm.trans form
  | blank _ other form =>
      cases bound.symm.trans other
      exact form mapping

end Document

-- ============================================================ schemas

namespace Schema

variable {format : Format} {text : String} {schema : Schema}

/-- A schema is made of the entries that are read from its text. -/
theorem exists_entries_of_ofText (accepted : ofText format text = .ok schema) :
    ∃ entries, format.entries? text = some (some entries) ∧ schema = ofEntries entries := by
  unfold ofText at accepted
  split at accepted
  · cases accepted
  · cases accepted
  next entries read =>
    cases accepted
    exact ⟨entries, read, rfl⟩

/-- A text that is taken for a schema is a document with a container for its entities, unless it
departs from that in the way of its format. -/
theorem hasContainer_iff_of_ofText (accepted : ofText format text = .ok schema) :
    ∃ document, format.document? text = some document ∧
      (document.HasContainer schema.names ↔ ¬document.Departs format) := by
  obtain ⟨entries, read, rfl⟩ := exists_entries_of_ofText accepted
  obtain ⟨document, spelled, lists⟩ := Format.lists_of_entries? read
  refine ⟨document, spelled, ?_⟩
  rw [names_ofEntries]
  constructor
  · exact fun has departs => departs.not_hasContainer _ has
  · exact fun keeps => lists.hasContainer_or_departs.resolve_right keeps

/-- One entity in a container. -/
def userYaml : String := "propel:\n  user:\n    id:\n      type: INTEGER\n"

theorem hasContainer_userYaml :
    ∃ schema, ofText .yaml userYaml = .ok schema ∧ schema.names = ["user"] ∧
      ∃ document, Format.document? .yaml userYaml = some document ∧
        document.HasContainer schema.names := by
  have names : ((ofText .yaml userYaml).map Schema.names).toOption = some ["user"] := by
    decide +kernel
  have container : (Format.document? .yaml userYaml).bind
      (fun d => (d.get? d.root containerKey).map d.form) = some .mapping := by
    decide +kernel
  cases accepted : ofText .yaml userYaml with
  | error error =>
      rw [accepted] at names
      cases names
  | ok schema =>
      rw [accepted] at names
      obtain ⟨document, spelled, exactly⟩ := hasContainer_iff_of_ofText accepted
      refine ⟨schema, rfl, Option.some.inj names, document, spelled, exactly.2 fun departs => ?_⟩
      rw [spelled, Option.bind_some] at container
      cases departs with
      | blank _ bound form _ =>
          rw [bound] at container
          exact form (Option.some.inj container)

/-- The one item of a sequence. -/
def listedUser : String := "[\x7b\"user\": \x7b\"id\": \x7b\"type\": \"INTEGER\"\x7d\x7d\x7d]"

/-- Where the container should be: a sequence around it, a moment, a tag with nothing behind it. All
three are taken for schemas. -/
theorem accepts_without_container :
    ((Format.document? .json listedUser).map (fun d => d.form d.root) = some .sequence ∧
      ((ofText .json listedUser).map Schema.names).toOption = some ["user"]) ∧
    ((Format.document? .toml "propel = 1979-05-27\n").bind
        (fun d => (d.get? d.root containerKey).map d.form) = some .moment ∧
      ((ofText .toml "propel = 1979-05-27\n").map Schema.names).toOption =
        some ["$__toml_private_datetime"]) ∧
    ((Format.document? .yaml "propel: !!map\n").bind
        (fun d => (d.get? d.root containerKey).map d.form) = some .scalar ∧
      ((ofText .yaml "propel: !!map\n").map Schema.names).toOption = some []) := by
  decide +kernel

end Schema

end SchemaClasses
