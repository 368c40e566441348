/-
What a schema keeps of the container it is made from.

Nothing in a container is refused, so an entity should give back what it
was defined by (`Entity.definition`). It does, but for two things: null is
as good as a mapping of nothing, for the entity and for a column, and it is
not known how the entries with an underscore were mixed with the columns.

These differences are taken one at a time (`Differs`). The one
definition of nothing is written for the other, or two neighbours of
different sorts change places. None of them shows in the entity
(`ofDefinition_eq_of_differs`), and some of them lead from every
definition to the one that the entity gives back (`same_definition`):
from the back to the front, the null of a column is filled in and the
column goes behind the other entries. So the entities of two definitions
are the same exactly if such differences lead from the one to the other.

The other way round nothing at all is lost. A schema that has the
properties of all schemas is made from what it gives back
(`ofEntries_definitions`), so these properties are all there is to say
about schemas in general.
-/
import Mathlib.Data.List.Forall2
import Mathlib.Logic.Relation
import SchemaClasses.Proofs.Schema.Invariant

namespace SchemaClasses

-- ========================================================= given back

/-- Null filled in by a mapping of nothing. -/
def Value.filled : Value → Value
  | .null => .mapping []
  | other => other

/-- What a column gives back of its definition. -/
def Property.definition (property : Property) : Value :=
  property.nonMapping.getD (.mapping property.metadata)

/-- The entry that a column gives back. -/
def Property.entry (property : Property) : String × Value := (property.name, property.definition)

/-- What an entity gives back of its definition: the metadata, and then the columns. -/
def Entity.definition (entity : Entity) : Value :=
  entity.nonMapping.getD (.mapping (entity.metadata ++ entity.properties.map Property.entry))

/-- How an entity keeps its definition. -/
inductive Entity.Keeps (entity : Entity) : Value → Prop
  /-- Entries with an underscore are metadata as they are, all others columns. -/
  | columns {entries : Entries} (own : Naming.isBookkeeping entity.name = false)
      (metadata : entity.metadata = entries.filter fun entry => Naming.isBookkeeping entry.1)
      (properties : entity.properties.map Property.entry =
        (entries.filter fun entry => !Naming.isBookkeeping entry.1).map fun entry =>
          (entry.1, entry.2.filled))
      (none : entity.nonMapping = none) : Keeps entity (.mapping entries)
  /-- Bookkeeping is metadata as it is. -/
  | bookkeeping {entries : Entries} (own : Naming.isBookkeeping entity.name = true)
      (metadata : entity.metadata = entries) (properties : entity.properties = [])
      (none : entity.nonMapping = none) : Keeps entity (.mapping entries)
  | nothing (metadata : entity.metadata = []) (properties : entity.properties = [])
      (none : entity.nonMapping = none) : Keeps entity .null
  /-- What is no mapping is kept whole. -/
  | other {value : Value} (kind : value.kind ∈ [.boolean, .number, .string, .sequence])
      (metadata : entity.metadata = []) (properties : entity.properties = [])
      (kept : entity.nonMapping = some value) : Keeps entity value

-- ======================================================== differences

/-- One difference between two definitions of an entity. -/
inductive Differs (name : String) : Value → Value → Prop
  /-- Nothing is said about the entity, by null or by a mapping of nothing. -/
  | entity : Differs name .null (.mapping [])
  /-- Nothing is said about a column, by null or by a mapping of nothing. -/
  | column {key : String} (own : Naming.isBookkeeping name = false)
      (isColumn : Naming.isBookkeeping key = false) (front back : Entries) :
      Differs name (.mapping (front ++ (key, .null) :: back))
        (.mapping (front ++ (key, .mapping []) :: back))
  /-- A column stands in front of an entry with an underscore, or behind it. -/
  | order {column entry : String × Value} (own : Naming.isBookkeeping name = false)
      (isColumn : Naming.isBookkeeping column.1 = false)
      (isMetadata : Naming.isBookkeeping entry.1 = true) (front back : Entries) :
      Differs name (.mapping (front ++ column :: entry :: back))
        (.mapping (front ++ entry :: column :: back))

/-- Differences lead from one definition to the other. -/
def SameDefinition (name : String) : Value → Value → Prop := Relation.EqvGen (Differs name)

namespace Entity

variable {name : String} {first second : Value}

/-- A difference does not show in the entity. -/
theorem ofDefinition_eq_of_differs (h : Differs name first second) :
    ofDefinition name first = ofDefinition name second := by
  cases h with
  | entity =>
      cases own : Naming.isBookkeeping name with
      | true =>
          rw [ofDefinition_of_bookkeeping own]
          rfl
      | false =>
          rw [ofDefinition_of_columns own]
          rfl
  | column own isColumn front back =>
      rw [ofDefinition_of_columns own, ofDefinition_of_columns own]
      simp only [List.filter_append, List.filter_cons, isColumn, Bool.not_false, if_true,
        Bool.false_eq_true, if_false, List.map_append, List.map_cons]
      rfl
  | order own isColumn isMetadata front back =>
      rw [ofDefinition_of_columns own, ofDefinition_of_columns own]
      simp only [List.filter_append, List.filter_cons, isColumn, isMetadata, Bool.not_false,
        Bool.not_true, if_true, Bool.false_eq_true, if_false]

/-- Nor do several of them. -/
theorem ofDefinition_eq_of_same (h : SameDefinition name first second) :
    ofDefinition name first = ofDefinition name second := by
  induction h with
  | rel _ _ differs => exact ofDefinition_eq_of_differs differs
  | refl _ => rfl
  | symm _ _ _ ih => exact ih.symm
  | trans _ _ _ _ _ first second => exact first.trans second

end Entity

-- ================================================== one after the other

section
variable {name : String} (own : Naming.isBookkeeping name = false)
include own

/-- The null of a column may be filled in. -/
theorem same_filled {key : String} (isColumn : Naming.isBookkeeping key = false) (value : Value)
    (front back : Entries) :
    SameDefinition name (.mapping (front ++ (key, value) :: back))
      (.mapping (front ++ (key, value.filled) :: back)) := by
  cases value with
  | null => exact .rel _ _ (.column own isColumn front back)
  | _ => exact .refl _

/-- A column may stand behind all the entries with an underscore that follow it. -/
theorem same_behind {key : String} (isColumn : Naming.isBookkeeping key = false) (value : Value)
    {metadata : Entries} (isMetadata : ∀ entry ∈ metadata, Naming.isBookkeeping entry.1 = true)
    (front back : Entries) :
    SameDefinition name (.mapping (front ++ (key, value) :: (metadata ++ back)))
      (.mapping (front ++ (metadata ++ (key, value) :: back))) := by
  induction metadata generalizing front with
  | nil => exact .refl _
  | cons entry rest ih =>
      have step : Differs name (.mapping (front ++ (key, value) :: entry :: (rest ++ back)))
          (.mapping (front ++ entry :: (key, value) :: (rest ++ back))) :=
        .order own isColumn (isMetadata entry List.mem_cons_self) front (rest ++ back)
      have later := ih (fun other mem => isMetadata other (List.mem_cons_of_mem entry mem))
        (front ++ [entry])
      rw [List.append_assoc, List.append_assoc] at later
      exact .trans _ _ _ (.rel _ _ step) later

/-- All columns may stand behind the other entries, their nulls filled in. -/
theorem same_sorted (front entries : Entries) :
    SameDefinition name (.mapping (front ++ entries))
      (.mapping (front ++ ((entries.filter fun entry => Naming.isBookkeeping entry.1) ++
        (entries.filter fun entry => !Naming.isBookkeeping entry.1).map fun entry =>
          (entry.1, entry.2.filled)))) := by
  induction entries generalizing front with
  | nil => exact .refl _
  | cons entry rest ih =>
      have later := ih (front ++ [entry])
      rw [List.append_assoc, List.append_assoc, List.singleton_append,
        List.singleton_append] at later
      refine .trans _ _ _ later ?_
      cases sort : Naming.isBookkeeping entry.1 with
      | true =>
          simp only [List.filter_cons, sort, Bool.not_true, if_true, Bool.false_eq_true, if_false]
          exact .refl _
      | false =>
          simp only [List.filter_cons, sort, Bool.not_false, if_true, Bool.false_eq_true, if_false,
            List.map_cons]
          -- what follows is sorted, so the column goes behind the entries with an underscore there
          refine .trans _ _ _ (same_filled own sort entry.2 front _) ?_
          refine same_behind own sort entry.2.filled ?_ front _
          exact fun other mem => (List.mem_filter.1 mem).2

end

-- ======================================================= what is kept

/-- A column gives back its definition, with null filled in. -/
theorem Property.definition_ofDefinition (name : String) (value : Value) :
    (ofDefinition name value).definition = value.filled := by
  cases value <;> rfl

/-- Columns give back the entries that define them, with nulls filled in. -/
theorem Property.map_entry_ofDefinition (entries : Entries) :
    (entries.map fun entry => ofDefinition entry.1 entry.2).map Property.entry =
      entries.map fun entry => (entry.1, entry.2.filled) := by
  rw [List.map_map]
  refine List.map_congr_left fun entry _ => ?_
  exact Prod.ext (name_ofDefinition entry.1 entry.2) (definition_ofDefinition entry.1 entry.2)

namespace Entity

variable (name : String) (definition : Value)

/-- An entity keeps its definition. -/
theorem keeps_ofDefinition : (ofDefinition name definition).Keeps definition := by
  cases definition with
  | null => exact .nothing rfl rfl rfl
  | mapping entries =>
      cases own : Naming.isBookkeeping name with
      | true =>
          rw [ofDefinition_of_bookkeeping own]
          exact .bookkeeping own rfl rfl rfl
      | false =>
          rw [ofDefinition_of_columns own]
          exact .columns own rfl (Property.map_entry_ofDefinition _) rfl
  | _ => exact .other (by simp [Value.kind]) rfl rfl rfl

/-- Differences lead from the definition of an entity to the one it gives back. -/
theorem same_definition :
    SameDefinition name definition (ofDefinition name definition).definition := by
  cases definition with
  | null => exact .rel _ _ .entity
  | mapping entries =>
      cases own : Naming.isBookkeeping name with
      | true =>
          rw [ofDefinition_of_bookkeeping own]
          show SameDefinition name _ (.mapping (entries ++ []))
          rw [List.append_nil]
          exact .refl _
      | false =>
          have sorted := same_sorted own [] entries
          rw [ofDefinition_of_columns own]
          show SameDefinition name _ (.mapping (_ ++ List.map Property.entry _))
          rw [Property.map_entry_ofDefinition]
          exact sorted
  | _ => exact .refl _

/-- Two definitions make the same entity exactly if differences lead from one to the other. -/
theorem ofDefinition_eq_iff_same {name other : String} {first second : Value} :
    ofDefinition name first = ofDefinition other second ↔
      name = other ∧ SameDefinition name first second := by
  constructor
  · intro eq
    have names := congrArg Entity.name eq
    rw [name_ofDefinition, name_ofDefinition] at names
    subst names
    have forward := same_definition name first
    rw [eq] at forward
    exact ⟨rfl, .trans _ _ _ forward (.symm _ _ (same_definition name second))⟩
  · rintro ⟨rfl, same⟩
    exact ofDefinition_eq_of_same same

/-- A null is filled in, and a column goes behind a note. -/
example : ofDefinition "shelf" (.mapping [("width", .null), ("_note", .bool true)]) =
    ofDefinition "shelf" (.mapping [("_note", .bool true), ("width", .mapping [])]) := by
  rfl

end Entity

-- ====================================================== made once more

/-- A column is made from what it gives back. -/
theorem Property.ofDefinition_definition {property : Property} (wf : property.WellFormed) :
    ofDefinition property.name property.definition = property := by
  obtain ⟨name, metadata, kept⟩ := property
  cases kept with
  | none => rfl
  | some value =>
      obtain ⟨rfl, notNull, notMapping⟩ := wf.kept value rfl
      cases value with
      | null => exact absurd rfl notNull
      | mapping => exact absurd rfl notMapping
      | _ => rfl

/-- An entity is made from what it gives back. -/
theorem Entity.ofDefinition_definition {entity : Entity} (wf : entity.WellFormed) :
    ofDefinition entity.name entity.definition = entity := by
  obtain ⟨name, metadata, properties, kept⟩ := entity
  cases kept with
  | some value =>
      obtain ⟨rfl, rfl, notNull, notMapping⟩ := wf.kept value rfl
      cases value with
      | null => exact absurd rfl notNull
      | mapping => exact absurd rfl notMapping
      | _ => rfl
  | none =>
      show ofDefinition name (.mapping (metadata ++ properties.map Property.entry)) = _
      cases own : Naming.isBookkeeping name with
      | true =>
          have noColumns : properties = [] := wf.bookkeeping own
          rw [ofDefinition_of_bookkeeping own, noColumns, List.map_nil, List.append_nil]
      | false =>
          have isMetadata : ∀ entry ∈ metadata, Naming.isBookkeeping entry.1 = true :=
            fun entry mem => wf.metadata own entry.1 (List.mem_map_of_mem mem)
          have isColumn : ∀ entry ∈ properties.map Property.entry,
              Naming.isBookkeeping entry.1 = false := by
            intro entry mem
            obtain ⟨property, isProperty, rfl⟩ := List.mem_map.1 mem
            exact (wf.columns property isProperty).named
          have again : (properties.map Property.entry).map
              (fun entry => Property.ofDefinition entry.1 entry.2) = properties := by
            rw [List.map_map]
            refine (List.map_congr_left fun property mem => ?_).trans (List.map_id properties)
            exact Property.ofDefinition_definition (wf.columns property mem)
          have front : (metadata ++ properties.map Property.entry).filter
              (fun entry => Naming.isBookkeeping entry.1) = metadata := by
            rw [List.filter_append, List.filter_eq_self.2 isMetadata,
              List.filter_eq_nil_iff.2 fun entry mem => by simp [isColumn entry mem],
              List.append_nil]
          have back : (metadata ++ properties.map Property.entry).filter
              (fun entry => !Naming.isBookkeeping entry.1) = properties.map Property.entry := by
            rw [List.filter_append,
              List.filter_eq_nil_iff.2 fun entry mem => by simp [isMetadata entry mem],
              List.filter_eq_self.2 fun entry mem => by simp [isColumn entry mem], List.nil_append]
          rw [ofDefinition_of_columns own, front, back, again]

namespace Schema

/-- A schema has an entity for each entry of its container, in their order. The entity keeps the
definition and gives it back up to differences; and containers make the same schema exactly if such
differences are all there is between them. -/
theorem keeps_ofEntries (container : Entries) :
    List.Forall₂ (fun entry entity => entity.name = entry.1 ∧ entity.Keeps entry.2 ∧
        SameDefinition entry.1 entry.2 entity.definition)
      container (ofEntries container).entities ∧
    ∀ other : Entries, ofEntries other = ofEntries container ↔
      List.Forall₂ (fun first second => first.1 = second.1 ∧
        SameDefinition first.1 first.2 second.2) other container := by
  constructor
  · refine List.forall₂_map_right_iff.2 (List.forall₂_same.2 fun entry _ => ?_)
    exact ⟨Entity.name_ofDefinition entry.1 entry.2, Entity.keeps_ofDefinition entry.1 entry.2,
      Entity.same_definition entry.1 entry.2⟩
  · intro other
    rw [ofEntries, ofEntries, Schema.mk.injEq, ← List.forall₂_eq_eq_eq,
      List.forall₂_map_left_iff, List.forall₂_map_right_iff]
    simp only [Entity.ofDefinition_eq_iff_same]

/-- What a well-formed schema gives back is a container that it is made from. -/
theorem ofEntries_definitions {schema : Schema} (wf : schema.WellFormed) :
    ofEntries (schema.entities.map fun entity => (entity.name, entity.definition)) = schema := by
  rw [ofEntries, List.map_map]
  refine congrArg Schema.mk ?_
  refine (List.map_congr_left fun entity mem => ?_).trans (List.map_id schema.entities)
  exact Entity.ofDefinition_definition (wf.entities entity mem)

end Schema

end SchemaClasses
