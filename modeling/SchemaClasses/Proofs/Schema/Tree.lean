/-
Schema trees: what a schema document says, whatever format it is in.

A tree lists entities, an entity lists keys, and what is bound to a key
is a mapping to scalars; every list has distinct keys and an order. A
tree stands for a schema. With all its keys in ascending order it stands
for a schema too, and this section says exactly when for the same one.
-/
import SchemaClasses.Proofs.Value.Keyed
import SchemaClasses.Schema.Basic

namespace SchemaClasses

open Naming (isGeneratable)

/-- A scalar of a schema tree. -/
inductive Leaf where
  | text (s : String)
  /-- A whole number that 64 bits can hold with a sign. -/
  | whole (n : Int) (least : -0x8000000000000000 ≤ n) (greatest : n < 0x8000000000000000)
  | bool (b : Bool)

/-- What a scalar stands for. -/
def Leaf.value : Leaf → Value
  | .text s => .string s
  | .whole n _ _ => .number (.whole n)
  | .bool b => .bool b

/-- A number that 64 bits can hold with a sign fits all numbers of bits from there on. -/
theorem fitsBits_of_signed {n : Int} (least : -0x8000000000000000 ≤ n)
    (greatest : n < 0x8000000000000000) :
    fitsBits 64 n = true ∧ fitsBits 128 n = true := by
  simp only [fitsBits, Bool.and_eq_true, decide_eq_true_eq, Nat.pow_eq]
  omega

-- =========================================================== mappings

namespace Keyed

variable {α : Type}

/-- The entries that keys stand for, given what the things bound to them stand for. -/
def bindings (f : α → Value) (k : Keyed α) : Entries :=
  k.entries.map fun entry => (entry.1, f entry.2)

/-- The mapping that keys stand for. -/
def value (f : α → Value) (k : Keyed α) : Value := .mapping (k.bindings f)

/-- Bindings of distinct keys are the entries themselves. -/
theorem ofBindings_bindings (f : α → Value) (k : Keyed α) :
    Entries.ofBindings (k.bindings f) = k.bindings f := by
  apply Entries.ofBindings_of_nodup
  rw [bindings, List.map_map]
  exact k.distinct

/-- The keys in ascending order, what is bound to them changed. -/
def ascending (f : α → α) (k : Keyed α) : Keyed α where
  entries := (ascend k.entries).map fun entry => (entry.1, f entry.2)
  distinct := by
    rw [List.map_map]
    exact ((perm_ascend k.entries).map Prod.fst).nodup_iff.2 k.distinct

/-- Keys in ascending order stay as they are. -/
theorem ascending_ascending {f : α → α} (again : ∀ a, f (f a) = f a) (k : Keyed α) :
    (k.ascending f).ascending f = k.ascending f := by
  have ascends : Ascending (k.ascending f).entries :=
    (ascending_map f).2 (ascending_ascend k.distinct)
  have entries : ((k.ascending f).ascending f).entries = (k.ascending f).entries := by
    show (ascend (k.ascending f).entries).map (fun entry => (entry.1, f entry.2)) = _
    rw [(ascend_eq_self_iff (k.ascending f).distinct).2 ascends]
    show ((ascend k.entries).map fun entry => (entry.1, f entry.2)).map _ = _
    rw [List.map_map]
    exact List.map_congr_left fun entry _ => congrArg (Prod.mk entry.1) (again entry.2)
  exact Keyed.ext entries

end Keyed

/-- What is bound to a key of an entity. -/
abbrev Column := Keyed Leaf

/-- What is bound to the name of an entity. -/
abbrev Definition := Keyed Column

/-- The contents of a schema document. -/
abbrev SchemaTree := Keyed Definition

def Column.value (column : Column) : Value := Keyed.value Leaf.value column

def Column.ascending (column : Column) : Column := Keyed.ascending id column

def Definition.value (definition : Definition) : Value := Keyed.value Column.value definition

def Definition.ascending (definition : Definition) : Definition :=
  Keyed.ascending Column.ascending definition

/-- The entity that a definition describes: its columns and its metadata, each in their order. All
of an underscore entity is metadata. -/
def Definition.entity (name : String) (definition : Definition) : Entity :=
  if isGeneratable name then
    { name
      metadata := (definition.entries.filter fun column => !isGeneratable column.1).map
        fun column => (column.1, column.2.value)
      properties := (definition.entries.filter fun column => isGeneratable column.1).map
        fun column => ⟨column.1, column.2.bindings Leaf.value, none⟩
      nonMapping := none }
  else ⟨name, definition.bindings Column.value, [], none⟩

namespace SchemaTree

/-- The entries that a document of this tree lists. -/
def bindings (tree : SchemaTree) : Entries := Keyed.bindings Definition.value tree

/-- The schema that the tree stands for: its entities, in their order. -/
def schema (tree : SchemaTree) : Schema :=
  ⟨tree.entries.map fun entity => entity.2.entity entity.1⟩

/-- The tree with the keys of all its mappings in ascending order. -/
def ascending (tree : SchemaTree) : SchemaTree := Keyed.ascending Definition.ascending tree

end SchemaTree

theorem Definition.ofDefinition_value (name : String) (definition : Definition) :
    Entity.ofDefinition name definition.value = definition.entity name := by
  unfold Entity.ofDefinition entity
  rw [value, Keyed.value, Keyed.bindings]
  by_cases generatable : isGeneratable name = true
  · simp only [if_pos generatable, List.filter_map, List.map_map]
    rfl
  · simp only [if_neg generatable, Keyed.bindings]

/-- The entries of a tree make up its schema. -/
theorem SchemaTree.ofEntries_bindings (tree : SchemaTree) :
    Schema.ofEntries tree.bindings = tree.schema := by
  have each : ∀ entity : String × Definition,
      Entity.ofDefinition entity.1 entity.2.value = entity.2.entity entity.1 :=
    fun entity => entity.2.ofDefinition_value entity.1
  rw [Schema.ofEntries, bindings, Keyed.bindings, List.map_map, schema]
  exact congrArg Schema.mk (List.map_congr_left fun entity _ => each entity)

-- ===================================================== where order shows

/-- The entries of a definition that a schema keeps apart: the columns and the metadata of an
entity, or the metadata alone. Only within such a part does their order show. -/
def partsOf {α : Type} (name : String) (entries : List (String × α)) : List (List (String × α)) :=
  if isGeneratable name then
    [entries.filter fun entry => isGeneratable entry.1,
      entries.filter fun entry => !isGeneratable entry.1]
  else [entries]

/-- Nothing of the order of the tree's keys is lost when they are put in ascending order: the
entities ascend, so do the columns and the metadata of each, and so do the keys of each of these. -/
structure SchemaTree.InOrder (tree : SchemaTree) : Prop where
  entities : Ascending tree.entries
  parts : ∀ entity ∈ tree.entries, ∀ part ∈ partsOf entity.1 entity.2.entries, Ascending part
  columns : ∀ entity ∈ tree.entries, ∀ column ∈ entity.2.entries, Ascending column.2.entries

/-- A rearrangement with other values is the list itself exactly if the keys ascend and the values
are the same. -/
theorem map_ascend_eq_map_iff {α β : Type} {f g : α → β} {entries : List (String × α)}
    (distinct : (entries.map Prod.fst).Nodup) :
    (ascend entries).map (fun entry => (entry.1, f entry.2)) =
        entries.map (fun entry => (entry.1, g entry.2)) ↔
      Ascending entries ∧ ∀ entry ∈ entries, f entry.2 = g entry.2 := by
  constructor
  · intro same
    have keys : Ascending (entries.map fun entry => (entry.1, g entry.2)) := by
      rw [← same]
      exact (ascending_map f).2 (ascending_ascend distinct)
    have ascending : Ascending entries := (ascending_map g).1 keys
    rw [(ascend_eq_self_iff distinct).2 ascending] at same
    refine ⟨ascending, fun entry mem => ?_⟩
    exact (Prod.mk.inj (List.map_inj_left.1 same entry mem)).2
  · rintro ⟨ascending, values⟩
    rw [(ascend_eq_self_iff distinct).2 ascending]
    exact List.map_congr_left fun entry mem => by rw [values entry mem]

/-- A column has the same entries in ascending order exactly if its keys ascend. -/
theorem Column.bindings_ascending_eq_iff (column : Column) :
    column.ascending.bindings Leaf.value = column.bindings Leaf.value ↔
      Ascending column.entries := by
  have entries : column.ascending.bindings Leaf.value =
      (ascend column.entries).map fun entry => (entry.1, entry.2.value) := by
    rw [Keyed.bindings, ascending, Keyed.ascending, List.map_map]
    rfl
  rw [entries, Keyed.bindings, map_ascend_eq_map_iff column.distinct]
  exact and_iff_left fun _ _ => rfl

/-- The parts of entries hold the entries and no others. -/
theorem mem_partsOf {α : Type} {name : String} {entries : List (String × α)}
    {entry : String × α} : (∃ part ∈ partsOf name entries, entry ∈ part) ↔ entry ∈ entries := by
  unfold partsOf
  split
  · by_cases generatable : isGeneratable entry.1 = true <;> simp [generatable]
  · simp

/-- No key occurs twice in a part of entries in which none does. -/
theorem nodup_of_mem_partsOf {α : Type} {name : String} {entries part : List (String × α)}
    (distinct : (entries.map Prod.fst).Nodup) (mem : part ∈ partsOf name entries) :
    (part.map Prod.fst).Nodup := by
  have sublist : part.Sublist entries := by
    unfold partsOf at mem
    split at mem
    · rcases List.mem_cons.1 mem with rfl | mem
      · exact List.filter_sublist
      · rw [List.mem_singleton.1 mem]
        exact List.filter_sublist
    · cases List.mem_singleton.1 mem
      exact List.Sublist.refl entries
  exact (sublist.map Prod.fst).nodup distinct

/-- The parts of entries are changed when the entries are. -/
theorem partsOf_map {α β : Type} (f : α → β) (name : String) (entries : List (String × α)) :
    partsOf name (entries.map fun entry => (entry.1, f entry.2)) =
      (partsOf name entries).map fun part => part.map fun entry => (entry.1, f entry.2) := by
  unfold partsOf
  split
  · simp only [List.filter_map, List.map_cons, List.map_nil]
    rfl
  · rfl

/-- The parts of entries are brought into order when the entries are. -/
theorem partsOf_ascend {α : Type} (name : String) {entries : List (String × α)}
    (distinct : (entries.map Prod.fst).Nodup) :
    partsOf name (ascend entries) = (partsOf name entries).map ascend := by
  unfold partsOf
  split
  · simp only [List.map_cons, List.map_nil, ascend_filter _ distinct]
  · rfl

/-- An entity described by a mapping of mappings is known by the parts of the mapping. -/
theorem Entity.ofDefinition_eq_iff {name : String} {front back : List (String × Entries)} :
    Entity.ofDefinition name (.mapping (front.map fun entry => (entry.1, .mapping entry.2))) =
        Entity.ofDefinition name (.mapping (back.map fun entry => (entry.1, .mapping entry.2))) ↔
      partsOf name front = partsOf name back := by
  have mappings : ∀ first second : String × Entries,
      (first.1, Value.mapping first.2) = (second.1, Value.mapping second.2) → first = second := by
    intro first second eq
    obtain ⟨keys, values⟩ := Prod.mk.inj eq
    exact Prod.ext keys (Value.mapping.inj values)
  have columns : ∀ first second : String × Entries,
      Property.ofDefinition first.1 (.mapping first.2) =
        Property.ofDefinition second.1 (.mapping second.2) → first = second := by
    intro first second eq
    obtain ⟨keys, values, -⟩ := Property.mk.inj eq
    exact Prod.ext keys values
  unfold Entity.ofDefinition partsOf
  by_cases generatable : Naming.isGeneratable name = true
  · simp only [if_pos generatable, Entity.mk.injEq, List.filter_map, List.map_map, true_and,
      and_true, List.cons.injEq]
    rw [and_comm]
    exact and_congr (List.map_inj_right columns) (List.map_inj_right mappings)
  · simp only [if_neg generatable, Entity.mk.injEq, true_and, and_true, List.cons.injEq]
    exact List.map_inj_right mappings

/-- An entity is the same in ascending order exactly if its parts ascend and so do the keys of all
its columns. -/
theorem Definition.entity_ascending_eq_iff (name : String) (definition : Definition) :
    definition.ascending.entity name = definition.entity name ↔
      (∀ part ∈ partsOf name definition.entries, Ascending part) ∧
        ∀ column ∈ definition.entries, Ascending column.2.entries := by
  have front : definition.ascending.value = .mapping
      (((ascend definition.entries).map fun column =>
        (column.1, column.2.ascending.bindings Leaf.value)).map fun entry =>
          (entry.1, .mapping entry.2)) := by
    rw [value, Keyed.value, Keyed.bindings, ascending, Keyed.ascending, List.map_map, List.map_map]
    rfl
  have back : definition.value = .mapping
      ((definition.entries.map fun column =>
        (column.1, column.2.bindings Leaf.value)).map fun entry => (entry.1, .mapping entry.2)) := by
    rw [value, Keyed.value, Keyed.bindings, List.map_map]
    rfl
  rw [← ofDefinition_value, ← ofDefinition_value, front, back, Entity.ofDefinition_eq_iff,
    partsOf_map (fun column : Column => column.ascending.bindings Leaf.value),
    partsOf_map (fun column : Column => column.bindings Leaf.value),
    partsOf_ascend name definition.distinct, List.map_map, List.map_inj_left]
  have each : ∀ part ∈ partsOf name definition.entries,
      ((ascend part).map fun column => (column.1, column.2.ascending.bindings Leaf.value)) =
          (part.map fun column => (column.1, column.2.bindings Leaf.value)) ↔
        Ascending part ∧ ∀ column ∈ part, Ascending column.2.entries := by
    intro part mem
    rw [map_ascend_eq_map_iff (f := fun column : Column => column.ascending.bindings Leaf.value)
      (g := fun column : Column => column.bindings Leaf.value)
      (nodup_of_mem_partsOf definition.distinct mem)]
    simp only [Column.bindings_ascending_eq_iff]
  constructor
  · intro same
    refine ⟨fun part mem => ((each part mem).1 (same part mem)).1, fun column mem => ?_⟩
    obtain ⟨part, hpart, hcolumn⟩ : ∃ part ∈ partsOf name definition.entries, column ∈ part :=
      mem_partsOf.2 mem
    exact ((each part hpart).1 (same part hpart)).2 column hcolumn
  · rintro ⟨parts, columns⟩ part mem
    refine (each part mem).2 ⟨parts part mem, fun column hcolumn => ?_⟩
    exact columns column (mem_partsOf.1 ⟨part, mem, hcolumn⟩)

theorem Definition.name_entity (name : String) (definition : Definition) :
    (definition.entity name).name = name := by
  unfold entity
  split <;> rfl

/-- The schema of a tree is that of the tree in ascending order exactly if nothing is lost by it. -/
theorem SchemaTree.schema_ascending_eq_iff (tree : SchemaTree) :
    tree.ascending.schema = tree.schema ↔ tree.InOrder := by
  have front : tree.ascending.schema.entities = (ascend tree.entries).map fun entity =>
      entity.2.ascending.entity entity.1 := by
    rw [schema, ascending, Keyed.ascending, List.map_map]
    rfl
  rw [Schema.mk.injEq, front]
  show (ascend tree.entries).map _ = tree.entries.map _ ↔ _
  constructor
  · intro same
    have names := congrArg (List.map (·.name)) same
    simp only [List.map_map, Function.comp_def, Definition.name_entity] at names
    have ascends : Ascending tree.entries := by
      have keys : ((ascend tree.entries).map fun entity => entity.1).Pairwise (· < ·) :=
        List.pairwise_map.2 (ascending_ascend tree.distinct)
      rw [names] at keys
      exact List.pairwise_map.1 keys
    rw [(ascend_eq_self_iff tree.distinct).2 ascends, List.map_inj_left] at same
    refine ⟨ascends, fun entity mem => ?_, fun entity mem => ?_⟩
    · exact ((Definition.entity_ascending_eq_iff entity.1 entity.2).1 (same entity mem)).1
    · exact ((Definition.entity_ascending_eq_iff entity.1 entity.2).1 (same entity mem)).2
  · rintro ⟨ascends, parts, columns⟩
    rw [(ascend_eq_self_iff tree.distinct).2 ascends, List.map_inj_left]
    intro entity mem
    exact (Definition.entity_ascending_eq_iff entity.1 entity.2).2
      ⟨parts entity mem, columns entity mem⟩

theorem SchemaTree.ascending_ascending (tree : SchemaTree) :
    tree.ascending.ascending = tree.ascending := by
  have column (column : Column) : column.ascending.ascending = column.ascending :=
    Keyed.ascending_ascending (fun _ => rfl) column
  have definition (definition : Definition) : definition.ascending.ascending = definition.ascending :=
    Keyed.ascending_ascending column definition
  exact Keyed.ascending_ascending definition tree

/-- Nothing more is lost by putting keys in ascending order again. -/
theorem SchemaTree.inOrder_ascending (tree : SchemaTree) : tree.ascending.InOrder :=
  tree.ascending.schema_ascending_eq_iff.1 (congrArg schema tree.ascending_ascending)

end SchemaClasses
