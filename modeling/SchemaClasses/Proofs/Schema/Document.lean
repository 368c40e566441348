/-
What a document says, whatever its format.

A document is a root and the nodes below it. Of a node one can see its
form, the entries of a mapping and the items of a sequence, all as they
are written: a key can occur several times, and then the last entry of
the key is the one that counts.

One relation tells which value a node is read as (`Document.Reads`). Two
forms have no counterpart among the values. A number without a bound
becomes null, and a moment becomes a mapping of one entry; all other
nodes keep their form. For each format it is shown that its reader makes
nothing but such values, so what follows from the relation holds of all
formats alike.
-/
import SchemaClasses.Proofs.Value.Lookup
import SchemaClasses.Schema.Document

namespace SchemaClasses

-- ========================================================== documents

/-- What a node is, apart from what is in it. -/
inductive Form where
  | null
  | mapping
  | sequence
  /-- A text, a boolean, or a number. -/
  | scalar
  /-- An infinity, or what is not a number. -/
  | unbounded
  /-- A date, a time, or both. -/
  | moment
deriving DecidableEq, Repr

/-- A document: nodes, and what can be seen of them. -/
structure Document where
  Node : Type
  root : Node
  form : Node → Form
  /-- The entries of a mapping, as they are written. -/
  entries : Node → List (String × Node)
  /-- The items of a sequence. -/
  items : Node → List Node
  /-- Nothing is written where the node stands, save perhaps a tag. -/
  isBlank : Node → Bool

/-- The node that a mapping binds to a key: of several the last one. -/
def Document.get? (d : Document) (node : d.Node) (key : String) : Option d.Node :=
  (d.entries node).reverse.lookup key

-- ============================================================= values

/-- The value is a boolean, a number or a string. -/
def Value.IsScalar : Value → Prop
  | .bool _ => True
  | .number _ => True
  | .string _ => True
  | _ => False

namespace Document

/-- What a node is read as. -/
inductive Reads (d : Document) : d.Node → Value → Prop
  | null {node : d.Node} (form : d.form node = .null) : Reads d node .null
  | unbounded {node : d.Node} (form : d.form node = .unbounded) : Reads d node .null
  | moment {node : d.Node} {text : String} (form : d.form node = .moment) :
      Reads d node (.mapping [(Toml.momentKey, .string text)])
  | scalar {node : d.Node} {value : Value} (form : d.form node = .scalar)
      (scalar : value.IsScalar) : Reads d node value
  | sequence {node : d.Node} {values : List Value} (form : d.form node = .sequence)
      (items : List.Forall₂ (Reads d) (d.items node) values) : Reads d node (.sequence values)
  | mapping {node : d.Node} {entries : Entries} (form : d.form node = .mapping)
      (distinct : (entries.map Prod.fst).Nodup)
      (bound : ∀ key, Option.Rel (Reads d) (d.get? node key) (entries.get? key)) :
      Reads d node (.mapping entries)

variable {d : Document} {node : d.Node}

/-- A mapping is read binding by binding. -/
theorem Reads.ofBindings {bindings : List (String × Value)} (form : d.form node = .mapping)
    (read : List.Forall₂ (SameKey d.Reads) (d.entries node) bindings) :
    d.Reads node (.mapping (Entries.ofBindings bindings)) := by
  refine .mapping form (Entries.nodup_ofBindings bindings) fun key => ?_
  rw [Entries.get?_ofBindings]
  exact rel_lookup_of_forall₂ (List.forall₂_reverse_iff.2 read) key

/-- A mapping of distinct keys can be read in any order. -/
theorem Reads.ofPerm {bindings entries : Entries} (form : d.form node = .mapping)
    (distinct : ((d.entries node).map Prod.fst).Nodup)
    (read : List.Forall₂ (SameKey d.Reads) (d.entries node) bindings)
    (perm : entries.Perm bindings) : d.Reads node (.mapping entries) := by
  rw [keys_eq_of_forall₂ read] at distinct
  have ordered : (entries.map Prod.fst).Nodup := (perm.map Prod.fst).nodup_iff.2 distinct
  refine .mapping form ordered fun key => ?_
  have turned : entries.Perm bindings.reverse := perm.trans (List.reverse_perm bindings).symm
  rw [Entries.get?, lookup_eq_of_perm turned ordered]
  exact rel_lookup_of_forall₂ (List.forall₂_reverse_iff.2 read) key

/-- Only mappings and moments are read as mappings. -/
theorem Reads.form_of_mapping {entries : Entries} (read : d.Reads node (.mapping entries)) :
    d.form node = .mapping ∨ d.form node = .moment := by
  cases read with
  | moment form => exact .inr form
  | scalar _ scalar => cases scalar
  | mapping form => exact .inl form

/-- A mapping is read as a mapping, which binds the same keys. -/
theorem Reads.exists_of_mapping {value : Value} (read : d.Reads node value)
    (form : d.form node = .mapping) :
    ∃ entries : Entries, value = .mapping entries ∧ (entries.map Prod.fst).Nodup ∧
      ∀ key, Option.Rel d.Reads (d.get? node key) (entries.get? key) := by
  cases read with
  | mapping _ distinct bound => exact ⟨_, rfl, distinct, bound⟩
  | null other => cases form.symm.trans other
  | unbounded other => cases form.symm.trans other
  | moment other => cases form.symm.trans other
  | scalar other => cases form.symm.trans other
  | sequence other => cases form.symm.trans other

-- ========================================================== contents

/-- Where the entries of a document come from. -/
inductive Lists (d : Document) : Format → Entries → Prop
  /-- The root binds the key of the container to a mapping. -/
  | container {format : Format} {node : d.Node} {entries : Entries}
      (root : d.form d.root = .mapping) (bound : d.get? d.root containerKey = some node)
      (form : d.form node = .mapping) (read : d.Reads node (.mapping entries)) :
      Lists d format entries
  /-- The root is a sequence, and its only item is a mapping. -/
  | item {node : d.Node} {entries : Entries} (root : d.form d.root = .sequence)
      (only : d.items d.root = [node]) (form : d.form node = .mapping)
      (read : d.Reads node (.mapping entries)) : Lists d .json entries
  /-- The root binds the key of the container to a moment. -/
  | moment {node : d.Node} {entries : Entries} (root : d.form d.root = .mapping)
      (bound : d.get? d.root containerKey = some node) (form : d.form node = .moment) :
      Lists d .toml entries
  /-- The root binds the key of the container to a node where nothing is written. -/
  | blank {node : d.Node} (root : d.form d.root = .mapping)
      (bound : d.get? d.root containerKey = some node) (form : d.form node ≠ .mapping)
      (blank : d.isBlank node = true) : Lists d .yaml []

end Document

end SchemaClasses
