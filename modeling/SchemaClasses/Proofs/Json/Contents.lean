/-
What a JSON text says.

Every tree but null and the two kinds of collections is a scalar. Names
without a text are no keys: no value has them.
-/
import SchemaClasses.Json.Value
import SchemaClasses.Proofs.Schema.Document

namespace SchemaClasses.Json

-- =========================================================== document

def Tree.form : Tree → Form
  | .null => .null
  | .bool _ => .scalar
  | .number _ _ => .scalar
  | .string _ => .scalar
  | .array _ => .sequence
  | .object _ => .mapping

def Tree.entries : Tree → List (String × Tree)
  | .object members => keyed id members
  | _ => []

def Tree.items : Tree → List Tree
  | .array items => items
  | _ => []

/-- The document that a tree is. There is no tree where nothing is written. -/
def Tree.document (root : Tree) : Document :=
  { Node := Tree, root, form := Tree.form, entries := Tree.entries, items := Tree.items,
    isBlank := fun _ => false }

variable {tree : Tree} {value : Value}

theorem Tree.form_ne_moment (tree : Tree) : tree.form ≠ .moment := by
  cases tree <;> simp [form]

-- ============================================================= values

/-- What is not a collection is read at any depth. -/
theorem reads_leaf (root : Tree) {depth : Nat} (leaf : tree.form = .null ∨ tree.form = .scalar)
    (h : value? depth tree = some value) : root.document.Reads tree value := by
  cases tree with
  | null =>
      rw [value?] at h
      cases h
      exact .null rfl
  | bool b =>
      rw [value?] at h
      cases h
      exact .scalar rfl trivial
  | number negative literal =>
      rw [value?] at h
      obtain ⟨n, -, rfl⟩ := Option.map_eq_some_iff.1 h
      exact .scalar rfl trivial
  | string text =>
      rw [value?] at h
      obtain ⟨s, -, rfl⟩ := Option.map_eq_some_iff.1 h
      exact .scalar rfl trivial
  | array items => simp [Tree.form] at leaf
  | object members => simp [Tree.form] at leaf

/-- The value of a tree is what its node is read as. -/
theorem reads_of_value? (root : Tree) {depth : Nat} (h : value? depth tree = some value) :
    root.document.Reads tree value := by
  induction depth generalizing tree value with
  | zero =>
      cases tree with
      | array items =>
          rw [value?] at h
          cases h
      | object members =>
          rw [value?] at h
          cases h
      | _ => exact reads_leaf root (by simp [Tree.form]) h
  | succ depth ih =>
      cases tree with
      | array items =>
          rw [value?] at h
          obtain ⟨values, read, rfl⟩ := Option.map_eq_some_iff.1 h
          exact .sequence rfl ((forall₂_of_mapM read).imp fun _ _ item => ih item)
      | object members =>
          rw [value?] at h
          obtain ⟨bindings, read, eq⟩ := Option.bind_eq_some_iff.1 h
          cases eq
          refine .ofBindings rfl (forall₂_keyed ((forall₂_of_mapM read).imp ?_))
          intro member binding h
          obtain ⟨name, named, h⟩ := Option.bind_eq_some_iff.1 h
          obtain ⟨inner, valued, h⟩ := Option.bind_eq_some_iff.1 h
          cases h
          exact ⟨named, ih valued⟩
      | _ => exact reads_leaf root (by simp [Tree.form]) h

-- =========================================================== contents

/-- A tree that stands for contents other than none is a mapping. -/
theorem reads_of_contents? (root : Tree) {entries : Entries}
    (h : contents? tree = some (some entries)) :
    tree.form = .mapping ∧ root.document.Reads tree (.mapping entries) := by
  have valued : value? (deepest - 1) tree = some (.mapping entries) := by
    unfold contents? at h
    split at h
    · cases h
    · obtain ⟨value, valued, h⟩ := Option.bind_eq_some_iff.1 h
      obtain ⟨own, mapping, h⟩ := Option.bind_eq_some_iff.1 h
      cases h
      cases value with
      | mapping own =>
          cases mapping
          exact valued
      | _ => cases mapping
  have read := reads_of_value? root valued
  exact ⟨read.form_of_mapping.resolve_right tree.form_ne_moment, read⟩

/-- Members that all have names are looked up by their names. -/
theorem zip_names {members : List (Option String × Tree)} {names : List String}
    (h : List.Forall₂ (fun member name => member.1 = some name) members names) :
    names.zip (members.map (·.2)) = keyed id members := by
  induction h with
  | nil => rfl
  | cons first others ih =>
      rename_i member name members names
      obtain ⟨own, tree⟩ := member
      cases first
      rw [List.map_cons, List.zip_cons_cons, ih]
      rfl

/-- The contents in an object are those of the one tree that the object binds the key to. -/
theorem exists_of_contentsOfMembers? {members : List (Option String × Tree)} {container : String}
    {entries : Entries} (h : contentsOfMembers? container members = some (some entries)) :
    ∃ tree, (Tree.document (.object members)).get? (.object members) container = some tree ∧
      contents? tree = some (some entries) := by
  obtain ⟨names, named, h⟩ := Option.bind_eq_some_iff.1 h
  rw [zip_names (forall₂_of_mapM named)] at h
  split at h
  · cases h
  next key tree only =>
    refine ⟨tree, ?_, h⟩
    show (keyed id members).reverse.lookup container = some tree
    rw [lookup_eq_head?_filter, List.filter_reverse, only]
    rfl
  · cases h

/-- The entries of a JSON text are those of a mapping: the container, or the only item of the
root. -/
theorem lists_of_entries? {text : String} {entries : Entries}
    (h : entries? containerKey text = some (some entries)) :
    ∃ root, Tree.ofText? text = some root ∧ root.document.Lists .json entries := by
  obtain ⟨root, spelled, h⟩ := Option.bind_eq_some_iff.1 h
  refine ⟨root, spelled, ?_⟩
  split at h
  next members =>
    obtain ⟨tree, bound, contents⟩ := exists_of_contentsOfMembers? h
    obtain ⟨form, read⟩ := reads_of_contents? (.object members) contents
    exact .container rfl bound form read
  next tree =>
    obtain ⟨form, read⟩ := reads_of_contents? (.array [tree]) h
    exact .item rfl rfl form read
  · cases h

end SchemaClasses.Json
