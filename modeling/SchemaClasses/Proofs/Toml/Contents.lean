/-
What a TOML text says.

A table has no key twice: whatever a section adds, it adds under a key
that is free or to what the key stands for already. So although a table
keeps its members in no particular order, all of them can be looked up,
and its value has an entry for each.

Infinities and moments are the scalars that do not keep their form.
-/
import SchemaClasses.Proofs.Schema.Document
import SchemaClasses.Proofs.Toml.Table

namespace SchemaClasses.Toml

variable {members made : Members} {item : Item} {key : String}

-- ======================================================= distinct keys

mutual

/-- No table in the item has a key twice. -/
inductive Item.Distinct : Item → Prop
  | scalar (s : Scalar) : Item.Distinct (.scalar s)
  | array {items : List Item} (all : ∀ item ∈ items, Item.Distinct item) :
      Item.Distinct (.array items)
  | inline {members : Members} (all : Members.Distinct members) : Item.Distinct (.inline members)
  | table {origin : Origin} {members : Members} (all : Members.Distinct members) :
      Item.Distinct (.table origin members)
  | tables {elements : List Members} (all : ∀ members ∈ elements, Members.Distinct members) :
      Item.Distinct (.tables elements)

/-- No key occurs twice among the members, nor in a table in one of them. -/
inductive Members.Distinct : Members → Prop
  | intro {members : Members} (keys : (members.map Prod.fst).Nodup)
      (items : ∀ member ∈ members, Item.Distinct member.2) : Members.Distinct members

end

namespace Members

theorem Distinct.keys (h : Members.Distinct members) : (members.map Prod.fst).Nodup := by
  cases h with
  | intro keys items => exact keys

theorem Distinct.items (h : Members.Distinct members) : ∀ member ∈ members, member.2.Distinct := by
  cases h with
  | intro keys items => exact items

theorem distinct_nil : Members.Distinct [] :=
  .intro List.nodup_nil fun member mem => by cases mem

theorem Distinct.lookup (h : Members.Distinct members) (found : members.lookup key = some item) :
    item.Distinct :=
  h.items _ ((lookup_eq_some_iff_mem h.keys).1 found)

/-- What is put under a key takes the place of all that was there. -/
theorem Distinct.put (h : Members.Distinct members) (own : item.Distinct) :
    Members.Distinct (Members.put key item members) := by
  unfold Members.put
  refine .intro ?_ fun member mem => ?_
  · rw [List.map_cons, List.nodup_cons]
    refine ⟨fun mem => ?_, (List.filter_sublist.map Prod.fst).nodup h.keys⟩
    obtain ⟨member, kept, same⟩ := List.mem_map.1 mem
    exact of_decide_eq_true (List.mem_filter.1 kept).2 same
  · rcases List.mem_cons.1 mem with rfl | kept
    · exact own
    · exact h.items member (List.mem_filter.1 kept).1

theorem distinct_tables {last changed : Members} {earlier : List Members}
    (h : Item.Distinct (.tables (last :: earlier))) (own : Members.Distinct changed) :
    Item.Distinct (.tables (changed :: earlier)) := by
  cases h with
  | tables all =>
      refine .tables fun members mem => ?_
      rcases List.mem_cons.1 mem with rfl | others
      · exact own
      · exact all members (List.mem_cons_of_mem last others)

theorem distinct_of_tables {last : Members} {earlier : List Members}
    (h : Item.Distinct (.tables (last :: earlier))) : Members.Distinct last := by
  cases h with
  | tables all => exact all last List.mem_cons_self

theorem distinct_of_table {origin : Origin} (h : Item.Distinct (.table origin members)) :
    Members.Distinct members := by
  cases h with
  | table all => exact all

-- ========================================================= assignments

theorem distinct_assign {path : List String} (own : item.Distinct) (h : Members.Distinct members)
    (assigned : Members.assign item path members = some made) : Members.Distinct made := by
  -- what lies below the first key is changed first, and then put back in its place
  induction path generalizing members made with
  | nil => cases assigned
  | cons key rest ih =>
      cases rest with
      | nil =>
          rw [Members.assign] at assigned
          split at assigned
          · cases assigned
            exact h.put own
          · cases assigned
      | cons next path =>
          rw [Members.assign] at assigned
          split at assigned
          · obtain ⟨inner, began, eq⟩ := Option.bind_eq_some_iff.1 assigned
            cases eq
            exact h.put (.table (ih distinct_nil began))
          next origin inner found =>
            obtain ⟨-, -, assigned⟩ := Option.bind_eq_some_iff.1 assigned
            obtain ⟨later, goesOn, eq⟩ := Option.bind_eq_some_iff.1 assigned
            cases eq
            exact h.put (.table (ih (distinct_of_table (h.lookup found)) goesOn))
          next last earlier found =>
            obtain ⟨-, -, assigned⟩ := Option.bind_eq_some_iff.1 assigned
            obtain ⟨later, goesOn, eq⟩ := Option.bind_eq_some_iff.1 assigned
            cases eq
            have own := ih (distinct_of_tables (h.lookup found)) goesOn
            exact h.put (distinct_tables (h.lookup found) own)
          · cases assigned

end Members

mutual

theorem Item.distinct_ofTerm {item : Item} :
    ∀ {term : Term}, Item.ofTerm term = some item → item.Distinct
  | .scalar s, h => by
      rw [Item.ofTerm] at h
      cases h
      exact .scalar s
  | .array terms, h => by
      rw [Item.ofTerm] at h
      obtain ⟨items, read, rfl⟩ := Option.map_eq_some_iff.1 h
      exact .array (Item.distinct_ofTerms read)
  | .table assignments, h => by
      rw [Item.ofTerm] at h
      obtain ⟨members, read, rfl⟩ := Option.map_eq_some_iff.1 h
      exact .inline (Item.distinct_assignAll Members.distinct_nil read)

theorem Item.distinct_ofTerms {items : List Item} :
    ∀ {terms : List Term}, Item.ofTerms terms = some items → ∀ item ∈ items, item.Distinct
  | [], h => by
      rw [Item.ofTerms] at h
      cases h
      exact fun item mem => by cases mem
  | term :: rest, h => by
      rw [Item.ofTerms] at h
      obtain ⟨first, read, h⟩ := Option.bind_eq_some_iff.1 h
      obtain ⟨others, readOthers, h⟩ := Option.bind_eq_some_iff.1 h
      cases h
      intro item mem
      rcases List.mem_cons.1 mem with rfl | later
      · exact Item.distinct_ofTerm read
      · exact Item.distinct_ofTerms readOthers item later

theorem Item.distinct_assignAll {members made : Members} (h : Members.Distinct members) :
    ∀ {assignments : Assignments}, Item.assignAll members assignments = some made →
      Members.Distinct made
  | [], assigned => by
      rw [Item.assignAll] at assigned
      cases assigned
      exact h
  | (path, term) :: rest, assigned => by
      rw [Item.assignAll] at assigned
      obtain ⟨item, read, assigned⟩ := Option.bind_eq_some_iff.1 assigned
      obtain ⟨later, first, assigned⟩ := Option.bind_eq_some_iff.1 assigned
      exact Item.distinct_assignAll (Members.distinct_assign (Item.distinct_ofTerm read) h first)
        assigned

end

-- ============================================================ headers

namespace Members

/-- A change of what is at a path keeps keys distinct if it makes items with distinct keys of such
items, and of nothing. -/
theorem distinct_alter {change : Option Item → Option Item} {path : List String}
    (keeps : ∀ existing changed, (∀ item, existing = some item → item.Distinct) →
      change existing = some changed → changed.Distinct)
    (h : Members.Distinct members) (altered : Members.alter change path members = some made) :
    Members.Distinct made := by
  induction path generalizing members made with
  | nil => cases altered
  | cons key rest ih =>
      cases rest with
      | nil =>
          rw [Members.alter] at altered
          obtain ⟨item, changed, eq⟩ := Option.bind_eq_some_iff.1 altered
          cases eq
          exact h.put (keeps _ item (fun _ found => h.lookup found) changed)
      | cons next path =>
          rw [Members.alter] at altered
          split at altered
          · obtain ⟨inner, began, eq⟩ := Option.bind_eq_some_iff.1 altered
            cases eq
            exact h.put (.table (ih distinct_nil began))
          next origin inner found =>
            obtain ⟨later, goesOn, eq⟩ := Option.bind_eq_some_iff.1 altered
            cases eq
            exact h.put (.table (ih (distinct_of_table (h.lookup found)) goesOn))
          next last earlier found =>
            obtain ⟨later, goesOn, eq⟩ := Option.bind_eq_some_iff.1 altered
            cases eq
            have own := ih (distinct_of_tables (h.lookup found)) goesOn
            exact h.put (distinct_tables (h.lookup found) own)
          · cases altered

end Members

theorem distinct_tableAt {assignments : Assignments} {existing : Option Item}
    (h : ∀ item, existing = some item → item.Distinct)
    (made : tableAt assignments existing = some item) : item.Distinct := by
  unfold tableAt at made
  split at made
  · obtain ⟨members, assigned, rfl⟩ := Option.map_eq_some_iff.1 made
    exact .table (Item.distinct_assignAll Members.distinct_nil assigned)
  next members =>
    obtain ⟨later, assigned, rfl⟩ := Option.map_eq_some_iff.1 made
    have own := Members.distinct_of_table (h _ rfl)
    exact .table (Item.distinct_assignAll own assigned)
  · cases made

theorem distinct_elementAt {assignments : Assignments} {existing : Option Item}
    (h : ∀ item, existing = some item → item.Distinct)
    (made : elementAt assignments existing = some item) : item.Distinct := by
  obtain ⟨element, assigned, made⟩ := Option.bind_eq_some_iff.1 made
  have own := Item.distinct_assignAll Members.distinct_nil assigned
  split at made
  · cases made
    refine .tables fun members mem => ?_
    rw [List.mem_singleton.1 mem]
    exact own
  next elements =>
    cases made
    cases h _ rfl with
    | tables all =>
        refine .tables fun members mem => ?_
        rcases List.mem_cons.1 mem with rfl | earlier
        · exact own
        · exact all members earlier
  · cases made

theorem Members.distinct_add {s : Section} (h : Members.Distinct members)
    (added : Members.add members s = some made) : Members.Distinct made := by
  unfold Members.add at added
  split at added
  · exact Item.distinct_assignAll h added
  · exact Members.distinct_alter (fun _ _ => distinct_tableAt) h added
  · exact Members.distinct_alter (fun _ _ => distinct_elementAt) h added

/-- In the table that a text is, and in all tables in it, keys are distinct. -/
theorem Members.distinct_ofSections {sections : List Section}
    (h : Members.ofSections sections = some made) : Members.Distinct made := by
  have onto : ∀ (rest : List Section) {members}, Members.Distinct members →
      rest.foldlM Members.add members = some made → Members.Distinct made := by
    intro rest
    induction rest with
    | nil =>
        intro members distinct added
        cases added
        exact distinct
    | cons first rest ih =>
        intro members distinct added
        rw [List.foldlM_cons] at added
        obtain ⟨later, own, added⟩ := Option.bind_eq_some_iff.1 added
        exact ih (Members.distinct_add distinct own) added
  exact onto sections Members.distinct_nil h

-- =========================================================== document

def Scalar.form : Scalar → Form
  | .unbounded => .unbounded
  | .moment _ => .moment
  | _ => .scalar

def Item.form : Item → Form
  | .scalar s => s.form
  | .array _ => .sequence
  | .inline _ => .mapping
  | .table _ _ => .mapping
  | .tables _ => .sequence

def Item.entries : Item → List (String × Item)
  | .inline members => members
  | .table _ members => members
  | _ => []

def Item.items : Item → List Item
  | .array items => items
  | .tables elements => (elements.map (.table .header)).reverse
  | _ => []

/-- The document that a table is. No value is left out. -/
def Members.document (members : Members) : Document :=
  { Node := Item, root := .table .header members, form := Item.form, entries := Item.entries,
    items := Item.items, isBlank := fun _ => false }

-- ============================================================= values

theorem reads_of_scalar {root : Members} {s : Scalar} {value : Value} (h : s.value? = some value) :
    (Members.document root).Reads (.scalar s) value := by
  cases s with
  | unbounded =>
      cases h
      exact .unbounded rfl
  | moment text =>
      cases h
      exact .moment rfl
  | whole n =>
      rw [Scalar.value?] at h
      split at h
      · cases h
        exact .scalar rfl trivial
      · cases h
  | _ =>
      cases h
      exact .scalar rfl trivial

mutual

/-- The value of an item is what its node is read as. -/
theorem reads_of_value? (root : Members) {value : Value} :
    ∀ {item : Item}, item.Distinct → item.value? = some value →
      (Members.document root).Reads item value
  | .scalar s, _, h => by
      rw [Item.value?] at h
      exact reads_of_scalar h
  | .array items, .array all, h => by
      rw [Item.value?] at h
      obtain ⟨values, read, rfl⟩ := Option.map_eq_some_iff.1 h
      exact .sequence rfl (reads_of_values? root all read)
  | .inline members, .inline own, h => by
      rw [Item.value?] at h
      obtain ⟨entries, read, rfl⟩ := Option.map_eq_some_iff.1 h
      -- the entries come in the order of their keys, the bindings in that of the members
      obtain ⟨bindings, read, perm⟩ := reads_of_entries? root own.items read
      exact .ofPerm rfl own.keys read perm
  | .table origin members, .table own, h => by
      rw [Item.value?] at h
      obtain ⟨entries, read, rfl⟩ := Option.map_eq_some_iff.1 h
      obtain ⟨bindings, read, perm⟩ := reads_of_entries? root own.items read
      exact .ofPerm rfl own.keys read perm
  | .tables elements, .tables all, h => by
      rw [Item.value?] at h
      obtain ⟨values, read, rfl⟩ := Option.map_eq_some_iff.1 h
      refine .sequence rfl (List.forall₂_reverse_iff.2 ?_)
      exact reads_of_mappings? root all read

theorem reads_of_values? (root : Members) {values : List Value} :
    ∀ {items : List Item}, (∀ item ∈ items, item.Distinct) → Item.values? items = some values →
      List.Forall₂ (Members.document root).Reads items values
  | [], _, h => by
      rw [Item.values?] at h
      cases h
      exact .nil
  | item :: rest, all, h => by
      rw [Item.values?] at h
      obtain ⟨value, read, h⟩ := Option.bind_eq_some_iff.1 h
      obtain ⟨others, readOthers, h⟩ := Option.bind_eq_some_iff.1 h
      cases h
      exact .cons (reads_of_value? root (all _ List.mem_cons_self) read)
        (reads_of_values? root (fun item mem => all item (List.mem_cons_of_mem _ mem)) readOthers)

theorem reads_of_entries? (root : Members) {entries : Entries} :
    ∀ {members : Members}, (∀ member ∈ members, member.2.Distinct) →
      Item.entries? members = some entries →
        ∃ bindings, List.Forall₂ (SameKey (Members.document root).Reads) members bindings ∧
          entries.Perm bindings
  | [], _, h => by
      rw [Item.entries?] at h
      cases h
      exact ⟨[], .nil, List.Perm.refl []⟩
  | (key, item) :: rest, all, h => by
      rw [Item.entries?] at h
      obtain ⟨value, read, h⟩ := Option.bind_eq_some_iff.1 h
      obtain ⟨others, readOthers, h⟩ := Option.bind_eq_some_iff.1 h
      cases h
      obtain ⟨bindings, bound, perm⟩ := reads_of_entries? root
        (fun member mem => all member (List.mem_cons_of_mem _ mem)) readOthers
      refine ⟨(key, value) :: bindings, .cons ⟨rfl, ?_⟩ bound, ?_⟩
      · exact reads_of_value? root (all _ List.mem_cons_self) read
      · rw [insertByKey_eq]
        exact (perm_insertKey _ others).trans (perm.cons _)

theorem reads_of_mappings? (root : Members) {values : List Value} :
    ∀ {elements : List Members}, (∀ members ∈ elements, Members.Distinct members) →
      Item.mappings? elements = some values →
        List.Forall₂ (Members.document root).Reads (elements.map (.table .header)) values
  | [], _, h => by
      rw [Item.mappings?] at h
      cases h
      exact .nil
  | members :: rest, all, h => by
      rw [Item.mappings?] at h
      obtain ⟨entries, read, h⟩ := Option.bind_eq_some_iff.1 h
      obtain ⟨others, readOthers, h⟩ := Option.bind_eq_some_iff.1 h
      cases h
      have own := all _ List.mem_cons_self
      obtain ⟨bindings, read, perm⟩ := reads_of_entries? root own.items read
      exact .cons (.ofPerm rfl own.keys read perm)
        (reads_of_mappings? root (fun members mem => all members (List.mem_cons_of_mem _ mem))
          readOthers)

end

-- =========================================================== contents

/-- The table that a text is. -/
def members? (text : String) : Option Members := (sections? text).bind Members.ofSections

/-- The entries of a TOML text are read from the item under the key of the container. -/
theorem exists_item_of_entries? {text : String} {entries : Entries}
    (h : entries? containerKey text = some (some entries)) :
    ∃ members item, members? text = some members ∧
      (Members.document members).get? (.table .header members) containerKey = some item ∧
      (Members.document members).Reads item (.mapping entries) := by
  obtain ⟨sections, read, h⟩ := Option.bind_eq_some_iff.1 h
  obtain ⟨members, added, h⟩ := Option.bind_eq_some_iff.1 h
  obtain ⟨-, -, h⟩ := Option.bind_eq_some_iff.1 h
  have distinct := Members.distinct_ofSections added
  have spelled : members? text = some members := by
    rw [members?, read]
    exact added
  split at h
  · cases h
  next item found =>
    obtain ⟨value, valued, h⟩ := Option.bind_eq_some_iff.1 h
    obtain ⟨own, mapping, eq⟩ := Option.bind_eq_some_iff.1 h
    cases eq
    have reversed : (members.reverse.map Prod.fst).Nodup :=
      (members.reverse_perm.map Prod.fst).nodup_iff.2 distinct.keys
    have bound : (Members.document members).get? (.table .header members) containerKey =
        some item :=
      (lookup_eq_of_perm members.reverse_perm reversed containerKey).trans found
    cases value with
    | mapping own =>
        cases mapping
        exact ⟨members, item, spelled, bound,
          reads_of_value? members (distinct.lookup found) valued⟩
    | _ => cases mapping

/-- The entries of a TOML text are those of the table under the key of the container, unless that
is a moment. -/
theorem lists_of_entries? {text : String} {entries : Entries}
    (h : entries? containerKey text = some (some entries)) :
    ∃ members, members? text = some members ∧ (Members.document members).Lists .toml entries := by
  obtain ⟨members, item, spelled, bound, read⟩ := exists_item_of_entries? h
  refine ⟨members, spelled, ?_⟩
  rcases read.form_of_mapping with form | form
  · exact .container rfl bound form read
  · exact .moment rfl bound form

end SchemaClasses.Toml
