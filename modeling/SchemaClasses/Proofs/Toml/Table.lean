/-
What the sections of a TOML text of a schema tree add up to.

Whichever way a mapping is written, its key ends up with one item, and
the members of that item are those of the mapping. Their order is lost:
the value of the item has its keys in ascending order.
-/
import Mathlib.Data.List.Forall2
import Mathlib.Data.Option.Basic
import SchemaClasses.Proofs.Toml.Spelling
import SchemaClasses.Toml.Value

namespace SchemaClasses.Toml

variable {α : Type}

-- ============================================================= members

theorem Members.put_of_notMem {key : String} {members : Members} (item : Item)
    (fresh : key ∉ members.map Prod.fst) : Members.put key item members = (key, item) :: members := by
  have kept : members.filter (·.1 ≠ key) = members := by
    refine List.filter_eq_self.2 fun member mem => decide_eq_true fun eq => fresh ?_
    exact List.mem_map.2 ⟨member, mem, eq⟩
  rw [Members.put, kept]

/-- The member put in last is replaced. -/
theorem Members.put_cons {key : String} {first second : Item} {members : Members}
    (fresh : key ∉ members.map Prod.fst) :
    Members.put key second ((key, first) :: members) = (key, second) :: members := by
  have same : Members.put key second ((key, first) :: members) = Members.put key second members := by
    rw [Members.put, Members.put, List.filter_cons_of_neg (by simp)]
  rw [same, Members.put_of_notMem second fresh]

theorem lookup_of_notMem {key : String} {members : Members}
    (fresh : key ∉ members.map Prod.fst) : members.lookup key = none := by
  rw [List.lookup_eq_none_iff]
  intro member mem
  rw [bne_iff_ne]
  rintro rfl
  exact fresh (List.mem_map_of_mem mem)

-- ========================================================= assignments

theorem Item.assignAll_append (front back : Assignments) (members : Members) :
    Item.assignAll members (front ++ back) =
      (Item.assignAll members front).bind fun members => Item.assignAll members back := by
  induction front generalizing members with
  | nil => rfl
  | cons assignment rest ih =>
      obtain ⟨path, term⟩ := assignment
      rw [List.cons_append, Item.assignAll, Item.assignAll]
      cases Item.ofTerm term with
      | none => rfl
      | some item =>
          cases assigned : Members.assign item path members with
          | none => simp [assigned]
          | some members => simp [assigned, ih]

/-- The item has this value, and no number in it is out of bounds. -/
structure StandsFor (value : Value) (item : Item) : Prop where
  value : item.value? = some value
  bounded : item.isBounded = true

/-- A member that stands for an entry. -/
def StandsForEntry (f : α → Value) (entry : String × α) (member : String × Item) : Prop :=
  member.1 = entry.1 ∧ StandsFor (f entry.2) member.2

-- =========================================== one key after another

section
variable {γ : Type} {add : Members → List (List String × γ) → Option Members} {f : α → Value}
  {states : α → List (List String × γ) → Prop}

/-- What is stated of a fresh key gives it one item, which stands for what is bound to it. -/
def AddsItems (add : Members → List (List String × γ) → Option Members) (f : α → Value)
    (states : α → List (List String × γ) → Prop) : Prop :=
  ∀ a own, states a own → ∀ key members, key ∉ members.map Prod.fst →
    ∃ item, StandsFor (f a) item ∧ add members (own.map (under key)) = some ((key, item) :: members)

theorem AddsItems.congr {g : α → Value} (adds : AddsItems add f states) (same : ∀ a, f a = g a) :
    AddsItems add g states :=
  fun a own h => same a ▸ adds a own h

/-- A fresh key stays fresh when another is put in. -/
theorem notMem_keys_cons {key other : String} {item : Item} {members : Members}
    (differ : key ≠ other) (fresh : key ∉ members.map Prod.fst) :
    key ∉ ((other, item) :: members).map Prod.fst := by
  rw [List.map_cons, List.mem_cons, not_or]
  exact ⟨differ, fresh⟩

/-- What is stated of keys one after another adds their items, the last in front. -/
theorem exists_items_of_statesKeys (adds : AddsItems add f states)
    (nil : ∀ members, add members [] = some members)
    (append : ∀ members front back,
      add members (front ++ back) = (add members front).bind fun members => add members back)
    {entries : List (String × α)} {stated : List (List String × γ)}
    (h : StatesKeys states entries stated) :
    ∀ members : Members, (entries.map Prod.fst).Nodup →
      (∀ entry ∈ entries, entry.1 ∉ members.map Prod.fst) →
        ∃ items, List.Forall₂ (StandsForEntry f) entries items ∧
          add members stated = some (items.reverse ++ members) := by
  induction h with
  | nil => exact fun members _ _ => ⟨[], .nil, nil members⟩
  | cons first rest ih =>
      rename_i key a own others more
      intro members distinct disjoint
      obtain ⟨new, later⟩ := List.nodup_cons.1 distinct
      obtain ⟨item, stand, read⟩ := adds a own first key members (disjoint _ List.mem_cons_self)
      obtain ⟨items, standMore, readMore⟩ := ih ((key, item) :: members) later
        fun entry mem => notMem_keys_cons
          (fun eq => new (List.mem_map.2 ⟨entry, mem, eq⟩))
          (disjoint entry (List.mem_cons_of_mem _ mem))
      refine ⟨(key, item) :: items, .cons ⟨rfl, stand⟩ standMore, ?_⟩
      rw [append, read, Option.bind_some, readMore, List.reverse_cons, List.append_assoc,
        List.singleton_append]

/-- Something is stated where there is an entry. -/
theorem ne_nil_of_items {entries : List (String × α)} {items : Members}
    {stated : List (List String × γ)} (nil : ∀ members, add members [] = some members)
    (nonempty : entries ≠ []) (stand : List.Forall₂ (StandsForEntry f) entries items)
    (read : add [] stated = some items.reverse) : stated ≠ [] := by
  rintro rfl
  have none : [] = items.reverse := Option.some.inj ((nil []).symm.trans read)
  rw [List.reverse_eq_nil_iff.1 none.symm] at stand
  exact nonempty (List.forall₂_nil_right_iff.1 stand)

/-- The paths of what is stated of keys are not empty. -/
theorem path_ne_nil_of_statesKeys {entries : List (String × α)}
    {stated : List (List String × γ)} (h : StatesKeys states entries stated) :
    ∀ placed ∈ stated, placed.1 ≠ [] := by
  induction h with
  | nil => exact fun _ mem => absurd mem List.not_mem_nil
  | cons first rest ih =>
      intro placed mem
      rcases List.mem_append.1 mem with own | other
      · obtain ⟨inner, -, rfl⟩ := List.mem_map.1 own
        exact List.cons_ne_nil _ _
      · exact ih placed other

end

-- ========================================================= dotted keys

/-- A table that a dotted key has begun goes on with another one. -/
theorem Members.assign_dotted {key : String} {members : Members}
    (fresh : key ∉ members.map Prod.fst) (item : Item) (next : String) (path : List String)
    (inner : Members) :
    Members.assign item (key :: next :: path) ((key, .table .dotted inner) :: members) =
      (Members.assign item (next :: path) inner).map fun inner =>
        (key, .table .dotted inner) :: members := by
  have allowed : (guard (Origin.dotted ≠ .header ∧
      (path.isEmpty = true → Origin.dotted = .dotted)) : Option Unit) = some () :=
    if_pos ⟨by decide, fun _ => rfl⟩
  rw [Members.assign, List.lookup_cons_self]
  show (guard _ : Option Unit).bind _ = _
  rw [allowed]
  show (Members.assign item (next :: path) inner).bind _ = _
  cases Members.assign item (next :: path) inner with
  | none => rfl
  | some later => exact congrArg some (Members.put_cons fresh)

/-- A dotted key begins a table where there is none. -/
theorem Members.assign_fresh {key : String} {members : Members}
    (fresh : key ∉ members.map Prod.fst) (item : Item) (next : String) (path : List String) :
    Members.assign item (key :: next :: path) members =
      (Members.assign item (next :: path) []).map fun inner =>
        (key, .table .dotted inner) :: members := by
  rw [Members.assign, lookup_of_notMem fresh]
  show (Members.assign item (next :: path) []).bind _ = _
  cases Members.assign item (next :: path) [] with
  | none => rfl
  | some inner => exact congrArg some (Members.put_of_notMem _ fresh)

/-- Dotted keys go on with the table that an earlier one has begun. -/
theorem Item.assignAll_under_table {key : String} {members : Members}
    (fresh : key ∉ members.map Prod.fst) :
    ∀ (assignments : Assignments) (inner : Members), (∀ assignment ∈ assignments, assignment.1 ≠ []) →
      Item.assignAll ((key, .table .dotted inner) :: members) (assignments.map (under key)) =
        (Item.assignAll inner assignments).map fun inner =>
          (key, .table .dotted inner) :: members := by
  intro assignments
  induction assignments with
  | nil => exact fun _ _ => rfl
  | cons assignment rest ih =>
      intro inner paths
      obtain ⟨path, term⟩ := assignment
      obtain ⟨next, path, rfl⟩ := List.exists_cons_of_ne_nil (paths _ List.mem_cons_self)
      have later := fun inner => ih inner
        fun assignment mem => paths assignment (List.mem_cons_of_mem _ mem)
      rw [List.map_cons, under, Item.assignAll, Item.assignAll]
      cases Item.ofTerm term with
      | none => rfl
      | some item =>
          have goesOn := Members.assign_dotted fresh item next path inner
          cases assigned : Members.assign item (next :: path) inner with
          | none => simp [goesOn, assigned]
          | some inner => simp [goesOn, assigned, later]

/-- Dotted keys begin a table where there is none. -/
theorem Item.assignAll_under {key : String} {members : Members}
    (fresh : key ∉ members.map Prod.fst) {assignments : Assignments} (nonempty : assignments ≠ [])
    (paths : ∀ assignment ∈ assignments, assignment.1 ≠ []) :
    Item.assignAll members (assignments.map (under key)) =
      (Item.assignAll [] assignments).map fun inner => (key, .table .dotted inner) :: members := by
  obtain ⟨⟨path, term⟩, rest, rfl⟩ := List.exists_cons_of_ne_nil nonempty
  obtain ⟨next, path, rfl⟩ := List.exists_cons_of_ne_nil (paths _ List.mem_cons_self)
  have later := fun inner => Item.assignAll_under_table fresh rest inner
    fun assignment mem => paths assignment (List.mem_cons_of_mem _ mem)
  rw [List.map_cons, under, Item.assignAll, Item.assignAll]
  cases Item.ofTerm term with
  | none => rfl
  | some item =>
      have begins := Members.assign_fresh fresh item next path
      cases assigned : Members.assign item (next :: path) [] with
      | none => simp [begins, assigned]
      | some inner => simp [begins, assigned, later]

-- ============================================================== values

/-- The mapping that entries become: its keys ascend. -/
def ascendingValue (f : α → Value) (entries : List (String × α)) : Value :=
  .mapping (ascend (entries.map fun entry => (entry.1, f entry.2)))

theorem insertByKey_eq (key : String) (value : Value) (entries : Entries) :
    insertByKey key value entries = insertKey (key, value) entries := by
  induction entries with
  | nil => rfl
  | cons entry rest ih =>
      obtain ⟨k, v⟩ := entry
      rw [insertByKey, insertKey, ih]

/-- Members that stand for entries have these entries in ascending order. -/
theorem Item.entries?_of_forall₂ {f : α → Value} {entries : List (String × α)} {members : Members}
    (stand : List.Forall₂ (StandsForEntry f) entries members) :
    Item.entries? members = some (ascend (entries.map fun entry => (entry.1, f entry.2))) ∧
      Item.areMembersBounded members = true := by
  induction stand with
  | nil => exact ⟨rfl, rfl⟩
  | cons first others ih =>
      rename_i entry member entries members
      obtain ⟨key, item⟩ := member
      obtain ⟨rfl, value, bounded⟩ := first
      constructor
      · rw [Item.entries?, value, ih.1, List.map_cons]
        exact congrArg some (insertByKey_eq _ _ _)
      · rw [Item.areMembersBounded, bounded, ih.2]
        rfl

/-- So they do in reverse. -/
theorem Item.entries?_reverse {f : α → Value} {entries : List (String × α)} {members : Members}
    (distinct : (entries.map Prod.fst).Nodup)
    (stand : List.Forall₂ (StandsForEntry f) entries members) :
    (Item.entries? members.reverse).map .mapping = some (ascendingValue f entries) ∧
      Item.areMembersBounded members.reverse = true := by
  obtain ⟨values, bounded⟩ := Item.entries?_of_forall₂ (List.rel_reverse stand)
  have keys : ((entries.reverse.map fun entry => (entry.1, f entry.2)).map Prod.fst).Nodup := by
    rw [List.map_map]
    exact ((entries.reverse_perm).map Prod.fst).nodup_iff.2 distinct
  refine ⟨?_, bounded⟩
  rw [values, Option.map_some, ascendingValue,
    ascend_eq_of_perm (entries.reverse_perm.map fun entry => (entry.1, f entry.2)) keys]

-- ======================================================= assigned values

theorem assigned_leaf : AddsItems Item.assignAll Leaf.value StatesLeaf := by
  intro leaf own h key members fresh
  cases h
  refine ⟨.scalar (Leaf.scalar leaf), ?_, ?_⟩
  · cases leaf with
    | text s => exact ⟨rfl, rfl⟩
    | bool b => exact ⟨rfl, rfl⟩
    | whole n least greatest =>
        obtain ⟨fits, bounded⟩ := fitsBits_of_signed least greatest
        refine ⟨?_, bounded⟩
        rw [Leaf.scalar, Item.value?, Scalar.value?, if_pos fits]
        rfl
  · simp [under, Item.assignAll, Item.ofTerm, Members.assign, lookup_of_notMem fresh,
      Members.put_of_notMem _ fresh]

/-- Assignments to keys one after another, in a table that holds nothing yet. -/
theorem exists_items_of_assigned {f : α → Value} {states : α → Assignments → Prop}
    (assigned : AddsItems Item.assignAll f states) {entries : List (String × α)}
    (distinct : (entries.map Prod.fst).Nodup) {assignments : Assignments}
    (h : StatesKeys states entries assignments) :
    ∃ items, List.Forall₂ (StandsForEntry f) entries items ∧
      Item.assignAll [] assignments = some items.reverse := by
  have := exists_items_of_statesKeys assigned (fun _ => rfl)
    (fun members front back => Item.assignAll_append front back members) h [] distinct
    fun _ _ => List.not_mem_nil
  simpa using this

/-- A mapping is assigned to its key, as an inline table or with dotted keys. -/
theorem assigned_table {f : α → Value} {states : α → Assignments → Prop}
    (assigned : AddsItems Item.assignAll f states) :
    AddsItems Item.assignAll (fun k => ascendingValue f k.entries) (StatesTable states) := by
  intro k own h key members fresh
  cases h with
  | inline entries =>
      rename_i inside
      obtain ⟨items, stand, read⟩ := exists_items_of_assigned assigned k.distinct entries
      obtain ⟨value, bounded⟩ := Item.entries?_reverse k.distinct stand
      refine ⟨.inline items.reverse, ⟨value, bounded⟩, ?_⟩
      simp [under, Item.assignAll, Item.ofTerm, read, Members.assign, lookup_of_notMem fresh,
        Members.put_of_notMem _ fresh]
  | dotted nonempty entries =>
      obtain ⟨items, stand, read⟩ := exists_items_of_assigned assigned k.distinct entries
      obtain ⟨value, bounded⟩ := Item.entries?_reverse k.distinct stand
      refine ⟨.table .dotted items.reverse, ⟨value, bounded⟩, ?_⟩
      have some : own ≠ [] := ne_nil_of_items (fun _ => rfl) nonempty stand read
      rw [Item.assignAll_under fresh some (path_ne_nil_of_statesKeys entries), read,
        Option.map_some]

-- ============================================================ sections

/-- Adds the sections that parts of a table are. -/
def addParts (members : Members) (parts : List Part) : Option Members :=
  (parts.map sectionOf).foldlM Members.add members

theorem addParts_cons (members : Members) (part : Part) (rest : List Part) :
    addParts members (part :: rest) =
      (Members.alter (tableAt part.2) part.1 members).bind fun members => addParts members rest :=
  rfl

theorem addParts_append (members : Members) (front back : List Part) :
    addParts members (front ++ back) =
      (addParts members front).bind fun members => addParts members back := by
  rw [addParts, List.map_append, List.foldlM_append]
  rfl

/-- Sections within a table that is there already are added to it. -/
theorem addParts_under_table {key : String} (origin : Origin) {members : Members}
    (fresh : key ∉ members.map Prod.fst) :
    ∀ (parts : List Part) (inner : Members), (∀ part ∈ parts, part.1 ≠ []) →
      addParts ((key, .table origin inner) :: members) (parts.map (under key)) =
        (addParts inner parts).map fun inner => (key, .table origin inner) :: members := by
  intro parts
  induction parts with
  | nil => exact fun _ _ => rfl
  | cons part rest ih =>
      intro inner paths
      obtain ⟨path, assignments⟩ := part
      obtain ⟨next, path, rfl⟩ := List.exists_cons_of_ne_nil (paths _ List.mem_cons_self)
      have later := fun inner => ih inner
        fun part mem => paths part (List.mem_cons_of_mem _ mem)
      rw [List.map_cons, addParts_cons, addParts_cons, under]
      cases added : Members.alter (tableAt assignments) (next :: path) inner with
      | none => simp [Members.alter, added]
      | some inner => simp [Members.alter, added, Members.put_cons fresh, later]

/-- Sections within a table that is not there make it come about. -/
theorem addParts_under {key : String} {members : Members} (fresh : key ∉ members.map Prod.fst)
    {parts : List Part} (nonempty : parts ≠ []) (paths : ∀ part ∈ parts, part.1 ≠ []) :
    addParts members (parts.map (under key)) =
      (addParts [] parts).map fun inner => (key, .table .implied inner) :: members := by
  obtain ⟨⟨path, assignments⟩, rest, rfl⟩ := List.exists_cons_of_ne_nil nonempty
  obtain ⟨next, path, rfl⟩ := List.exists_cons_of_ne_nil (paths _ List.mem_cons_self)
  have later := fun inner => addParts_under_table .implied fresh rest inner
    fun part mem => paths part (List.mem_cons_of_mem _ mem)
  rw [List.map_cons, addParts_cons, addParts_cons, under]
  cases added : Members.alter (tableAt assignments) (next :: path) [] with
  | none => simp [Members.alter, added, lookup_of_notMem fresh]
  | some inner =>
      simp [Members.alter, added, lookup_of_notMem fresh, Members.put_of_notMem _ fresh, later]

/-- Members that stand for entries have their keys. -/
theorem keys_of_forall₂ {f : α → Value} {entries : List (String × α)} {members : Members}
    (stand : List.Forall₂ (StandsForEntry f) entries members) :
    members.map Prod.fst = entries.map Prod.fst := by
  induction stand with
  | nil => rfl
  | cons first others ih => rw [List.map_cons, List.map_cons, ih, first.1]

/-- Assignments and sections below them fill one table, the sections behind the assignments. -/
theorem exists_items_of_own {f : α → Value} {states : α → Assignments → Prop}
    {sectioned : α → List Part → Prop} (assigned : AddsItems Item.assignAll f states)
    (placed : AddsItems addParts f sectioned) {front back : List (String × α)}
    (distinct : ((front ++ back).map Prod.fst).Nodup) {assignments : Assignments}
    {parts : List Part} (statesFront : StatesKeys states front assignments)
    (statesBack : StatesKeys sectioned back parts) :
    ∃ first second, List.Forall₂ (StandsForEntry f) (front ++ back) (first ++ second) ∧
      Item.assignAll [] assignments = some first.reverse ∧
      addParts first.reverse parts = some (first ++ second).reverse := by
  rw [List.map_append, List.nodup_append] at distinct
  obtain ⟨distinctFront, distinctBack, apart⟩ := distinct
  obtain ⟨first, standFirst, readFirst⟩ :=
    exists_items_of_assigned assigned distinctFront statesFront
  have disjoint : ∀ entry ∈ back, entry.1 ∉ first.reverse.map Prod.fst := by
    intro entry mem inFirst
    rw [List.map_reverse, List.mem_reverse, keys_of_forall₂ standFirst] at inFirst
    exact apart _ inFirst _ (List.mem_map_of_mem mem) rfl
  obtain ⟨second, standSecond, readSecond⟩ :=
    exists_items_of_statesKeys placed (fun _ => rfl) addParts_append statesBack first.reverse
      distinctBack disjoint
  refine ⟨first, second, List.rel_append standFirst standSecond, readFirst, ?_⟩
  rw [readSecond, List.reverse_append]

/-- A mapping with sections gets its key one item. -/
theorem placed_sections {f : α → Value} {states : α → Assignments → Prop}
    {sectioned : α → List Part → Prop} (assigned : AddsItems Item.assignAll f states)
    (placed : AddsItems addParts f sectioned) :
    AddsItems addParts (fun k : Keyed α => ascendingValue f k.entries)
      fun k parts => Sectioned states sectioned k.entries parts := by
  intro k own h key members fresh
  obtain ⟨entries, distinct⟩ := k
  cases h with
  | own statesFront statesBack =>
      rename_i front back assignments others
      obtain ⟨first, second, stand, readFirst, readSecond⟩ :=
        exists_items_of_own assigned placed distinct statesFront statesBack
      obtain ⟨value, bounded⟩ := Item.entries?_reverse distinct stand
      refine ⟨.table .header (first ++ second).reverse, ⟨value, bounded⟩, ?_⟩
      have header : Members.alter (tableAt assignments) [key] members =
          some ((key, .table .header first.reverse) :: members) := by
        simp [Members.alter, lookup_of_notMem fresh, tableAt, readFirst,
          Members.put_of_notMem _ fresh]
      rw [List.map_cons, addParts_cons]
      show (Members.alter (tableAt assignments) [key] members).bind _ = _
      rw [header, Option.bind_some, addParts_under_table .header fresh others first.reverse
        (path_ne_nil_of_statesKeys statesBack), readSecond, Option.map_some]
  | implied nonempty statesAll =>
      obtain ⟨items, stand, read⟩ :=
        exists_items_of_statesKeys placed (fun _ => rfl) addParts_append statesAll [] distinct
          fun _ _ => List.not_mem_nil
      rw [List.append_nil] at read
      obtain ⟨value, bounded⟩ := Item.entries?_reverse distinct stand
      refine ⟨.table .implied items.reverse, ⟨value, bounded⟩, ?_⟩
      have some : own ≠ [] := ne_nil_of_items (fun _ => rfl) nonempty stand read
      rw [addParts_under fresh some (path_ne_nil_of_statesKeys statesAll), read, Option.map_some]

-- =============================================================== trees

/-- A leaf has no sections. -/
theorem placed_leaf : AddsItems addParts Leaf.value fun _ _ => False :=
  fun _ _ h => h.elim

/-- Keys in ascending order, over values in ascending order. -/
theorem ascendingValue_eq (f : α → Value) (g : α → α) (k : Keyed α) :
    ascendingValue (fun a => f (g a)) k.entries = (k.ascending g).value f := by
  rw [ascendingValue, ascend_map (fun a => f (g a)) k.distinct, Keyed.value, Keyed.bindings,
    Keyed.ascending, List.map_map]
  rfl

theorem assigned_column :
    AddsItems Item.assignAll (fun column => column.ascending.value) StatesColumn :=
  (assigned_table assigned_leaf).congr (ascendingValue_eq Leaf.value id)

theorem placed_column :
    AddsItems addParts (fun column => column.ascending.value) SectionedColumn :=
  (placed_sections assigned_leaf placed_leaf).congr (ascendingValue_eq Leaf.value id)

theorem assigned_definition :
    AddsItems Item.assignAll (fun definition => definition.ascending.value) StatesDefinition :=
  (assigned_table assigned_column).congr (ascendingValue_eq Column.value Column.ascending)

theorem placed_definition :
    AddsItems addParts (fun definition => definition.ascending.value) SectionedDefinition :=
  (placed_sections assigned_column placed_column).congr
    (ascendingValue_eq Column.value Column.ascending)

theorem assigned_tree :
    AddsItems Item.assignAll (fun tree => .mapping tree.ascending.bindings) StatesTree :=
  (assigned_table assigned_definition).congr
    (ascendingValue_eq Definition.value Definition.ascending)

theorem placed_tree :
    AddsItems addParts (fun tree => .mapping tree.ascending.bindings) SectionedTree :=
  (placed_sections assigned_definition placed_definition).congr
    (ascendingValue_eq Definition.value Definition.ascending)

/-- The sections of a tree add up to one member, which stands for the tree in ascending order. -/
theorem exists_ofSections {tree : SchemaTree} {sections : List Section}
    (h : StatesDocument tree sections) :
    ∃ item, StandsFor (.mapping tree.ascending.bindings) item ∧
      Members.ofSections sections = some [(containerKey, item)] := by
  cases h with
  | assigned states =>
      obtain ⟨item, stand, read⟩ := assigned_tree tree _ states containerKey [] List.not_mem_nil
      refine ⟨item, stand, ?_⟩
      rw [Members.ofSections, List.foldlM_cons, Members.add, read]
      rfl
  | sectioned sections =>
      obtain ⟨item, stand, read⟩ := placed_tree tree _ sections containerKey [] List.not_mem_nil
      exact ⟨item, stand, read⟩

end SchemaClasses.Toml
