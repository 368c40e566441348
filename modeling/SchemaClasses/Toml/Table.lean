/-
What the sections of a TOML text add up to.

A table comes about in one of three ways: by a header of its own, because
a header names something inside it, or by a dotted key. How it came about
decides what may still be added: a header may complete a table that
exists only because it was named on the way, and dotted keys may only go
on with tables of dotted keys. Inline tables are never added to.
-/
import SchemaClasses.Toml.Section

namespace SchemaClasses.Toml

/-- How a table came about. -/
inductive Origin where
  /-- It has a header. -/
  | header
  /-- A header names something inside it. -/
  | implied
  /-- A dotted key names something inside it. -/
  | dotted
deriving DecidableEq

/-- What a key stands for. -/
inductive Item where
  | scalar (s : Scalar)
  | array (items : List Item)
  | inline (members : List (String × Item))
  | table (origin : Origin) (members : List (String × Item))
  /-- An array of tables, the last first. -/
  | tables (elements : List (List (String × Item)))

/-- The members of a table, in no particular order; no key occurs twice. -/
abbrev Members := List (String × Item)

/-- Puts a member in the place of the one with its key, or adds it. -/
def Members.put (key : String) (item : Item) (members : Members) : Members :=
  (key, item) :: members.filter (·.1 ≠ key)

-- ======================================================== assignments

/--
Adds an item under a dotted key. No key is assigned to twice. The tables on the way may not have
headers, and the last of them must have come about by a dotted key.
-/
def Members.assign (item : Item) : List String → Members → Option Members
  | [], _ => none
  | [key], members =>
    match members.lookup key with
    | none => some (Members.put key item members)
    | some _ => none
  | key :: next :: path, members =>
    match members.lookup key with
    | none => do
      let inner ← Members.assign item (next :: path) []
      return Members.put key (.table .dotted inner) members
    | some (.table origin inner) => do
      guard (origin ≠ .header ∧ (path.isEmpty → origin = .dotted))
      let inner ← Members.assign item (next :: path) inner
      return Members.put key (.table origin inner) members
    | some (.tables (last :: earlier)) => do
      guard !path.isEmpty
      let last ← Members.assign item (next :: path) last
      return Members.put key (.tables (last :: earlier)) members
    | some _ => none

mutual

/-- What a term stands for. -/
def Item.ofTerm : Term → Option Item
  | .scalar s => some (.scalar s)
  | .array terms => (Item.ofTerms terms).map .array
  | .table assignments => (Item.assignAll [] assignments).map .inline

def Item.ofTerms : List Term → Option (List Item)
  | [] => some []
  | term :: rest => do return (← Item.ofTerm term) :: (← Item.ofTerms rest)

/-- Adds assignments to the members of a table, one by one. -/
def Item.assignAll (members : Members) : List (List String × Term) → Option Members
  | [] => some members
  | (path, term) :: rest => do
    let item ← Item.ofTerm term
    let members ← Members.assign item path members
    Item.assignAll members rest

end

-- ============================================================ headers

/--
Changes what is at a path. Tables that are missing on the way come about; an array of tables stands
for its last table.
-/
def Members.alter (change : Option Item → Option Item) : List String → Members → Option Members
  | [], _ => none
  | [key], members => do
    let item ← change (members.lookup key)
    return Members.put key item members
  | key :: next :: path, members =>
    match members.lookup key with
    | none => do
      let inner ← Members.alter change (next :: path) []
      return Members.put key (.table .implied inner) members
    | some (.table origin inner) => do
      let inner ← Members.alter change (next :: path) inner
      return Members.put key (.table origin inner) members
    | some (.tables (last :: earlier)) => do
      let last ← Members.alter change (next :: path) last
      return Members.put key (.tables (last :: earlier)) members
    | some _ => none

/-- The table of a header, where there may be one already that had no header yet. -/
def tableAt (assignments : Assignments) (existing : Option Item) : Option Item :=
  match existing with
  | none => (Item.assignAll [] assignments).map (.table .header)
  | some (.table .implied members) => (Item.assignAll members assignments).map (.table .header)
  | some _ => none

/-- The array of tables of a header, with one more table. -/
def elementAt (assignments : Assignments) (existing : Option Item) : Option Item := do
  let element ← Item.assignAll [] assignments
  match existing with
  | none => return .tables [element]
  | some (.tables elements) => return .tables (element :: elements)
  | some _ => none

/-- Adds a section. -/
def Members.add (members : Members) (s : Section) : Option Members :=
  match s.header with
  | .root => Item.assignAll members s.assignments
  | .table path => Members.alter (tableAt s.assignments) path members
  | .element path => Members.alter (elementAt s.assignments) path members

/-- The members of the table that a text is. -/
def Members.ofSections (sections : List Section) : Option Members :=
  sections.foldlM Members.add []

end SchemaClasses.Toml
