/-
The schema contents of a TOML text.

Only the contents are read as values, but no number anywhere may be
beyond all bounds. The order of a text means nothing to its tables:
every mapping comes in ascending order of its keys. Dates and times have
no counterpart among the values, so a moment becomes a mapping with one
entry under a name of its own; infinities become null.
-/
import SchemaClasses.Toml.Table
import SchemaClasses.Value.Basic

namespace SchemaClasses.Toml

-- ============================================================= values

/-- The key under which a moment keeps its text. -/
def momentKey : String := "$__toml_private_datetime"

/-- The value of a scalar; whole numbers must fit 64 bits. -/
def Scalar.value? : Scalar → Option Value
  | .string text => some (.string text)
  | .bool b => some (.bool b)
  | .whole n => if fitsBits 64 n then some (.number (.whole n)) else none
  | .fraction x => some (.number (.fraction x))
  | .unbounded => some .null
  | .moment text => some (.mapping [(momentKey, .string text)])

/-- Puts an entry among ascending ones. -/
def insertByKey (key : String) (value : Value) : Entries → Entries
  | [] => [(key, value)]
  | (k, v) :: rest =>
    if k < key then (k, v) :: insertByKey key value rest else (key, value) :: (k, v) :: rest

mutual

/-- The value of an item. -/
def Item.value? : Item → Option Value
  | .scalar s => s.value?
  | .array items => (Item.values? items).map .sequence
  | .inline members => (Item.entries? members).map .mapping
  | .table _ members => (Item.entries? members).map .mapping
  | .tables elements => (Item.mappings? elements).map fun values => .sequence values.reverse

def Item.values? : List Item → Option (List Value)
  | [] => some []
  | item :: rest => do return (← Item.value? item) :: (← Item.values? rest)

/-- The entries of members, in ascending order. -/
def Item.entries? : List (String × Item) → Option Entries
  | [] => some []
  | (key, item) :: rest => do
    let value ← Item.value? item
    let entries ← Item.entries? rest
    return insertByKey key value entries

def Item.mappings? : List (List (String × Item)) → Option (List Value)
  | [] => some []
  | members :: rest => do return .mapping (← Item.entries? members) :: (← Item.mappings? rest)

end

-- =========================================================== contents

/-- A scalar that may stand where nobody reads it: whole numbers must fit 128 bits. -/
def Scalar.isBounded : Scalar → Bool
  | .whole n => fitsBits 128 n
  | _ => true

mutual

/-- All scalars of an item are bounded. -/
def Item.isBounded : Item → Bool
  | .scalar s => s.isBounded
  | .array items => Item.areBounded items
  | .inline members => Item.areMembersBounded members
  | .table _ members => Item.areMembersBounded members
  | .tables elements => Item.areElementsBounded elements

def Item.areBounded : List Item → Bool
  | [] => true
  | item :: rest => item.isBounded && Item.areBounded rest

def Item.areMembersBounded : List (String × Item) → Bool
  | [] => true
  | (_, item) :: rest => item.isBounded && Item.areMembersBounded rest

def Item.areElementsBounded : List (List (String × Item)) → Bool
  | [] => true
  | members :: rest => Item.areMembersBounded members && Item.areElementsBounded rest

end

/-- The entries that a text binds to `container`: none if it is ill formed, `some none` if it has none. -/
def entries? (container : String) (text : String) : Option (Option Entries) := do
  let members ← Members.ofSections (← sections? text)
  guard (Item.areMembersBounded members)
  match members.lookup container with
  | none => return none
  | some item =>
    let value ← item.value?
    return some (← value.mapping?)

end SchemaClasses.Toml
