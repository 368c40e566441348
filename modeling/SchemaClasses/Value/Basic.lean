/-
The values a schema document is made of.

Whatever format a schema is written in, its contents are of one kind:
null, booleans, numbers, strings, sequences, and mappings from strings
to values. A mapping keeps the order of its entries, because fields and
comments are generated in that order.
-/
import SchemaClasses.Decimal.Double

namespace SchemaClasses

/-- A number: whole numbers are kept exactly, all others as doubles. -/
inductive Number where
  | whole (n : Int)
  | fraction (x : Decimal.Double)
deriving DecidableEq, Repr

/-- A whole number that so many bits can hold, with a sign or without one. -/
def fitsBits (bits : Nat) (n : Int) : Bool :=
  -(Nat.pow 2 (bits - 1) : Int) ≤ n && n < (Nat.pow 2 bits : Int)

/-- A value of a schema document. -/
inductive Value where
  | null
  | bool (b : Bool)
  | number (n : Number)
  | string (s : String)
  | sequence (items : List Value)
  /-- The entries in order; no reader produces a key twice. -/
  | mapping (entries : List (String × Value))
deriving Repr

/-- The entries of a mapping, in order. -/
abbrev Entries := List (String × Value)

/-- What a value is, apart from its contents. -/
inductive Kind where
  | null
  | boolean
  | number
  | string
  | sequence
  | mapping
deriving DecidableEq, Repr

/-- The noun phrase for a kind in messages. -/
def Kind.phrase : Kind → String
  | .null => "null"
  | .boolean => "a boolean"
  | .number => "a number"
  | .string => "a string"
  | .sequence => "a sequence"
  | .mapping => "a mapping"

namespace Value

def kind : Value → Kind
  | .null => .null
  | .bool _ => .boolean
  | .number _ => .number
  | .string _ => .string
  | .sequence _ => .sequence
  | .mapping _ => .mapping

/-- The entries of a value that is a mapping. -/
def mapping? : Value → Option Entries
  | .mapping entries => some entries
  | _ => none

/-- The text of a value that is a string. -/
def string? : Value → Option String
  | .string s => some s
  | _ => none

end Value

-- ==================================================== entries by key

namespace Entries

/-- The value of a key. -/
def get? (entries : Entries) (key : String) : Option Value :=
  entries.lookup key

/-- Binds a key: a key that is there already keeps its place and gets the new value. -/
def put (key : String) (value : Value) : Entries → Entries
  | [] => [(key, value)]
  | (k, v) :: rest => if k = key then (k, value) :: rest else (k, v) :: put key value rest

/-- The mapping that a list of bindings describes: of several for one key the last one counts. -/
def ofBindings (bindings : List (String × Value)) : Entries :=
  bindings.foldl (fun entries (key, value) => put key value entries) []

end Entries

end SchemaClasses
