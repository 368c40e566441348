/-
The schema contents of a JSON text.

The root is an object, or an array of exactly one element, which then
stands for the contents. Only the contents are read as values. All else
in the text has to be well formed and nothing more: numbers out of range,
strings without a text and any nesting may occur there.
-/
import SchemaClasses.Json.Number
import SchemaClasses.Json.Tree

namespace SchemaClasses.Json

/-- How deep arrays and objects may lie in each other, the root counted. -/
def deepest : Nat := 127

/--
The value of a tree in which arrays and objects lie at most `depth` deep. Of several members with
one name the last one counts, at the place of the first.
-/
def value? (depth : Nat) : Tree → Option Value
  | .null => some .null
  | .bool b => some (.bool b)
  | .number negative literal => (number? negative literal).map .number
  | .string text => text.map .string
  | .array items =>
    match depth with
    | 0 => none
    | depth + 1 => (items.mapM (value? depth)).map .sequence
  | .object members =>
    match depth with
    | 0 => none
    | depth + 1 => do
      let bindings ← members.mapM fun (name, tree) => do return (← name, ← value? depth tree)
      return .mapping (Entries.ofBindings bindings)

/-- The entries of a tree that stands for the contents; null stands for none. -/
def contents? (tree : Tree) : Option (Option Entries) := do
  match tree with
  | .null => return none
  | _ =>
    let value ← value? (deepest - 1) tree
    return some (← value.mapping?)

/-- The contents in an object, under the name `container`, which may occur once. -/
def contentsOfMembers? (container : String) (members : List (Option String × Tree)) :
    Option (Option Entries) := do
  let names ← members.mapM (·.1)
  match (names.zip (members.map (·.2))).filter (·.1 == container) with
  | [] => return none
  | [(_, tree)] => contents? tree
  | _ => none

/-- The entries that a text binds to `container`: none if it is ill formed, `some none` if it has none. -/
def entries? (container : String) (text : String) : Option (Option Entries) := do
  match ← Tree.ofText? text with
  | .object members => contentsOfMembers? container members
  | .array [tree] => contents? tree
  | _ => none

end SchemaClasses.Json
