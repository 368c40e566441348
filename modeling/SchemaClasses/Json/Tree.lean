/-
JSON texts as trees.

A tree is what the tokens spell before anybody asks what it means:
numbers are still literals, and an object still has all its members,
repeated names included. Reading it is one pass over the tokens. What is
unfinished lies on a stack, innermost first, so no nesting is too deep.
-/
import SchemaClasses.Json.Token

namespace SchemaClasses.Json

/-- A JSON text as a tree. -/
inductive Tree where
  | null
  | bool (b : Bool)
  | number (negative : Bool) (literal : Decimal.Literal)
  | string (text : Option String)
  | array (items : List Tree)
  | object (members : List (Option String × Tree))

/-- An array or object whose end has not been reached, what it holds so far in reverse. -/
inductive Unfinished where
  | array (items : List Tree)
  | object (members : List (Option String × Tree))
  /-- An object with a name that waits for its value. -/
  | member (members : List (Option String × Tree)) (name : Option String)

/-- What has been read, and so what may come next. -/
inductive Progress where
  /-- A value must come. -/
  | value (around : List Unfinished)
  /-- An array has opened: a value must come, or the end of it. -/
  | item (around : List Unfinished)
  /-- An object has opened: a name must come, or the end of it. -/
  | name (around : List Unfinished)
  /-- A comma has come: a name must follow. -/
  | nextName (around : List Unfinished)
  /-- A name has come: a colon must follow. -/
  | colon (around : List Unfinished)
  /-- A value is complete. -/
  | complete (tree : Tree) (around : List Unfinished)

namespace Progress

/-- A value starts where one may. -/
def beginValue (around : List Unfinished) : Token → Option Progress
  | .null => some (.complete .null around)
  | .bool b => some (.complete (.bool b) around)
  | .number negative literal => some (.complete (.number negative literal) around)
  | .string text => some (.complete (.string text) around)
  | .openArray => some (.item (.array [] :: around))
  | .openObject => some (.name (.object [] :: around))
  | _ => none

/-- A complete value is followed by a comma or by the end of what is around it. -/
def afterValue (tree : Tree) : List Unfinished → Token → Option Progress
  | .array items :: around, .comma => some (.value (.array (tree :: items) :: around))
  | .array items :: around, .closeArray => some (.complete (.array (tree :: items).reverse) around)
  | .member members key :: around, .comma =>
    some (.nextName (.object ((key, tree) :: members) :: around))
  | .member members key :: around, .closeObject =>
    some (.complete (.object ((key, tree) :: members).reverse) around)
  | _, _ => none

/-- What a token makes of what has been read; none if it cannot come here. -/
def step : Progress → Token → Option Progress
  | .value around, token => beginValue around token
  | .item (.array [] :: around), .closeArray => some (.complete (.array []) around)
  | .item around, token => beginValue around token
  | .name (.object [] :: around), .closeObject => some (.complete (.object []) around)
  | .name (.object members :: around), .string text => some (.colon (.member members text :: around))
  | .nextName (.object members :: around), .string text =>
    some (.colon (.member members text :: around))
  | .colon around, .colon => some (.value around)
  | .complete tree around, token => afterValue tree around token
  | _, _ => none

/-- The tree, if one is complete and nothing around it is unfinished. -/
def tree? : Progress → Option Tree
  | .complete tree [] => some tree
  | _ => none

end Progress

/-- The tree that tokens spell. -/
def Tree.ofTokens? (tokens : List Token) : Option Tree := do
  let progress ← tokens.foldlM Progress.step (.value [])
  progress.tree?

/-- The tree of a text. -/
def Tree.ofText? (text : String) : Option Tree := do
  let tokens ← tokens? text.toList
  Tree.ofTokens? tokens

end SchemaClasses.Json
