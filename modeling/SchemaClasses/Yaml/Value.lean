/-
The schema contents of a YAML text.

The root is a mapping. Only the contents are read as values, each alias
as a copy of what it stands for. Collections may lie in each other to a
certain depth, and aliases may be followed a certain number of times,
which grows with the document; so an alias inside its own anchor is
refused like all that would not end. Keys are scalars, and a key is the
text as it is written.
-/
import SchemaClasses.Yaml.Document
import SchemaClasses.Yaml.Lexeme
import SchemaClasses.Yaml.Meaning

namespace SchemaClasses.Yaml

/-- How deep collections may lie in each other, the root counted. -/
def deepest : Nat := 128

/-- How many times aliases may be followed, per start or end of a node. -/
def copiesPerNode : Nat := 100

/-- A document, ready for aliases to be looked up. -/
structure Source where
  /-- The nodes with anchors, the last first. -/
  anchors : List (Nat × Node)
  /-- How many times aliases may be followed. -/
  copies : Nat

def Source.ofRoot (root : Node) : Source :=
  ⟨root.anchors.reverse, copiesPerNode * root.size⟩

namespace Source

/-- Reading counts how many times aliases were followed, and may fail. -/
abbrev Reader := StateT Nat Option

/-- The node itself, or for an alias the node it stands for. -/
def follow (source : Source) : Node → Reader Node
  | .alias anchor => do
    let count ← get
    guard (count < source.copies)
    set (count + 1)
    source.anchors.lookup anchor
  | node => pure node

/-- The text of a key. -/
def key (source : Source) (node : Node) : Reader String := do
  match ← source.follow node with
  | .scalar _ _ text => return text
  | _ => failure

/-- Properties with which a collection can be read. -/
def guardTag (properties : Properties) : Reader Unit :=
  guard !(properties.tag.map isLocalTag).getD false

/--
The value of a node in which collections lie at most `depth` deep. Of several entries with one key
the last one counts, at the place of the first.
-/
def value (source : Source) (depth : Nat) (node : Node) : Reader Value := do
  match ← source.follow node with
  | .alias _ => failure
  | .scalar properties plain text => scalarValue? properties.tag plain text
  | .sequence properties items =>
    guardTag properties
    match depth with
    | 0 => failure
    | depth + 1 => return .sequence (← items.mapM (source.value depth))
  | .mapping properties pairs =>
    guardTag properties
    match depth with
    | 0 => failure
    | depth + 1 =>
      let bindings ← pairs.mapM fun (key, node) => do
        return (← source.key key, ← source.value depth node)
      return .mapping (Entries.ofBindings bindings)

/-- The scalar stands for no contents at all: it is plain and null. None if its tag forbids that. -/
def isNothing? (tag : Option String) (plain : Bool) (text : String) : Option Bool :=
  if !plain then some false
  else
    match tag with
    | none => some (text.isEmpty || isNull text)
    | some tag => if tag = commonTag "null" then if isNull text then some true else none else some false

/-- The entries of a node that stands for the contents; null stands for none. -/
def contents (source : Source) (node : Node) : Reader (Option Entries) := do
  match ← source.follow node with
  | .mapping _ pairs =>
    let bindings ← pairs.mapM fun (key, node) => do
      return (← source.key key, ← source.value (deepest - 2) node)
    return some (Entries.ofBindings bindings)
  | .scalar properties plain text =>
    if ← (isNothing? properties.tag plain text) then return none
    else if plain && text.isEmpty then return some []
    else failure
  | _ => failure

/-- The contents among the pairs of the root, under the key `container`, which may occur once. -/
def contentsOfPairs (source : Source) (container : String) (found : Option (Option Entries)) :
    List (Node × Node) → Reader (Option Entries)
  | [] => return found.join
  | (key, node) :: rest => do
    if (← source.key key) = container then
      guard found.isNone
      source.contentsOfPairs container (some (← source.contents node)) rest
    else source.contentsOfPairs container found rest

end Source

/-- The entries that a text binds to `container`: none if it is ill formed, `some none` if it has none. -/
def entries? (container : String) (text : String) : Option (Option Entries) := do
  let tokens ← tokens? text
  match ← document? tokens with
  | none => return none
  | some root =>
    let source := Source.ofRoot root
    match root with
    | .mapping _ pairs => ((source.contentsOfPairs container none pairs).run 0).map (·.1)
    | .scalar _ plain text => if plain && text.isEmpty then return none else none
    | _ => none

end SchemaClasses.Yaml
