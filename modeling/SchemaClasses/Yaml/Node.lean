/-
YAML documents as trees of nodes.

A node may carry an anchor, by which an alias elsewhere refers to it, and
a tag. Anchors are numbers here. Several nodes can have one number; what
an alias then means is the last of them in the document.
-/

namespace SchemaClasses.Yaml

/-- What is said about a node in front of it. -/
structure Properties where
  anchor : Option Nat := none
  tag : Option String := none

/-- A node of a document. -/
inductive Node where
  | alias (anchor : Nat)
  | scalar (properties : Properties) (plain : Bool) (text : String)
  | sequence (properties : Properties) (items : List Node)
  | mapping (properties : Properties) (pairs : List (Node × Node))

/-- The node where nothing is written. -/
def Node.absent : Node := .scalar {} true ""

namespace Node

/-- A node by itself, if it has an anchor. -/
def anchored (node : Node) (properties : Properties) : List (Nat × Node) :=
  (properties.anchor.map (·, node)).toList

mutual

/-- The nodes with anchors in a node, in the order they start in. -/
def anchors : Node → List (Nat × Node)
  | .alias _ => []
  | .scalar properties plain text => anchored (.scalar properties plain text) properties
  | .sequence properties items =>
    anchored (.sequence properties items) properties ++ anchorsOfItems items
  | .mapping properties pairs =>
    anchored (.mapping properties pairs) properties ++ anchorsOfPairs pairs

def anchorsOfItems : List Node → List (Nat × Node)
  | [] => []
  | item :: rest => item.anchors ++ anchorsOfItems rest

def anchorsOfPairs : List (Node × Node) → List (Nat × Node)
  | [] => []
  | (key, value) :: rest => key.anchors ++ value.anchors ++ anchorsOfPairs rest

end

mutual

/-- The number of starts and ends in a node: two for a collection, one for any other node. -/
def size : Node → Nat
  | .alias _ => 1
  | .scalar _ _ _ => 1
  | .sequence _ items => 2 + sizeOfItems items
  | .mapping _ pairs => 2 + sizeOfPairs pairs

def sizeOfItems : List Node → Nat
  | [] => 0
  | item :: rest => item.size + sizeOfItems rest

def sizeOfPairs : List (Node × Node) → Nat
  | [] => 0
  | (key, value) :: rest => key.size + value.size + sizeOfPairs rest

end

end Node

end SchemaClasses.Yaml
