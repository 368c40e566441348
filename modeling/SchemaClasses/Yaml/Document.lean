/-
From tokens to the node of a document.

One pass over the tokens. What is unfinished lies on a stack, the
innermost collection first, and beside it stands what may come next.
Where a node may come and none does, an absent node takes the place; the
token at hand then belongs to what is around it.

A text holds at most one document. Directives come before its start
marker, end markers may follow it, and nothing else.
-/
import SchemaClasses.Yaml.Node
import SchemaClasses.Yaml.Token

namespace SchemaClasses.Yaml

/-- How a sequence is written: indented, at the column of its key without further ado, or in brackets. -/
inductive SequenceStyle where
  | block
  | bare
  | flow
deriving DecidableEq

/-- How a mapping is written: indented, in braces, or as one pair in a sequence in brackets. -/
inductive MappingStyle where
  | block
  | flow
  | pair
deriving DecidableEq

/-- What the next complete node of a mapping will be. -/
inductive Slot where
  | key
  /-- A key without a value, as between two commas. -/
  | loneKey
  | value (key : Node)

/-- A collection whose end has not been reached, what it holds so far in reverse. -/
inductive Frame where
  | sequence (style : SequenceStyle) (properties : Properties) (items : List Node)
  | mapping (style : MappingStyle) (properties : Properties) (pairs : List (Node × Node))
    (slot : Slot)

/-- What may come next. -/
inductive Expectation where
  /-- A node, or nothing: then the node is absent. -/
  | nodeOrNothing
  /-- A node, these properties already said of it. -/
  | node (properties : Properties)
  /-- In brackets or braces: a node, a key, or the end. -/
  | element
  /-- What follows a complete node. -/
  | continuation

/-- The tokens read so far. -/
structure Reading where
  frames : List Frame
  expected : Expectation
  /-- The node of the document, when it is complete. -/
  root : Option Node := none
  /-- What the names of anchors stand for, the latest first. -/
  anchors : List (String × Nat) := []
  /-- What the handles of tags stand for. -/
  handles : List (String × String)

namespace Reading

-- ==================================================== complete nodes

/-- The frames with a complete node put in, or the root if there is no frame. -/
def placeIn (node : Node) : List Frame → Option (List Frame × Option Node)
  | [] => some ([], some node)
  | .sequence style properties items :: outer =>
    some (.sequence style properties (node :: items) :: outer, none)
  | .mapping style properties pairs .key :: outer =>
    some (.mapping style properties pairs (.value node) :: outer, none)
  | .mapping style properties pairs .loneKey :: outer =>
    some (.mapping style properties ((node, .absent) :: pairs) .key :: outer, none)
  | .mapping .pair properties pairs (.value key) :: outer =>
    placeIn (.mapping properties ((key, node) :: pairs).reverse) outer
  | .mapping style properties pairs (.value key) :: outer =>
    some (.mapping style properties ((key, node) :: pairs) .key :: outer, none)

/-- A node is complete. -/
def place (r : Reading) (node : Node) : Option Reading := do
  let (frames, root) ← placeIn node r.frames
  return { r with frames, root, expected := .continuation }

/-- A collection opens. -/
def push (r : Reading) (frame : Frame) (expected : Expectation) : Reading :=
  { r with frames := frame :: r.frames, expected }

/-- The innermost collection closes. -/
def close (r : Reading) : Option Reading :=
  match r.frames with
  | .sequence _ properties items :: outer =>
    { r with frames := outer }.place (.sequence properties items.reverse)
  | .mapping _ properties pairs _ :: outer =>
    { r with frames := outer }.place (.mapping properties pairs.reverse)
  | [] => none

/-- What the next complete node will be is set for the innermost mapping. -/
def setSlot (r : Reading) (slot : Slot) (expected : Expectation) : Option Reading :=
  match r.frames with
  | .mapping style properties pairs _ :: outer =>
    some { r with frames := .mapping style properties pairs slot :: outer, expected }
  | _ => none

-- ============================================================= nodes

/-- The text of a tag; its handle must be known. -/
def tagText? (r : Reading) (handle suffix : String) : Option String :=
  if handle.isEmpty then some suffix else (r.handles.lookup handle).map (· ++ suffix)

/-- Gives an anchor its number: how many names there are. -/
def nameAnchor (r : Reading) (name : String) : Nat × Reading :=
  let number := r.anchors.length
  let others := r.anchors.filter (·.1 ≠ name)
  (number, { r with anchors := (name, number) :: others })

/-- The innermost collection is written in brackets or braces. -/
def inFlow (r : Reading) : Bool :=
  match r.frames with
  | .sequence .flow _ _ :: _ => true
  | .mapping .flow _ _ _ :: _ => true
  | .mapping .pair _ _ _ :: _ => true
  | _ => false

/-- The innermost collection is an indented mapping. -/
def inBlockMapping (r : Reading) : Bool :=
  match r.frames with
  | .mapping .block _ _ _ :: _ => true
  | _ => false

/-- A token that begins a node of which these properties have been said. -/
def beginNode (r : Reading) (properties : Properties) : Token → Option Reading
  | .scalar plain text => r.place (.scalar properties plain text)
  | .alias name => do
    guard (properties.anchor.isNone && properties.tag.isNone)
    let number ← r.anchors.lookup name
    r.place (.alias number)
  | .anchor name => do
    guard properties.anchor.isNone
    let (number, r) := r.nameAnchor name
    return { r with expected := .node { properties with anchor := some number } }
  | .tag handle suffix => do
    guard properties.tag.isNone
    let text ← r.tagText? handle suffix
    return { r with expected := .node { properties with tag := some text } }
  | .openFlowSequence => some (r.push (.sequence .flow properties []) .element)
  | .openFlowMapping => some (r.push (.mapping .flow properties [] .key) .element)
  | .openBlockSequence => do
    guard !r.inFlow
    return r.push (.sequence .block properties []) .continuation
  | .openBlockMapping => do
    guard !r.inFlow
    return r.push (.mapping .block properties [] .key) .continuation
  | .entry => do
    guard r.inBlockMapping
    return r.push (.sequence .bare properties []) .nodeOrNothing
  | _ => none

/-- Whether a token can begin, or go on with, a node of which these properties have been said. -/
def goesOn (r : Reading) (properties : Properties) : Token → Bool
  | .scalar _ _ => true
  | .anchor _ => properties.anchor.isNone
  | .tag _ _ => properties.tag.isNone
  | .openFlowSequence => true
  | .openFlowMapping => true
  | .openBlockSequence => !r.inFlow
  | .openBlockMapping => !r.inFlow
  | .entry => r.inBlockMapping
  | _ => false

/-- Whether a token shows that an optional node is absent. -/
def showsAbsence (r : Reading) (token : Token) : Bool :=
  match r.frames, token with
  | .sequence .block _ _ :: _, .entry | .sequence .block _ _ :: _, .closeBlock => true
  | .sequence .bare _ _ :: _, .entry | .sequence .bare _ _ :: _, .closeBlock
  | .sequence .bare _ _ :: _, .key | .sequence .bare _ _ :: _, .value => true
  | .mapping .block _ _ _ :: _, .key | .mapping .block _ _ _ :: _, .value
  | .mapping .block _ _ _ :: _, .closeBlock => true
  | .mapping .flow _ _ .key :: _, .value => true
  | .mapping .flow _ _ _ :: _, .comma | .mapping .flow _ _ _ :: _, .closeFlowMapping => true
  | .mapping .pair _ _ .key :: _, .value => true
  | .mapping .pair _ _ _ :: _, .comma | .mapping .pair _ _ _ :: _, .closeFlowSequence => true
  | [], .documentEnd => true
  | _, _ => false

-- ============================================================== steps

/-- Puts an absent or empty node where the token at hand shows that no other comes. -/
def fill (r : Reading) (token : Token) : Option Reading :=
  match r.expected with
  | .nodeOrNothing => if r.showsAbsence token then r.place .absent else some r
  | .node properties =>
    if (properties.anchor.isSome || properties.tag.isSome) && !r.goesOn properties token then
      r.place (.scalar properties true "")
    else some r
  | _ => some r

/-- A bare sequence ends where no dash comes. -/
def endBare (r : Reading) (token : Token) : Option Reading :=
  match r.expected, r.frames, token with
  | .continuation, .sequence .bare _ _ :: _, .entry => some r
  | .continuation, .sequence .bare _ _ :: _, _ => r.close
  | _, _, _ => some r

/-- A key has an absent value where no colon comes. -/
def endKey (r : Reading) (token : Token) : Option Reading :=
  match r.expected, r.frames, token with
  | .continuation, .mapping _ _ _ (.value _) :: _, .value => some r
  | .continuation, .mapping _ _ _ (.value _) :: _, _ => r.place .absent
  | _, _, _ => some r

/-- What follows a complete node, or the opening of an indented collection. -/
def continueWith (r : Reading) (token : Token) : Option Reading :=
  match r.frames, token with
  | .mapping _ _ _ (.value _) :: _, .value => some { r with expected := .nodeOrNothing }
  | .sequence .block _ _ :: _, .entry | .sequence .bare _ _ :: _, .entry =>
    some { r with expected := .nodeOrNothing }
  | .sequence .block _ _ :: _, .closeBlock | .mapping .block _ _ _ :: _, .closeBlock => r.close
  | .mapping .block _ _ _ :: _, .key => some { r with expected := .nodeOrNothing }
  | .sequence .flow _ _ :: _, .comma | .mapping .flow _ _ _ :: _, .comma =>
    some { r with expected := .element }
  | .sequence .flow _ _ :: _, .closeFlowSequence | .mapping .flow _ _ _ :: _, .closeFlowMapping =>
    r.close
  | [], .documentEnd => some r
  | _, _ => none

/-- What a token makes of an element that begins, in brackets or braces. -/
def beginElement (r : Reading) (token : Token) : Option Reading :=
  match r.frames, token with
  | .sequence .flow _ _ :: _, .closeFlowSequence => r.close
  | .mapping .flow _ _ _ :: _, .closeFlowMapping => r.close
  | .sequence .flow _ _ :: _, .key => some (r.push (.mapping .pair {} [] .key) .nodeOrNothing)
  | .mapping .flow _ _ _ :: _, .key => r.setSlot .key .nodeOrNothing
  | .mapping .flow _ _ _ :: _, _ => do (← r.setSlot .loneKey (.node {})).beginNode {} token
  | _, _ => r.beginNode {} token

/-- A pair in brackets that has no key takes along the token that shows it. -/
def takesAlong (r : Reading) (token : Token) : Bool :=
  match r.expected, r.frames with
  | .nodeOrNothing, .mapping .pair _ _ .key :: _ => r.showsAbsence token
  | _, _ => false

/-- What a token makes of the tokens before it. -/
def step (r : Reading) (token : Token) : Option Reading := do
  if r.takesAlong token then r.place .absent
  else
    let r ← r.fill token
    let r ← r.endBare token
    let r ← r.endKey token
    match r.expected with
    | .nodeOrNothing => r.beginNode {} token
    | .node properties => r.beginNode properties token
    | .element => r.beginElement token
    | .continuation => r.continueWith token

end Reading

-- ========================================================== documents

/-- What the handles of tags stand for where no directive says otherwise. -/
def commonHandles : List (String × String) := [("!", "!"), ("!!", "tag:yaml.org,2002:")]

/-- The tokens that may come before the start of a document. -/
def isDirective : Token → Bool
  | .version _ _ => true
  | .tagPrefix _ _ => true
  | _ => false

/-- The handles that directives explain. No handle and no version may be given twice. -/
def handlesOf (versioned : Bool) (handles : List (String × String)) :
    List Token → Option (List (String × String))
  | .version major minor :: rest =>
    if versioned ∨ major ≠ 1 ∨ (minor ≠ 1 ∧ minor ≠ 2) then none
    else handlesOf true handles rest
  | .tagPrefix handle meaning :: rest =>
    if (handles.lookup handle).isSome then none
    else handlesOf versioned ((handle, meaning) :: handles) rest
  | _ => some (handles ++ commonHandles)

/-- The node that tokens spell, with the directives for it already read. -/
def rootOf (handles : List (String × String)) (expected : Expectation) (tokens : List Token) :
    Option Node := do
  let reading ← (tokens ++ [Token.documentEnd]).foldlM Reading.step { frames := [], expected, handles }
  reading.root

/-- The node of the document that tokens spell; without a token there is none. -/
def document? (tokens : List Token) : Option (Option Node) := do
  let directives := tokens.takeWhile isDirective
  let handles ← handlesOf false [] directives
  match tokens.dropWhile isDirective with
  | .documentStart :: rest => return some (← rootOf handles .nodeOrNothing rest)
  | [] => if directives.isEmpty then return none else none
  | rest => if directives.isEmpty then return some (← rootOf handles (.node {}) rest) else none

end SchemaClasses.Yaml
