/-
From the tokens of a YAML document of a schema tree to its values.

The tokens of a node complete that node wherever the value of a key may
come. There are no anchors in what spells a tree, so a node stands for the
same value whatever has been read before it.
-/
import Mathlib.Data.List.Forall2
import SchemaClasses.Proofs.Yaml.Spelling
import SchemaClasses.Yaml.Value

namespace SchemaClasses.Yaml

variable {α : Type}

-- ============================================================== nodes

/-- How the mappings of a tree are written. -/
def styleOf (inBraces : Bool) : MappingStyle := if inBraces then .flow else .block

/-- A value is owed to a key. -/
structure Reading.Awaits (inBraces : Bool) (r : Reading) : Prop where
  expected : r.expected = .nodeOrNothing
  root : r.root = none
  frames : ∃ properties pairs key outer,
    r.frames = .mapping (styleOf inBraces) properties pairs (.value key) :: outer

/-- The tokens complete this node wherever it is the value of a key. -/
def Completes (inBraces : Bool) (tokens : List Token) (node : Node) : Prop :=
  ∀ r later : Reading, r.Awaits inBraces → r.place node = some later →
    tokens.foldlM Reading.step r = some later

/-- The reading is in a mapping with these pairs, the latest first, around which lie these frames. -/
def Reading.inMapping (r : Reading) (inBraces : Bool) (pairs : List (Node × Node))
    (outer : List Frame) (expected : Expectation) : Reading :=
  { r with frames := .mapping (styleOf inBraces) {} pairs .key :: outer, root := none, expected }

/-- What is expected where a mapping has begun, or goes on. -/
def awaitsKey (inBraces : Bool) : Expectation := if inBraces then .element else .continuation

theorem step_scalar {inBraces : Bool} {r : Reading} (h : r.Awaits inBraces) (plain : Bool)
    (text : String) : r.step (.scalar plain text) = r.place (.scalar {} plain text) := by
  obtain ⟨frames, expected, root, anchors, handles⟩ := r
  obtain ⟨rfl, -, _, _, _, _, rfl⟩ := h
  cases inBraces <;> rfl

/-- A scalar is a node by itself. -/
theorem completes_scalar (inBraces plain : Bool) (text : String) :
    Completes inBraces [.scalar plain text] (.scalar {} plain text) := by
  intro r later awaits placed
  rw [List.foldlM_cons, step_scalar awaits, placed]
  rfl

theorem awaits_value (r : Reading) (inBraces : Bool) (pairs : List (Node × Node)) (key : Node)
    (outer : List Frame) :
    Reading.Awaits inBraces { r with
      frames := .mapping (styleOf inBraces) {} pairs (.value key) :: outer
      root := none
      expected := .nodeOrNothing } :=
  ⟨rfl, rfl, _, _, _, _, rfl⟩

/-- The tokens of an entry bring the reading of its mapping one pair further. -/
theorem foldlM_entry {inBraces : Bool} {tokens : List Token} {node : Node}
    (completes : Completes inBraces tokens node) (plain : Bool) (name : String) (r : Reading)
    (pairs : List (Node × Node)) (outer : List Frame) :
    (.key :: .scalar plain name :: .value :: tokens).foldlM Reading.step
        (r.inMapping inBraces pairs outer (awaitsKey inBraces)) =
      some (r.inMapping inBraces ((.scalar {} plain name, node) :: pairs) outer .continuation) := by
  have placed : Reading.place { r with
      frames := .mapping (styleOf inBraces) {} pairs (.value (.scalar {} plain name)) :: outer
      root := none
      expected := .nodeOrNothing } node =
        some (r.inMapping inBraces ((.scalar {} plain name, node) :: pairs) outer .continuation) := by
    cases inBraces <;> rfl
  rw [← completes _ _ (awaits_value r inBraces pairs (.scalar {} plain name) outer) placed]
  cases inBraces <;> rfl

/-- A comma in braces makes way for the next key. -/
theorem step_comma (r : Reading) (pairs : List (Node × Node)) (outer : List Frame) :
    (r.inMapping true pairs outer .continuation).step .comma =
      some (r.inMapping true pairs outer (awaitsKey true)) := rfl

/-- The token that opens a mapping. -/
def openingOf (inBraces : Bool) : Token :=
  if inBraces then .openFlowMapping else .openBlockMapping

/-- The token that closes a mapping. -/
def closingOf (inBraces : Bool) : Token :=
  if inBraces then .closeFlowMapping else .closeBlock

/-- A mapping may open in braces wherever a value may come, and as a block where it is in blocks. -/
theorem step_opening {around inBraces : Bool} {r : Reading} (h : r.Awaits around)
    (allowed : around = true → inBraces = true) :
    r.step (openingOf inBraces) = some (r.inMapping inBraces [] r.frames (awaitsKey inBraces)) := by
  obtain ⟨frames, expected, root, anchors, handles⟩ := r
  obtain ⟨rfl, rfl, _, _, _, _, rfl⟩ := h
  cases around with
  | true =>
      rw [allowed rfl]
      rfl
  | false => cases inBraces <;> rfl

/-- A mapping that closes is a complete node. -/
theorem step_closing (r : Reading) (inBraces : Bool) (pairs : List (Node × Node)) :
    (r.inMapping inBraces pairs r.frames .continuation).step (closingOf inBraces) =
      r.place (.mapping {} pairs.reverse) := by
  cases inBraces <;> rfl

/-- Braces may close right where they open. -/
theorem step_closing_empty (r : Reading) :
    (r.inMapping true [] r.frames (awaitsKey true)).step .closeFlowMapping =
      r.place (.mapping {} []) := rfl

/-- A mapping is complete behind the tokens of its entries. -/
theorem completes_mapping {around inBraces : Bool} (allowed : around = true → inBraces = true)
    {tokens : List Token} {pairs : List (Node × Node)}
    (entries : ∀ (r : Reading) outer, tokens.foldlM Reading.step
        (r.inMapping inBraces [] outer (awaitsKey inBraces)) =
      some (r.inMapping inBraces pairs.reverse outer .continuation)) :
    Completes around (openingOf inBraces :: tokens ++ [closingOf inBraces]) (.mapping {} pairs) := by
  intro r later awaits placed
  rw [List.cons_append, List.foldlM_cons, step_opening awaits allowed, Option.bind_eq_bind,
    Option.bind_some, List.foldlM_append, entries, Option.bind_eq_bind, Option.bind_some,
    List.foldlM_cons, step_closing, List.reverse_reverse, placed]
  rfl

/-- Empty braces are a complete mapping. -/
theorem completes_empty (around : Bool) :
    Completes around [.openFlowMapping, .closeFlowMapping] (.mapping {} []) := by
  intro r later awaits placed
  have opened : r.step (openingOf true) = _ := step_opening awaits fun _ => rfl
  rw [List.foldlM_cons]
  show r.step (openingOf true) >>= _ = _
  rw [opened, Option.bind_eq_bind, Option.bind_some, List.foldlM_cons, step_closing_empty, placed]
  rfl

-- ============================================================= values

/-- The node stands for the value where mappings may lie in each other as deep as this, or deeper. -/
def StandsFor (depth : Nat) (value : Value) (node : Node) : Prop :=
  ∀ (source : Source) (deeper : Nat), depth ≤ deeper → source.value deeper node = pure value

/-- A pair of a mapping that stands for an entry. -/
def StandsForEntry (stands : α → Node → Prop) (entry : String × α) (pair : Node × Node) : Prop :=
  (∃ plain, pair.1 = .scalar {} plain entry.1) ∧ stands entry.2 pair.2

theorem standsFor_plain {text : String} {value : Value} (h : plainValue? text = some value) :
    StandsFor 0 value (.scalar {} true text) := by
  intro source deeper _
  rw [Source.value]
  show (liftM (scalarValue? none true text) : Source.Reader Value) = _
  rw [scalarValue?, if_pos rfl, h]
  rfl

theorem standsFor_quoted (text : String) : StandsFor 0 (.string text) (.scalar {} false text) := by
  intro source deeper _
  rw [Source.value]
  rfl

theorem key_scalar (source : Source) (plain : Bool) (text : String) :
    source.key (.scalar {} plain text) = pure text := rfl

/-- The node is a mapping whose pairs stand for the entries. -/
def IsMappingOf (stands : α → Node → Prop) (k : Keyed α) (node : Node) : Prop :=
  ∃ pairs, node = .mapping {} pairs ∧ List.Forall₂ (StandsForEntry stands) k.entries pairs

section
variable {f : α → Value} {depth : Nat}

/-- Pairs that stand for entries are read as these entries. -/
theorem mapM_pairs {deeper : Nat} (le : depth ≤ deeper) (source : Source)
    {entries : List (String × α)} {pairs : List (Node × Node)}
    (stand : List.Forall₂ (StandsForEntry fun a => StandsFor depth (f a)) entries pairs) :
    (pairs.mapM fun pair => do
      return (← source.key pair.1, ← source.value deeper pair.2) : Source.Reader _) =
        pure (entries.map fun entry => (entry.1, f entry.2)) := by
  induction stand with
  | nil => rfl
  | @cons entry pair _ _ first others ih =>
      obtain ⟨⟨plain, key⟩, value⟩ := first
      rw [List.mapM_cons, ih, key, value source deeper le]
      rfl

/-- A mapping of pairs that stand for entries stands for the mapping of these. -/
theorem standsFor_mapping {k : Keyed α} {node : Node}
    (h : IsMappingOf (fun a => StandsFor depth (f a)) k node) :
    StandsFor (depth + 1) (k.value f) node := by
  obtain ⟨pairs, rfl, stand⟩ := h
  intro source deeper le
  obtain ⟨more, rfl⟩ := Nat.exists_eq_add_of_le' le
  rw [Source.value]
  show ((pairs.mapM fun pair => do
    return (← source.key pair.1, ← source.value (more + depth) pair.2) : Source.Reader _) >>=
      fun bindings => pure (Value.mapping (Entries.ofBindings bindings))) = _
  rw [mapM_pairs (Nat.le_add_left depth more) source stand, pure_bind]
  exact congrArg (fun bindings => pure (Value.mapping bindings)) (k.ofBindings_bindings f)

/-- Where the contents are such a mapping, they are its entries. -/
theorem contents_mapping (le : depth ≤ deepest - 2) (source : Source) {k : Keyed α} {node : Node}
    (h : IsMappingOf (fun a => StandsFor depth (f a)) k node) :
    source.contents node = pure (some (k.bindings f)) := by
  obtain ⟨pairs, rfl, stand⟩ := h
  rw [Source.contents]
  show ((pairs.mapM fun pair => do
    return (← source.key pair.1, ← source.value (deepest - 2) pair.2) : Source.Reader _) >>=
      fun bindings => pure (some (Entries.ofBindings bindings))) = _
  rw [mapM_pairs le source stand, pure_bind]
  exact congrArg (fun bindings => pure (some bindings)) (k.ofBindings_bindings f)

end

end SchemaClasses.Yaml
