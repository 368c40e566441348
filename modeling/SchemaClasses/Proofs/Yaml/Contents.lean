/-
What a YAML text says.

An alias is seen as the node it stands for. The form of a scalar is told
by its tag and, if the tag says nothing, by its spelling; a scalar with a
tag of the document's own is some scalar, whose value nobody can tell.

Reading counts how often aliases are followed. What is read does not
depend on the count, only whether it is read at all does; so a reader is
looked at through what it can give (`Gives`), count aside.
-/
import Mathlib.Data.Option.Basic
import SchemaClasses.Proofs.Schema.Document
import SchemaClasses.Yaml.Value

namespace SchemaClasses.Yaml

open Source (Reader)

-- ============================================================= readers

/-- A reader gives this if it has followed so and so many aliases before. -/
def Gives {α : Type} (reader : Reader α) (a : α) : Prop :=
  ∃ count later, reader.run count = some (a, later)

section
variable {α β : Type} {a own : α} {b : β}

theorem exists_of_gives_bind {reader : Reader α} {next : α → Reader β}
    (h : Gives (reader >>= next) b) : ∃ a, Gives reader a ∧ Gives (next a) b := by
  obtain ⟨count, last, ran⟩ := h
  rw [StateT.run_bind] at ran
  obtain ⟨⟨a, later⟩, first, rest⟩ := Option.bind_eq_some_iff.1 ran
  exact ⟨a, ⟨count, later, first⟩, later, last, rest⟩

theorem eq_of_gives_pure (h : Gives (pure own) a) : own = a := by
  obtain ⟨count, later, ran⟩ := h
  cases ran
  rfl

theorem not_gives_failure : ¬Gives (failure : Reader α) a := by
  rintro ⟨count, later, ran⟩
  cases ran

theorem eq_some_of_gives_lift {found : Option α} (h : Gives (liftM found : Reader α) a) :
    found = some a := by
  obtain ⟨count, later, ran⟩ := h
  obtain ⟨own, found, eq⟩ := Option.bind_eq_some_iff.1 ran
  cases eq
  exact found

theorem forall₂_of_gives_mapM {f : α → Reader β} {front : List α} {back : List β}
    (h : Gives (front.mapM f) back) : List.Forall₂ (fun a b => Gives (f a) b) front back := by
  induction front generalizing back with
  | nil =>
      cases eq_of_gives_pure h
      exact .nil
  | cons a rest ih =>
      rw [List.mapM_cons] at h
      obtain ⟨b, first, h⟩ := exists_of_gives_bind h
      obtain ⟨others, later, h⟩ := exists_of_gives_bind h
      cases eq_of_gives_pure h
      exact .cons first (ih later)

end

-- =========================================================== document

/-- The form that a plain scalar without a tag has by its spelling. -/
def plainForm (text : String) : Form :=
  if text.isEmpty ∨ isNull text then .null
  else if isUnbounded text then .unbounded
  else .scalar

/-- The form of a scalar. A tag whose octets are no text is as if it were not there. -/
def scalarForm (tag : Option String) (plain : Bool) (text : String) : Form :=
  match tag with
  | none => if plain then plainForm text else .scalar
  | some tag =>
    if isLocalTag tag then .scalar
    else if startsLocalTag tag then if plain then plainForm text else .scalar
    else if tag = commonTag "null" then .null
    else if tag = commonTag "float" ∧ isUnbounded text then .unbounded
    else .scalar

namespace Node

def form : Node → Form
  | .alias _ => .scalar
  | .scalar properties plain text => scalarForm properties.tag plain text
  | .sequence _ _ => .sequence
  | .mapping _ _ => .mapping

def items : Node → List Node
  | .sequence _ items => items
  | _ => []

def pairs : Node → List (Node × Node)
  | .mapping _ pairs => pairs
  | _ => []

def isBlank : Node → Bool
  | .scalar _ plain text => plain && text.isEmpty
  | _ => false

/-- The text of a scalar. -/
def text? : Node → Option String
  | .scalar _ _ text => some text
  | _ => none

end Node

/-- The node itself, or for an alias the node it stands for. -/
def Source.resolve (source : Source) : Node → Node
  | .alias anchor => (source.anchors.lookup anchor).getD (.alias anchor)
  | node => node

/-- The entries that pairs are: keys are scalars. -/
def Source.entriesOf (source : Source) (pairs : List (Node × Node)) : List (String × Node) :=
  keyed (fun key => (source.resolve key).text?) pairs

/-- The document that a node is. -/
def Node.document (root : Node) : Document :=
  let source := Source.ofRoot root
  { Node, root
    form := fun node => (source.resolve node).form
    entries := fun node => source.entriesOf (source.resolve node).pairs
    items := fun node => (source.resolve node).items
    isBlank := fun node => (source.resolve node).isBlank }

-- ============================================================= scalars

/-- All the spellings of infinities are read as null. -/
theorem plainValue?_of_isUnbounded {text : String} (h : isUnbounded text = true) :
    plainValue? text = some .null := by
  have all : ∀ spelling ∈ [".inf", ".Inf", ".INF", "+.inf", "+.Inf", "+.INF", "-.inf", "-.Inf",
      "-.INF", ".nan", ".NaN", ".NAN"], (plainValue? spelling).map Value.kind = some .null := by
    decide +kernel
  have read := all text (List.contains_iff_mem.1 h)
  obtain ⟨value, read, kind⟩ := Option.map_eq_some_iff.1 read
  cases value with
  | null => exact read
  | _ => cases kind

variable {d : Document} {node : d.Node} {text : String} {value : Value}

theorem isScalar_of_wholeValue? (h : wholeValue? text = some (some value)) : value.IsScalar := by
  unfold wholeValue? at h
  split at h
  · cases h
  · split at h
    · cases h
      trivial
    · cases h
    · cases h

theorem isScalar_of_fraction? (bounded : isUnbounded text = false)
    (h : fraction? text = some value) : value.IsScalar := by
  rw [fraction?, if_neg (by simp [bounded])] at h
  obtain ⟨x, -, rfl⟩ := Option.map_eq_some_iff.1 h
  trivial

/-- What a plain scalar means that is neither null nor unbounded. -/
theorem isScalar_of_spelling (bounded : isUnbounded text = false)
    (h : (match bool? text with
      | some b => some (.bool b)
      | none =>
        match wholeValue? text with
        | some value => value
        | none =>
          if isPaddedDigits (Decimal.readSign text.toList).2 then some (.string text)
          else some ((fraction? text).getD (.string text))) = some value) : value.IsScalar := by
  split at h
  · cases h
    trivial
  · split at h
    next whole =>
      rw [h] at whole
      exact isScalar_of_wholeValue? whole
    · split at h
      · cases h
        trivial
      · cases fraction : fraction? text with
        | none =>
            rw [fraction] at h
            cases h
            trivial
        | some own =>
            rw [fraction] at h
            cases h
            exact isScalar_of_fraction? bounded fraction

/-- A plain scalar without a tag is read by its spelling. -/
theorem reads_of_plainValue? (form : d.form node = plainForm text)
    (h : plainValue? text = some value) : d.Reads node value := by
  by_cases null : text.isEmpty ∨ isNull text
  · rw [plainValue?, if_pos null] at h
    rw [plainForm, if_pos null] at form
    cases h
    exact .null form
  · by_cases unbounded : isUnbounded text = true
    · rw [plainForm, if_neg null, if_pos unbounded] at form
      rw [plainValue?_of_isUnbounded unbounded] at h
      cases h
      exact .unbounded form
    · rw [plainForm, if_neg null, if_neg unbounded] at form
      rw [plainValue?, if_neg null] at h
      exact .scalar form (isScalar_of_spelling (Bool.eq_false_iff.2 unbounded) h)

/-- The tags with a meaning of their own decide what a scalar is. -/
theorem reads_of_commonTag {tag : String}
    (form : d.form node = if tag = commonTag "null" then .null
      else if tag = commonTag "float" ∧ isUnbounded text then .unbounded
      else .scalar)
    (h : (if tag = commonTag "bool" then (bool? text).map .bool
      else if tag = commonTag "int" then (wholeValue? text).join
      else if tag = commonTag "float" then fraction? text
      else if tag = commonTag "null" then if isNull text then some .null else none
      else some (.string text)) = some value) : d.Reads node value := by
  by_cases null : tag = commonTag "null"
  · subst null
    rw [if_pos rfl] at form
    rw [if_neg (by decide), if_neg (by decide), if_neg (by decide), if_pos rfl] at h
    split at h
    · cases h
      exact .null form
    · cases h
  rw [if_neg null] at form h
  by_cases float : tag = commonTag "float"
  · subst float
    rw [if_neg (by decide), if_neg (by decide), if_pos rfl] at h
    by_cases unbounded : isUnbounded text = true
    · rw [if_pos ⟨rfl, unbounded⟩] at form
      rw [fraction?, if_pos unbounded] at h
      cases h
      exact .unbounded form
    · rw [if_neg fun both => unbounded both.2] at form
      exact .scalar form (isScalar_of_fraction? (Bool.eq_false_iff.2 unbounded) h)
  · rw [if_neg fun both => float both.1] at form
    rw [if_neg float] at h
    split at h
    · obtain ⟨b, -, rfl⟩ := Option.map_eq_some_iff.1 h
      exact .scalar form trivial
    · split at h
      · exact .scalar form (isScalar_of_wholeValue? (Option.join_eq_some_iff.1 h))
      · cases h
        exact .scalar form trivial

/-- A scalar is read by its tag, or else by its spelling. -/
theorem reads_of_scalarValue? {tag : Option String} {plain : Bool}
    (form : d.form node = scalarForm tag plain text)
    (h : scalarValue? tag plain text = some value) : d.Reads node value := by
  have untagged : d.form node = (if plain then plainForm text else .scalar) →
      (if plain then plainValue? text else some (.string text)) = some value →
        d.Reads node value := by
    intro form h
    cases plain with
    | true => exact reads_of_plainValue? form h
    | false =>
        cases h
        exact .scalar form trivial
  cases tag with
  | none => exact untagged form h
  | some tag =>
      unfold scalarForm at form
      unfold scalarValue? at h
      dsimp only at form h
      by_cases foreign : isLocalTag tag = true
      · rw [if_pos foreign] at h
        cases h
      rw [if_neg foreign] at form h
      by_cases unreadable : startsLocalTag tag = true
      · rw [if_pos unreadable] at form h
        exact untagged form h
      rw [if_neg unreadable] at form h
      exact reads_of_commonTag form h

-- ============================================================= values

section
variable {source : Source}

theorem resolve_of_gives_follow {node target : Node} (h : Gives (source.follow node) target) :
    source.resolve node = target := by
  cases node with
  | scalar => exact eq_of_gives_pure h
  | sequence => exact eq_of_gives_pure h
  | mapping => exact eq_of_gives_pure h
  | _ =>
      obtain ⟨count, -, h⟩ := exists_of_gives_bind h
      obtain ⟨-, -, h⟩ := exists_of_gives_bind h
      obtain ⟨-, -, h⟩ := exists_of_gives_bind h
      rw [Source.resolve, eq_some_of_gives_lift h]
      rfl

theorem text?_of_gives_key {node : Node} {text : String} (h : Gives (source.key node) text) :
    (source.resolve node).text? = some text := by
  obtain ⟨target, followed, h⟩ := exists_of_gives_bind h
  rw [resolve_of_gives_follow followed]
  cases target with
  | scalar properties plain own => exact congrArg some (eq_of_gives_pure h)
  | _ => exact absurd h not_gives_failure

end

section
variable {root node target : Node} {depth : Nat} {value : Value} {bindings : Entries}

/-- Pairs are read as bindings if their values are read. -/
theorem reads_of_gives_pairs (reads : ∀ {node : Node} {value : Value},
      Gives ((Source.ofRoot root).value depth node) value → root.document.Reads node value)
    (form : root.document.form node = .mapping)
    (h : Gives (((Source.ofRoot root).resolve node).pairs.mapM fun pair => do
      return (← (Source.ofRoot root).key pair.1, ← (Source.ofRoot root).value depth pair.2))
      bindings) : root.document.Reads node (.mapping (Entries.ofBindings bindings)) := by
  have bound : List.Forall₂ (SameKey root.document.Reads)
      ((Source.ofRoot root).entriesOf ((Source.ofRoot root).resolve node).pairs) bindings := by
    apply forall₂_keyed
    refine (forall₂_of_gives_mapM h).imp fun pair binding h => ?_
    obtain ⟨key, named, h⟩ := exists_of_gives_bind h
    obtain ⟨value, valued, h⟩ := exists_of_gives_bind h
    cases eq_of_gives_pure h
    exact ⟨text?_of_gives_key named, reads valued⟩
  exact .ofBindings form bound

/-- The value of a node is what it is read as. -/
theorem reads_of_gives_value (h : Gives ((Source.ofRoot root).value depth node) value) :
    root.document.Reads node value := by
  -- the depth matters only where a collection is entered, so the cases are on the node
  induction depth using Nat.strongRecOn generalizing node value with
  | ind depth ih =>
      rw [Source.value] at h
      obtain ⟨target, followed, h⟩ := exists_of_gives_bind h
      have resolved := resolve_of_gives_follow followed
      have form : root.document.form node = target.form := congrArg Node.form resolved
      cases target with
      | scalar properties plain text => exact reads_of_scalarValue? form (eq_some_of_gives_lift h)
      | sequence properties items =>
          have own : root.document.items node = items := congrArg Node.items resolved
          obtain ⟨-, -, h⟩ := exists_of_gives_bind h
          cases depth with
          | zero => exact absurd h not_gives_failure
          | succ depth =>
              obtain ⟨values, read, h⟩ := exists_of_gives_bind h
              cases eq_of_gives_pure h
              refine .sequence form ?_
              rw [own]
              exact (forall₂_of_gives_mapM read).imp fun _ _ => ih depth (Nat.lt_succ_self depth)
      | mapping properties pairs =>
          have own : ((Source.ofRoot root).resolve node).pairs = pairs :=
            congrArg Node.pairs resolved
          obtain ⟨-, -, h⟩ := exists_of_gives_bind h
          cases depth with
          | zero => exact absurd h not_gives_failure
          | succ depth =>
              obtain ⟨bindings, read, h⟩ := exists_of_gives_bind h
              cases eq_of_gives_pure h
              rw [← own] at read
              exact reads_of_gives_pairs (ih depth (Nat.lt_succ_self depth)) form read
      | _ => exact absurd h not_gives_failure

end

-- =========================================================== contents

theorem plainForm_ne_mapping (text : String) : plainForm text ≠ .mapping := by
  unfold plainForm
  split
  · simp
  · split <;> simp

theorem scalarForm_ne_mapping (tag : Option String) (plain : Bool) (text : String) :
    scalarForm tag plain text ≠ .mapping := by
  have untagged : (if plain then plainForm text else .scalar) ≠ .mapping := by
    split
    · exact plainForm_ne_mapping text
    · simp
  unfold scalarForm
  split
  · exact untagged
  · split
    · simp
    · split
      · exact untagged
      · split
        · simp
        · split <;> simp

section
variable {root node : Node} {entries : Entries}

/-- The contents of a node other than none are read off a mapping, or there is nothing written where
they should be. -/
theorem reads_of_gives_contents (h : Gives ((Source.ofRoot root).contents node) (some entries)) :
    (root.document.form node = .mapping ∧ root.document.Reads node (.mapping entries)) ∨
      (root.document.form node ≠ .mapping ∧ root.document.isBlank node = true ∧
        entries = []) := by
  rw [Source.contents] at h
  obtain ⟨target, followed, h⟩ := exists_of_gives_bind h
  have resolved := resolve_of_gives_follow followed
  have form : root.document.form node = target.form := congrArg Node.form resolved
  cases target with
  | mapping properties pairs =>
      have own : ((Source.ofRoot root).resolve node).pairs = pairs := congrArg Node.pairs resolved
      obtain ⟨bindings, read, h⟩ := exists_of_gives_bind h
      cases eq_of_gives_pure h
      rw [← own] at read
      exact .inl ⟨form, reads_of_gives_pairs reads_of_gives_value form read⟩
  | scalar properties plain text =>
      have blank : root.document.isBlank node = (plain && text.isEmpty) :=
        congrArg Node.isBlank resolved
      obtain ⟨nothing, -, h⟩ := exists_of_gives_bind h
      cases nothing with
      | true => cases eq_of_gives_pure h
      | false =>
          refine .inr ⟨?_, ?_⟩
          · rw [form]
            exact scalarForm_ne_mapping _ _ _
          · rw [blank]
            by_cases empty : (plain && text.isEmpty) = true
            · rw [if_neg Bool.false_ne_true, if_pos empty] at h
              cases eq_of_gives_pure h
              exact ⟨empty, rfl⟩
            · rw [if_neg Bool.false_ne_true, if_neg empty] at h
              exact absurd h not_gives_failure
  | _ => exact absurd h not_gives_failure

/-- The contents are those of the one pair with the key of the container; if contents have been
found already there is no such pair. -/
theorem exists_of_gives_contentsOfPairs {container : String} {found : Option (Option Entries)}
    {pairs : List (Node × Node)}
    (h : Gives ((Source.ofRoot root).contentsOfPairs container found pairs) (some entries)) :
    (found = some (some entries) ∧
      ((Source.ofRoot root).entriesOf pairs).filter (·.1 == container) = []) ∨
    (found = none ∧ ∃ node, Gives ((Source.ofRoot root).contents node) (some entries) ∧
      ((Source.ofRoot root).entriesOf pairs).filter (·.1 == container) = [(container, node)]) := by
  induction pairs generalizing found with
  | nil => exact .inl ⟨Option.join_eq_some_iff.1 (eq_of_gives_pure h), rfl⟩
  | cons pair rest ih =>
      rw [Source.contentsOfPairs] at h
      obtain ⟨name, named, h⟩ := exists_of_gives_bind h
      have front : (Source.ofRoot root).entriesOf (pair :: rest) =
          (name, pair.2) :: (Source.ofRoot root).entriesOf rest :=
        keyed_cons pair.2 rest (text?_of_gives_key named)
      rw [front, List.filter_cons]
      by_cases own : name = container
      · subst own
        rw [if_pos rfl] at h
        rw [if_pos (beq_self_eq_true name)]
        obtain ⟨_, fresh, h⟩ := exists_of_gives_bind h
        obtain ⟨contents, given, h⟩ := exists_of_gives_bind h
        obtain ⟨eq, none⟩ | ⟨eq, -⟩ := ih h
        · cases eq
          rw [none]
          cases found with
          | none => exact .inr ⟨rfl, pair.2, given, rfl⟩
          | some earlier => exact absurd fresh not_gives_failure
        · cases eq
      · rw [if_neg own] at h
        rw [if_neg (by simpa using own)]
        exact ih h

end

/-- The root of the document that a text is, if it has one. -/
def root? (text : String) : Option Node := (tokens? text).bind fun tokens => (document? tokens).join

/-- The entries of a YAML text are those of the mapping under the key of the container, unless
nothing is written there. -/
theorem lists_of_entries? {text : String} {entries : Entries}
    (h : entries? containerKey text = some (some entries)) :
    ∃ root, root? text = some root ∧ root.document.Lists .yaml entries := by
  obtain ⟨tokens, read, h⟩ := Option.bind_eq_some_iff.1 h
  obtain ⟨found, spelled, h⟩ := Option.bind_eq_some_iff.1 h
  cases found with
  | none => cases h
  | some root =>
      refine ⟨root, by rw [root?, read, Option.bind_some, spelled]; rfl, ?_⟩
      cases root with
      | mapping properties pairs =>
          obtain ⟨⟨contents, last⟩, ran, eq⟩ := Option.map_eq_some_iff.1 h
          cases eq
          have gives : Gives ((Source.ofRoot (.mapping properties pairs)).contentsOfPairs
              containerKey none pairs) (some entries) := ⟨0, last, ran⟩
          obtain ⟨eq, -⟩ | ⟨-, node, contents, only⟩ := exists_of_gives_contentsOfPairs gives
          · cases eq
          have bound : (Node.mapping properties pairs).document.get? (.mapping properties pairs)
              containerKey = some node := by
            show ((Source.ofRoot (.mapping properties pairs)).entriesOf pairs).reverse.lookup _ = _
            rw [lookup_eq_head?_filter, List.filter_reverse, only]
            rfl
          obtain ⟨form, read⟩ | ⟨form, blank, rfl⟩ := reads_of_gives_contents contents
          · exact .container rfl bound form read
          · exact .blank rfl bound form blank
      | scalar properties plain text =>
          dsimp only at h
          split at h
          · cases h
          · cases h
      | _ => cases h

end SchemaClasses.Yaml
