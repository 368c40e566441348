/-
Every schema tree has a TOML document.

One assignment is enough: of an inline table to the container's key. In
it every string is spelled by the numbers of its characters, and whole
numbers are spelled by their decimal digits.
-/
import SchemaClasses.Proofs.Text.Digits
import SchemaClasses.Proofs.Text.Pieces
import SchemaClasses.Proofs.Toml.Spelling

namespace SchemaClasses.Toml

open Text (decimal)

variable {α : Type}

theorem isGap_nil : IsGap [] := by
  intro c mem
  cases mem

-- =========================================================== strings

theorem exists_spellsString (s : String) : ∃ text, SpellsString text s := by
  have char : ∀ c ∈ s.toList, ∃ text, SpellsChar text c := by
    intro c _
    obtain ⟨digits, number⟩ := Text.exists_charOfDigits c
    have length : hexLength 'U' = 7 + 1 := rfl
    exact ⟨_, .numbered length number⟩
  obtain ⟨inside, row⟩ := Text.SpellsRow.exists_of_forall char
  exact ⟨_, .basic row⟩

/-- A key of letters and digits stands as it is. -/
theorem spellsKey_of_all {key : String} (nonempty : key.toList ≠ [])
    (h : key.toList.all isKeyChar = true) : SpellsKey key.toList key :=
  .bare nonempty (List.all_eq_true.1 h)

-- =========================================================== numbers

theorem digits?_toDigits (n : Nat) : digits? 10 (Nat.toDigits 10 n) = some (Nat.toDigits 10 n) := by
  have noUnderscore : '_' ∉ Nat.toDigits 10 n := fun mem =>
    absurd (Text.isDigit_of_mem_toDigits mem) (by decide)
  have nonempty : (Nat.toDigits 10 n).isEmpty = false :=
    List.isEmpty_eq_false_iff.2 Nat.toDigits_ne_nil
  rw [digits?, Text.pieces_of_notMem noUnderscore]
  simp [nonempty, Text.all_toDigits n]

theorem whole?_decimal (n : Int) : whole? (decimal n) = some n := by
  have unpadded : unpadded? (Nat.toDigits 10 n.natAbs) = some (Nat.toDigits 10 n.natAbs) := by
    rw [unpadded?, digits?_toDigits]
    exact if_pos (Text.length_toDigits_eq_one_or n.natAbs)
  rw [whole?, Text.readSign_decimal]
  show (unpadded? (Nat.toDigits 10 n.natAbs)).bind _ = _
  rw [unpadded, Option.bind_some, Text.ofDigits_toDigits]
  exact congrArg some (Text.sign_natAbs n)

/-- No letter announces another base. -/
theorem basedWhole?_decimal (n : Int) : basedWhole? (decimal n) = none := by
  unfold basedWhole?
  split
  next eq => exact absurd eq (Text.decimal_ne rfl n)
  next eq => exact absurd eq (Text.decimal_ne rfl n)
  next eq => exact absurd eq (Text.decimal_ne rfl n)
  next => rfl

theorem isUnbounded_decimal (n : Int) : isUnbounded (decimal n) = false := by
  have letters : ∀ s ∈ ["inf", "+inf", "-inf", "nan", "+nan", "-nan"],
      s.toList.any (fun c => !c.isDigit && c != '-') = true := List.all_eq_true.1 (by decide)
  rw [isUnbounded, Bool.eq_false_iff, ne_eq, List.contains_iff_mem]
  intro mem
  refine Text.decimal_ne (letters _ mem) n ?_
  rw [String.toList_ofList]

theorem scalar?_decimal (n : Int) : scalar? (decimal n) = some (.whole n) := by
  rw [scalar?, if_neg (Text.decimal_ne rfl n), if_neg (Text.decimal_ne rfl n),
    isUnbounded_decimal, if_neg Bool.false_ne_true, basedWhole?_decimal, whole?_decimal]
  rfl

/-- Letters, digits and minuses can stand in a text without quotes. -/
theorem standsBare {c : Char} (h : c.isAlphanum = true ∨ c = '-') :
    endsBare c = false ∧ c ≠ '"' ∧ c ≠ '\'' := by
  have signs : ['"', '\'', ' ', '\t', '\n', '\r', '#', '=', ',', '[', ']', '{', '}'].all
      (fun sign => !sign.isAlphanum && sign != '-') = true := by decide
  have other : c ∉ ['"', '\'', ' ', '\t', '\n', '\r', '#', '=', ',', '[', ']', '{', '}'] := by
    intro mem
    have own := List.all_eq_true.1 signs c mem
    rcases h with letter | rfl
    · rw [letter] at own
      cases own
    · cases own
  rw [List.mem_cons, List.mem_cons, not_or, not_or] at other
  refine ⟨?_, other.1, other.2.1⟩
  rw [endsBare, Bool.eq_false_iff, ne_eq, List.contains_iff_mem]
  exact other.2.2

-- ============================================================= values

theorem exists_spellsScalar (leaf : Leaf) : ∃ text, SpellsScalar text (Leaf.scalar leaf) := by
  cases leaf with
  | text s =>
      obtain ⟨text, string⟩ := exists_spellsString s
      exact ⟨text, .string string⟩
  | whole n _ _ =>
      refine ⟨_, .bare (Text.decimal_ne_nil n) (fun c mem => standsBare ?_) (scalar?_decimal n)⟩
      refine (Text.mem_decimal mem).imp_left fun digit => ?_
      rw [Char.isAlphanum, digit, Bool.or_true]
  | bool b =>
      have letters : ∀ {text : List Char}, text.all Char.isAlphanum = true →
          ∀ c ∈ text, endsBare c = false ∧ c ≠ '"' ∧ c ≠ '\'' :=
        fun all c mem => standsBare (.inl (List.all_eq_true.1 all c mem))
      cases b with
      | true => exact ⟨"true".toList, .bare (by decide) (letters (by decide)) rfl⟩
      | false => exact ⟨"false".toList, .bare (by decide) (letters (by decide)) rfl⟩

/-- Entries are spelled between braces if what is bound to their keys is spelled. -/
theorem exists_spellsTable {states : α → Assignments → Prop} {depth : Nat}
    (h : ∀ a, ∃ text term, SpellsTerm depth text term ∧ states a [([], term)])
    (entries : List (String × α)) :
    ∃ text inside, SpellsTerm (depth + 1) text (.table inside) ∧ StatesKeys states entries inside := by
  have assign : ∀ entry : String × α, ∃ text term,
      SpellsAssignment (SpellsTerm depth) text ([entry.1], term) ∧ states entry.2 [([], term)] := by
    rintro ⟨key, a⟩
    obtain ⟨target, string⟩ := exists_spellsString key
    obtain ⟨text, term, spelled, stated⟩ := h a
    exact ⟨_, term, .intro (.single (.quoted string) isGap_nil) (Nat.le_add_left 1 3) isGap_nil spelled,
      stated⟩
  cases entries with
  | nil => exact ⟨_, [], .inr ⟨[], [], rfl, rfl, .inl ⟨isGap_nil, rfl⟩⟩, .nil⟩
  | cons entry more =>
      obtain ⟨inside, assignments, spelled, stated⟩ : ∃ inside assignments,
          SpellsInside (SpellsTerm depth) inside assignments ∧
            StatesKeys states (entry :: more) assignments := by
        induction more generalizing entry with
        | nil =>
            obtain ⟨text, term, own, stated⟩ := assign entry
            exact ⟨_, _, .single isGap_nil own isGap_nil, .cons stated .nil⟩
        | cons next more ih =>
            obtain ⟨text, term, own, stated⟩ := assign entry
            obtain ⟨rest, assignments, others, statedOthers⟩ := ih next
            exact ⟨_, _, .cons isGap_nil own isGap_nil others, .cons stated statedOthers⟩
      exact ⟨_, assignments, .inr ⟨inside, assignments, rfl, rfl, .inr spelled⟩, stated⟩

/-- A mapping can be one section, its own. -/
theorem Sectioned.whole {states : α → Assignments → Prop} {sectioned : α → List Part → Prop}
    {entries : List (String × α)} {assignments : Assignments}
    (assigned : StatesKeys states entries assignments) :
    Sectioned states sectioned entries [([], assignments)] := by
  have own : Sectioned states sectioned (entries ++ []) [([], assignments)] := .own assigned .nil
  rwa [List.append_nil] at own

theorem exists_spellsTree (tree : SchemaTree) :
    ∃ text term, SpellsTerm 3 text term ∧ StatesTree tree [([], term)] := by
  have leaf (leaf : Leaf) : ∃ text term, SpellsTerm 0 text term ∧ StatesLeaf leaf [([], term)] := by
    obtain ⟨text, scalar⟩ := exists_spellsScalar leaf
    exact ⟨text, _, ⟨_, rfl, scalar⟩, rfl⟩
  have column (column : Column) :
      ∃ text term, SpellsTerm 1 text term ∧ StatesColumn column [([], term)] := by
    obtain ⟨text, inside, spelled, stated⟩ := exists_spellsTable leaf column.entries
    exact ⟨text, _, spelled, .inline stated⟩
  have definition (definition : Definition) :
      ∃ text term, SpellsTerm 2 text term ∧ StatesDefinition definition [([], term)] := by
    obtain ⟨text, inside, spelled, stated⟩ := exists_spellsTable column definition.entries
    exact ⟨text, _, spelled, .inline stated⟩
  obtain ⟨text, inside, spelled, stated⟩ := exists_spellsTable definition tree.entries
  exact ⟨text, _, spelled, .inline stated⟩

/-- Every schema tree has a TOML document. -/
theorem exists_spells (tree : SchemaTree) : ∃ text, Spells text tree := by
  obtain ⟨text, term, spelled, stated⟩ := exists_spellsTree tree
  obtain ⟨target, string⟩ := exists_spellsString containerKey
  have line : SpellsLine _ [.assignment [containerKey] term] := .statement isGap_nil
    (.assignment (.intro (.single (.quoted string) isGap_nil) (by decide) isGap_nil spelled))
    isGap_nil .none
  exact ⟨_, .document (.last line) (.assigned stated)⟩

end SchemaClasses.Toml
