/-
Every schema tree has a JSON document.

What is said of all documents of a tree would say little if some trees
had none. Here every string is spelled by the numbers of its code units,
and no blanks are used.
-/
import SchemaClasses.Proofs.Json.Spelling

namespace SchemaClasses.Json

variable {α : Type} {spells : List Char → α → Prop}

theorem isGap_nil : IsGap [] := by
  intro c mem
  cases mem

-- =========================================================== strings

theorem exists_spellsUnit {unit : Nat} (small : unit < 0x10000) : ∃ text, SpellsUnit text unit := by
  obtain ⟨digits, length, all, number⟩ := Text.exists_hexDigits 4 small
  obtain ⟨a, b, c, d, rfl⟩ : ∃ a b c d, digits = [a, b, c, d] := by
    match digits, length with
    | [a, b, c, d], _ => exact ⟨a, b, c, d, rfl⟩
  refine ⟨_, .escape (Text.natural?_of_all (by simp) all ▸ congrArg some number)⟩

theorem exists_spellsChar (c : Char) : ∃ text, SpellsChar text c := by
  have small : ∀ unit ∈ Lexical.charUnits c, unit < 0x10000 := by
    have last := Text.toNat_lt c
    intro unit mem
    unfold Lexical.charUnits at mem
    split at mem
    · rwa [List.mem_singleton.1 mem]
    · rw [List.mem_cons, List.mem_singleton] at mem
      omega
  obtain ⟨text, row⟩ := Text.SpellsRow.exists_of_forall fun unit mem =>
    exists_spellsUnit (small unit mem)
  exact ⟨text, .units row⟩

theorem exists_spellsString (s : String) : ∃ text, SpellsString text s := by
  obtain ⟨inside, row⟩ := Text.SpellsRow.exists_of_forall fun c (_ : c ∈ s.toList) =>
    exists_spellsChar c
  exact ⟨_, .quoted row⟩

/-- A string without a character that needs an escape stands as it is. -/
theorem spellsString_of_all {s : String}
    (h : s.toList.all (fun c => 0x20 ≤ c.toNat && c != '"' && c != '\\') = true) :
    SpellsString ('"' :: s.toList ++ ['"']) s := by
  refine .quoted (.of_forall fun c mem => ?_)
  have allowed := List.all_eq_true.1 h c mem
  simp only [Bool.and_eq_true, decide_eq_true_eq, bne_iff_ne] at allowed
  exact .plain allowed.1.1 allowed.1.2 allowed.2

-- ============================================================= values

theorem exists_spellsLeaf (leaf : Leaf) : ∃ text, SpellsLeaf text leaf := by
  cases leaf with
  | text s =>
      obtain ⟨text, string⟩ := exists_spellsString s
      exact ⟨text, .text string⟩
  | whole n least greatest => exact ⟨_, .whole least greatest⟩
  | bool b =>
      cases b with
      | true => exact ⟨_, .true⟩
      | false => exact ⟨_, .false⟩

theorem exists_spellsMember (h : ∀ a, ∃ text, spells text a) (entry : String × α) :
    ∃ text, SpellsMember spells text entry := by
  obtain ⟨key, a⟩ := entry
  obtain ⟨name, hname⟩ := exists_spellsString key
  obtain ⟨value, hvalue⟩ := h a
  exact ⟨_, .intro isGap_nil hname isGap_nil isGap_nil hvalue isGap_nil⟩

/-- Entries are spelled by an object if what is bound to their keys is spelled. -/
theorem exists_spellsObject (h : ∀ a, ∃ text, spells text a) (entries : List (String × α)) :
    ∃ text, SpellsObject spells text entries := by
  cases entries with
  | nil => exact ⟨_, .empty isGap_nil⟩
  | cons entry more =>
      obtain ⟨inside, row⟩ : ∃ inside, SpellsMembers spells inside (entry :: more) := by
        induction more generalizing entry with
        | nil =>
            obtain ⟨text, member⟩ := exists_spellsMember h entry
            exact ⟨text, .single member⟩
        | cons next more ih =>
            obtain ⟨text, member⟩ := exists_spellsMember h entry
            obtain ⟨rest, others⟩ := ih next
            exact ⟨_, .cons member others⟩
      exact ⟨_, .members row⟩

theorem exists_spellsTree (tree : SchemaTree) : ∃ text, SpellsTree text tree := by
  have column (column : Column) : ∃ text, SpellsColumn text column :=
    exists_spellsObject exists_spellsLeaf column.entries
  have definition (definition : Definition) : ∃ text, SpellsDefinition text definition :=
    exists_spellsObject column definition.entries
  exact exists_spellsObject definition tree.entries

/-- Every schema tree has a JSON document. -/
theorem exists_spells (tree : SchemaTree) : ∃ text, Spells text tree := by
  obtain ⟨text, root⟩ := exists_spellsObject exists_spellsTree [(containerKey, tree)]
  exact ⟨_, .document isGap_nil root isGap_nil⟩

end SchemaClasses.Json
