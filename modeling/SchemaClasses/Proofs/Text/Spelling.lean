/-
Spellings one after another.

A spelling says which texts may stand for a thing. The things of a list
are spelled by texts for each of them in a row.
-/

namespace SchemaClasses.Text

/-- The texts that spell the things of a list one after another. -/
inductive SpellsRow {α : Type} (spells : List Char → α → Prop) : List Char → List α → Prop
  | nil : SpellsRow spells [] []
  | cons {text rest : List Char} {a : α} {more : List α} (first : spells text a)
      (others : SpellsRow spells rest more) : SpellsRow spells (text ++ rest) (a :: more)

/-- Every list is spelled by some text if every thing is. -/
theorem SpellsRow.exists_of_forall {α : Type} {spells : List Char → α → Prop} {things : List α}
    (h : ∀ a ∈ things, ∃ text, spells text a) : ∃ text, SpellsRow spells text things := by
  induction things with
  | nil => exact ⟨[], .nil⟩
  | cons a more ih =>
      obtain ⟨text, first⟩ := h a List.mem_cons_self
      obtain ⟨rest, others⟩ := ih fun b mem => h b (List.mem_cons_of_mem a mem)
      exact ⟨text ++ rest, .cons first others⟩

/-- A text in which every character spells itself is spelled by itself. -/
theorem SpellsRow.of_forall {spells : List Char → Char → Prop} {text : List Char}
    (h : ∀ c ∈ text, spells [c] c) : SpellsRow spells text text := by
  induction text with
  | nil => exact .nil
  | cons c more ih =>
      exact .cons (h c List.mem_cons_self) (ih fun d mem => h d (List.mem_cons_of_mem c mem))

end SchemaClasses.Text
