/-
Reading piece by piece, one piece at a time.

A piece is often all that a class of characters reaches to: it is read
off exactly if what follows begins with none of the class.
-/
import SchemaClasses.Text.Cut

namespace SchemaClasses.Text

variable {α σ : Type}

/-- What a piece reader makes of a text, without the proof that it took something off. -/
def cutAt (next : σ → (text : List α) → Option (Cut text σ)) (state : σ) (text : List α) :
    Option (σ × List α) :=
  (next state text).map fun cut => (cut.value, cut.rest)

/-- Reading goes on after the first piece. -/
theorem readPieces_of_cutAt {next : σ → (text : List α) → Option (Cut text σ)} {state later : σ}
    {a : α} {text rest : List α} (h : cutAt next state (a :: text) = some (later, rest)) :
    readPieces next state (a :: text) = readPieces next later rest := by
  obtain ⟨cut, found, eq⟩ := Option.map_eq_some_iff.1 h
  cases eq
  rw [readPieces, found]

/-- Reading fails where its first piece does. -/
theorem readPieces_of_cutAt_none {next : σ → (text : List α) → Option (Cut text σ)} {state : σ}
    {a : α} {text : List α} (h : cutAt next state (a :: text) = none) :
    readPieces next state (a :: text) = none := by
  rw [cutAt, Option.map_eq_none_iff] at h
  rw [readPieces, h]

/-- Reading goes on alike from states from which the first piece is read alike. -/
theorem readPieces_congr {next : σ → (text : List α) → Option (Cut text σ)} {state other : σ}
    {a : α} {text : List α} (h : cutAt next state (a :: text) = cutAt next other (a :: text)) :
    readPieces next state (a :: text) = readPieces next other (a :: text) := by
  cases read : cutAt next state (a :: text) with
  | none => rw [readPieces_of_cutAt_none read, readPieces_of_cutAt_none (h ▸ read)]
  | some found =>
      obtain ⟨later, rest⟩ := found
      rw [readPieces_of_cutAt read, readPieces_of_cutAt (h ▸ read)]

/-- A run of a class is read off the front of what does not go on with it. -/
theorem span_append {p : α → Bool} {front rest : List α} (inside : ∀ a ∈ front, p a = true)
    (stop : ∀ a ∈ rest.head?, p a = false) :
    (front ++ rest).takeWhile p = front ∧ (front ++ rest).dropWhile p = rest := by
  rw [List.takeWhile_append_of_pos inside, List.dropWhile_append_of_pos inside]
  cases rest with
  | nil => exact ⟨List.append_nil front, rfl⟩
  | cons a more =>
      have outside : ¬p a = true := Bool.eq_false_iff.1 (stop a rfl)
      rw [List.takeWhile_cons_of_neg outside, List.dropWhile_cons_of_neg outside]
      exact ⟨List.append_nil front, rfl⟩

end SchemaClasses.Text
