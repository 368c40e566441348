/-
Reading a text from the front, piece by piece.

A piece reader takes something off the front and hands back the rest.
Where the rest is always shorter, the reader can be repeated until
nothing is left: that is the one loop all tokens of this library are
read by, and why it ends.
-/

namespace SchemaClasses.Text

/-- What was read off the front of a text, with the rest, which is shorter. -/
structure Cut {α : Type} (text : List α) (β : Type) where
  value : β
  rest : List α
  shorter : rest.length < text.length

/-- Reads pieces until the text is used up; each piece turns one state into the next. -/
def readPieces {α σ : Type} (next : σ → (text : List α) → Option (Cut text σ))
    (state : σ) (text : List α) : Option σ :=
  match text with
  | [] => some state
  | c :: rest =>
    match next state (c :: rest) with
    | none => none
    | some cut => readPieces next cut.value cut.rest
termination_by text.length
decreasing_by exact cut.shorter

/-- Skipping makes a text no longer. -/
theorem length_dropWhile_le {α : Type} (p : α → Bool) (text : List α) :
    (text.dropWhile p).length ≤ text.length :=
  (List.dropWhile_suffix p).length_le

/-- Skipping something makes a text shorter. -/
theorem length_dropWhile_lt {α : Type} {p : α → Bool} {text : List α}
    (h : (text.takeWhile p).isEmpty = false) : (text.dropWhile p).length < text.length := by
  have sum : (text.takeWhile p).length + (text.dropWhile p).length = text.length := by
    rw [← List.length_append, List.takeWhile_append_dropWhile]
  have := List.length_pos_iff.2 (List.isEmpty_eq_false_iff.1 h)
  omega

/-- Dropping makes a text no longer. -/
theorem length_drop_le {α : Type} (n : Nat) (text : List α) : (text.drop n).length ≤ text.length :=
  (List.drop_suffix n text).length_le

end SchemaClasses.Text
