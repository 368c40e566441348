/-
Cutting a text at a separator.

A package name is cut at its dots and a path at its slashes. Every
separator cuts, also one at an end or beside another, so there is always
one piece more than there are separators.
-/

namespace SchemaClasses.Text

/-- The pieces of `text` between the separators, in order. -/
def pieces (separator : Char) : List Char → List (List Char)
  | [] => [[]]
  | c :: rest =>
    if c = separator then [] :: pieces separator rest
    else
      match pieces separator rest with
      | piece :: others => (c :: piece) :: others
      | [] => [[c]]

theorem pieces_ne_nil (separator : Char) (text : List Char) : pieces separator text ≠ [] := by
  cases text with
  | nil => simp [pieces]
  | cons c rest =>
    unfold pieces
    split
    · simp
    · split <;> simp

end SchemaClasses.Text
