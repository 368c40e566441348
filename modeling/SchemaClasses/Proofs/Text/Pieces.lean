/-
What cutting a text at a separator gives back.

The pieces of a text are what stands between its separators, so they
hold no separator, all else of the text is in one of them, and a text
that is put together from pieces without separators is cut into just
these pieces.
-/
import SchemaClasses.Text.Pieces

namespace SchemaClasses.Text

variable {separator : Char}

-- =================================================== putting together

/-- A text without a separator is its only piece. -/
theorem pieces_of_notMem {text : List Char} (h : separator ∉ text) :
    pieces separator text = [text] := by
  induction text with
  | nil => rfl
  | cons c rest ih =>
      have hc : c ≠ separator := fun eq => h (eq ▸ List.mem_cons_self)
      have hrest : separator ∉ rest := fun mem => h (List.mem_cons_of_mem c mem)
      rw [pieces, if_neg hc, ih hrest]

/-- What stands before the first separator is the first piece. -/
theorem pieces_append_cons {piece rest : List Char} (h : separator ∉ piece) :
    pieces separator (piece ++ separator :: rest) = piece :: pieces separator rest := by
  induction piece with
  | nil => rw [List.nil_append, pieces, if_pos rfl]
  | cons c more ih =>
      have hc : c ≠ separator := fun eq => h (eq ▸ List.mem_cons_self)
      have hmore : separator ∉ more := fun mem => h (List.mem_cons_of_mem c mem)
      rw [List.cons_append, pieces, if_neg hc, ih hmore]

/-- Pieces that each end with the separator are what the text is cut into, an empty one after
them. -/
theorem pieces_flatMap_append {lines : List (List Char)}
    (h : ∀ line ∈ lines, separator ∉ line) :
    pieces separator (lines.flatMap (· ++ [separator])) = lines ++ [[]] := by
  induction lines with
  | nil => rfl
  | cons line rest ih =>
      have hline : separator ∉ line := h line List.mem_cons_self
      have hrest : ∀ line ∈ rest, separator ∉ line :=
        fun other mem => h other (List.mem_cons_of_mem line mem)
      rw [List.flatMap_cons, List.append_assoc, List.singleton_append,
        pieces_append_cons hline, ih hrest, List.cons_append]

/-- A separator ends the last piece before it and begins the first one after it. -/
theorem pieces_append_separator (front rest : List Char) :
    pieces separator (front ++ separator :: rest) =
      pieces separator front ++ pieces separator rest := by
  induction front with
  | nil => simp [pieces]
  | cons c more ih =>
      rw [List.cons_append]
      by_cases hc : c = separator
      · rw [pieces, if_pos hc, ih, pieces, if_pos hc, List.cons_append]
      · rw [pieces, if_neg hc, ih, pieces, if_neg hc]
        cases found : pieces separator more with
        | nil => exact absurd found (pieces_ne_nil separator more)
        | cons first others => rfl

/-- Pieces with a separator between each two are what the text is cut into. -/
theorem pieces_intercalate {lines : List (List Char)} (nonempty : lines ≠ [])
    (h : ∀ line ∈ lines, separator ∉ line) :
    pieces separator ([separator].intercalate lines) = lines := by
  induction lines with
  | nil => exact absurd rfl nonempty
  | cons line rest ih =>
      have hline : separator ∉ line := h line List.mem_cons_self
      cases rest with
      | nil =>
          rw [List.intercalate_singleton]
          exact pieces_of_notMem hline
      | cons next others =>
          have hrest : ∀ line ∈ next :: others, separator ∉ line :=
            fun other mem => h other (List.mem_cons_of_mem line mem)
          rw [List.intercalate_cons_cons, List.append_assoc, List.singleton_append,
            pieces_append_cons hline, ih (List.cons_ne_nil next others) hrest]

-- ======================================================= taking apart

/-- Cutting a text is splitting the list of its characters. -/
theorem pieces_eq_splitOn (separator : Char) (text : List Char) :
    pieces separator text = text.splitOn separator := by
  induction text with
  | nil => rfl
  | cons c rest ih =>
      have step : (c :: rest).splitOn separator =
          if c = separator then [] :: rest.splitOn separator
          else (rest.splitOn separator).modifyHead (c :: ·) := by
        unfold List.splitOn
        rw [List.splitOnP_cons_eq_if_modifyHead]
        simp only [beq_iff_eq]
      rw [pieces, ih, step]
      by_cases here : c = separator
      · rw [if_pos here, if_pos here]
      · rw [if_neg here, if_neg here]
        cases split : rest.splitOn separator with
        | nil => exact absurd split (ih ▸ pieces_ne_nil separator rest)
        | cons first others => rfl

/-- A text is its pieces with a separator between each two. -/
theorem intercalate_pieces (separator : Char) (text : List Char) :
    [separator].intercalate (pieces separator text) = text := by
  rw [pieces_eq_splitOn, List.intercalate_splitOn]

/-- A text is its pieces, with a separator in front of each but the first. -/
theorem eq_of_pieces {text first : List Char} {others : List (List Char)}
    (h : pieces separator text = first :: others) :
    text = first ++ others.flatMap (separator :: ·) := by
  induction text generalizing first others with
  | nil =>
      cases h
      rfl
  | cons c rest ih =>
      by_cases hc : c = separator
      · rw [pieces, if_pos hc] at h
        obtain ⟨rfl, rfl⟩ := List.cons.inj h
        cases found : pieces separator rest with
        | nil => exact absurd found (pieces_ne_nil separator rest)
        | cons next others => rw [ih found, hc]; rfl
      · rw [pieces, if_neg hc] at h
        cases found : pieces separator rest with
        | nil => exact absurd found (pieces_ne_nil separator rest)
        | cons next others =>
            rw [found] at h
            obtain ⟨rfl, rfl⟩ := List.cons.inj h
            rw [ih found]
            rfl

/-- No piece holds a separator. -/
theorem notMem_of_mem_pieces {text : List Char} :
    ∀ piece ∈ pieces separator text, separator ∉ piece := by
  induction text with
  | nil =>
      intro piece mem
      rw [List.mem_singleton.1 mem]
      exact List.not_mem_nil
  | cons c rest ih =>
      intro piece mem
      unfold pieces at mem
      by_cases hc : c = separator
      · rw [if_pos hc] at mem
        rcases List.mem_cons.1 mem with rfl | later
        · exact List.not_mem_nil
        · exact ih piece later
      · rw [if_neg hc] at mem
        cases found : pieces separator rest with
        | nil => exact absurd found (pieces_ne_nil separator rest)
        | cons first others =>
            rw [found] at mem ih
            rcases List.mem_cons.1 mem with rfl | later
            · rw [List.mem_cons, not_or]
              exact ⟨Ne.symm hc, ih first List.mem_cons_self⟩
            · exact ih piece (List.mem_cons_of_mem first later)

/-- Every character of a text is a separator or in a piece. -/
theorem eq_or_mem_of_mem {text : List Char} {c : Char} (h : c ∈ text) :
    c = separator ∨ ∃ piece ∈ pieces separator text, c ∈ piece := by
  induction text with
  | nil => cases h
  | cons d rest ih =>
      by_cases hd : d = separator
      · rw [pieces, if_pos hd]
        rcases List.mem_cons.1 h with rfl | mem
        · exact Or.inl hd
        · rcases ih mem with eq | ⟨piece, hpiece, hc⟩
          · exact Or.inl eq
          · exact Or.inr ⟨piece, List.mem_cons_of_mem _ hpiece, hc⟩
      · rw [pieces, if_neg hd]
        cases found : pieces separator rest with
        | nil => exact absurd found (pieces_ne_nil separator rest)
        | cons first others =>
            rw [found] at ih
            rcases List.mem_cons.1 h with rfl | mem
            · exact Or.inr ⟨c :: first, List.mem_cons_self, List.mem_cons_self⟩
            · rcases ih mem with eq | ⟨piece, hpiece, hc⟩
              · exact Or.inl eq
              · rcases List.mem_cons.1 hpiece with rfl | later
                · exact Or.inr ⟨d :: piece, List.mem_cons_self, List.mem_cons_of_mem d hc⟩
                · exact Or.inr ⟨piece, List.mem_cons_of_mem _ later, hc⟩

end SchemaClasses.Text
