/-
Block scalars: indented lines after a `|` or `>`.

A header tells what becomes of the breaks at the end and, if wanted, how
far the lines are indented; otherwise the first line with text decides,
or a longer empty line before it. The scalar goes on as long as lines
start exactly at the indentation. After `|` lines stay lines, after `>`
a break between two lines that start with no blank is folded.
-/
import SchemaClasses.Yaml.Plain

namespace SchemaClasses.Yaml

/-- What becomes of the breaks at the end: all go, the first stays, all stay. -/
inductive Chomping where
  | strip
  | clip
  | keep
deriving DecidableEq

/-- What a header says. -/
structure BlockHeader where
  chomping : Chomping
  /-- How much further than their surroundings the lines are indented. -/
  step : Option Nat

-- ============================================================== header

def chomping? (c : Char) : Option Chomping :=
  if c = '+' then some .keep else if c = '-' then some .strip else none

/-- The digits from one to nine. -/
def step? (c : Char) : Option Nat :=
  if '1' ≤ c ∧ c ≤ '9' then some (c.toNat - '0'.toNat) else none

/-- The marks of a header, in either order, each at most once. -/
def headerMarks : List Glyph → BlockHeader × List Glyph
  | [] => (⟨.clip, none⟩, [])
  | g :: rest =>
    match chomping? g.char, step? g.char with
    | some chomping, _ =>
      match rest with
      | d :: rest' =>
        match step? d.char with
        | some step => (⟨chomping, some step⟩, rest')
        | none => (⟨chomping, none⟩, rest)
      | [] => (⟨chomping, none⟩, [])
    | none, some step =>
      match rest with
      | c :: rest' =>
        match chomping? c.char with
        | some chomping => (⟨chomping, some step⟩, rest')
        | none => (⟨.clip, some step⟩, rest)
      | [] => (⟨.clip, some step⟩, [])
    | none, none => (⟨.clip, none⟩, g :: rest)

/-- Marks are read off the front. -/
theorem length_headerMarks_le (text : List Glyph) : (headerMarks text).2.length ≤ text.length := by
  unfold headerMarks
  repeat' split
  all_goals simp only [List.length_cons, List.length_nil]; omega

/-- The text from the next line end on. -/
def toLineEnd (text : List Glyph) : List Glyph := text.dropWhile fun g => !isBreak g.char

theorem length_toLineEnd_le (text : List Glyph) : (toLineEnd text).length ≤ text.length :=
  Text.length_dropWhile_le _ _

/-- With the break that ends it, a line has at least one character. -/
theorem length_drop_toLineEnd_lt (g : Glyph) (rest : List Glyph) :
    ((toLineEnd (g :: rest)).drop 1).length < (g :: rest).length := by
  have := length_toLineEnd_le (g :: rest)
  rw [List.length_drop]
  simp only [List.length_cons] at *; omega

def skipBlanks (text : List Glyph) : List Glyph := text.dropWhile fun g => isBlank g.char

theorem length_skipBlanks_le (text : List Glyph) : (skipBlanks text).length ≤ text.length :=
  Text.length_dropWhile_le _ _

/-- What follows a comment, if there is one. -/
def skipComment (text : List Glyph) : List Glyph :=
  if nextIs '#' text then toLineEnd text else text

theorem length_skipComment_le (text : List Glyph) : (skipComment text).length ≤ text.length := by
  unfold skipComment
  split
  · exact length_toLineEnd_le text
  · exact Nat.le_refl _

/-- What follows blanks and a comment, if that is the end of the line. -/
def restOfLine? (text : List Glyph) : Option (List Glyph) :=
  let text := skipComment (skipBlanks text)
  if endsLine text then some (text.drop 1) else none

theorem length_restOfLine_le {text rest : List Glyph} (h : restOfLine? text = some rest) :
    rest.length ≤ text.length := by
  have := length_skipComment_le (skipBlanks text)
  have := length_skipBlanks_le text
  simp only [restOfLine?, Option.ite_none_right_eq_some, Option.some.injEq] at h
  rw [← h.2, List.length_drop]
  omega

/-- A header, and the lines after it. -/
def readHeader (text : List Glyph) : Option (BlockHeader × List Glyph) :=
  (restOfLine? (headerMarks text).2).map ((headerMarks text).1, ·)

theorem length_readHeader_le {text rest : List Glyph} {header : BlockHeader}
    (h : readHeader text = some (header, rest)) : rest.length ≤ text.length := by
  obtain ⟨lines, read, eq⟩ := Option.map_eq_some_iff.1 h
  cases eq
  exact Nat.le_trans (length_restOfLine_le read) (length_headerMarks_le text)

-- =============================================================== lines

/-- Empty lines, and what follows them. -/
structure EmptyLines where
  breaks : List Char
  /-- How far the furthest of them reaches, or else the text that ends them. -/
  widest : Nat
  rest : List Glyph

/-- The glyph lies in the indentation, as far as it is known. -/
def isIndentation (column : Option Nat) (g : Glyph) : Bool :=
  match column with
  | none => true
  | some column => g.column < column

/--
Empty lines, and the indentation of the line after them. Spaces are passed over up to the column, or
all of them if it is not known yet; a tab among them is refused.
-/
def emptyLines (column : Option Nat) (text : List Glyph) : Option EmptyLines :=
  match line : text.dropWhile fun g => g.char == ' ' && isIndentation column g with
  | [] => some ⟨[], 0, []⟩
  | g :: rest =>
    if g.char = '\t' ∧ isIndentation column g then none
    else if isBreak g.char then
      have : rest.length < text.length := by
        have := Text.length_dropWhile_le (fun g => g.char == ' ' && isIndentation column g) text
        rw [line, List.length_cons] at this
        omega
      (emptyLines column rest).map fun more =>
        { more with breaks := g.char :: more.breaks, widest := max g.column more.widest }
    else some ⟨[], g.column, g :: rest⟩
termination_by text.length

theorem length_emptyLines_le {column : Option Nat} {text : List Glyph} {gap : EmptyLines}
    (h : emptyLines column text = some gap) : gap.rest.length ≤ text.length := by
  fun_induction emptyLines column text generalizing gap with
  | case1 =>
    cases h
    exact Nat.zero_le _
  | case2 => cases h
  | case3 =>
    rename_i shorter ih
    obtain ⟨more, read, rfl⟩ := Option.map_eq_some_iff.1 h
    have : more.rest.length ≤ _ := ih read
    exact Nat.le_trans this (Nat.le_of_lt shorter)
  | case4 _ _ _ line =>
    cases h
    exact line ▸ Text.length_dropWhile_le _ _

/-- A line with text. -/
structure BlockLine where
  text : List Char
  /-- The break that ends it, unless the whole text ends. -/
  ending : Option Char
  /-- The breaks of the empty lines after it. -/
  gap : List Char

/-- The lines that start at a column, and what follows them. -/
def blockLines (column : Nat) (text : List Glyph) : Option (List BlockLine × List Glyph) :=
  match text with
  | [] => some ([], [])
  | g :: others =>
    if g.column ≠ column then some ([], g :: others)
    else
      let line := (g :: others).takeWhile fun g => !isBreak g.char
      let after := toLineEnd (g :: others)
      match empty : emptyLines (some column) ((toLineEnd (g :: others)).drop 1) with
      | none => none
      | some gap =>
        have : gap.rest.length < (g :: others).length :=
          Nat.lt_of_le_of_lt (length_emptyLines_le empty) (length_drop_toLineEnd_lt g others)
        (blockLines column gap.rest).map fun (more, rest) =>
          (⟨chars line, after.head?.map (·.char), gap.breaks⟩ :: more, rest)
termination_by text.length
decreasing_by assumption

theorem length_blockLines_le {column : Nat} {text rest : List Glyph} {lines : List BlockLine}
    (h : blockLines column text = some (lines, rest)) : rest.length ≤ text.length := by
  fun_induction blockLines column text generalizing lines rest with
  | case1 =>
    cases h
    exact Nat.le_refl _
  | case2 =>
    cases h
    exact Nat.le_refl _
  | case3 => cases h
  | case4 =>
    rename_i shorter ih
    obtain ⟨_, read, eq⟩ := Option.map_eq_some_iff.1 h
    cases eq
    exact Nat.le_trans (ih read) (Nat.le_of_lt shorter)

/-- The line starts with a blank. -/
def BlockLine.startsBlank (line : BlockLine) : Bool :=
  match line.text with
  | [] => false
  | c :: _ => isBlank c

/-- The breaks between a line and the next. -/
def breaksBetween (folded : Bool) (line next : BlockLine) : List Char :=
  if folded && line.ending == some '\n' && !line.startsBlank && !next.startsBlank then
    if line.gap.isEmpty then [' '] else line.gap
  else line.ending.toList ++ line.gap

/-- The breaks after the last line. -/
def breaksAtEnd (chomping : Chomping) (ending : Option Char) (gap : List Char) : List Char :=
  match chomping with
  | .strip => []
  | .clip => ending.toList
  | .keep => ending.toList ++ gap

/-- The text of lines. -/
def joinLines (folded : Bool) (chomping : Chomping) : List BlockLine → List Char
  | [] => []
  | [line] => line.text ++ breaksAtEnd chomping line.ending line.gap
  | line :: next :: rest =>
    line.text ++ breaksBetween folded line next ++ joinLines folded chomping (next :: rest)

/--
A block scalar after its `|` or `>`, in surroundings that are indented to `outer`: its text, and what
follows it.
-/
def readBlock (folded : Bool) (outer : Option Nat) (text : List Glyph) :
    Option (List Char × List Glyph) := do
  let (header, text) ← readHeader text
  let given := header.step.map (outer.getD 0 + ·)
  let top ← emptyLines given text
  let least := match outer with
    | none => 1
    | some column => column + 1
  let (lines, rest) ← blockLines (given.getD (max top.widest least)) top.rest
  let body := joinLines folded header.chomping lines
  return (if lines.isEmpty then breaksAtEnd header.chomping none top.breaks else top.breaks ++ body, rest)

theorem length_readBlock_le {folded : Bool} {outer : Option Nat} {text rest : List Glyph}
    {scalar : List Char} (h : readBlock folded outer text = some (scalar, rest)) :
    rest.length ≤ text.length := by
  simp only [readBlock, Option.bind_eq_bind, Option.bind_eq_some_iff, Option.pure_def,
    Option.some.injEq] at h
  obtain ⟨⟨header, body⟩, header_read, top, top_read, ⟨lines, after⟩, lines_read, eq⟩ := h
  cases eq
  calc after.length
    _ ≤ top.rest.length := length_blockLines_le lines_read
    _ ≤ body.length := length_emptyLines_le top_read
    _ ≤ text.length := length_readHeader_le header_read

end SchemaClasses.Yaml
