/-
Plain scalars: words without quotes.

A plain scalar is a row of words with gaps between them. It ends before
a colon that ends a word, before a comment, before a document marker,
where a line is indented too little, and inside brackets and braces
before a comma, bracket or brace.
-/
import SchemaClasses.Yaml.Glyph

namespace SchemaClasses.Yaml

/-- The characters that end a word inside brackets and braces. -/
def flowIndicators : List Char := [',', '[', ']', '{', '}']

/--
A word, and what follows it. Inside brackets and braces (`inFlow`) a colon right before an indicator
is refused.
-/
def plainWord (inFlow : Bool) : List Glyph → Option (List Char × List Glyph)
  | [] => some ([], [])
  | g :: rest =>
    if isGap g.char || (g.char == ':' && endsWord rest) ||
        (inFlow && flowIndicators.contains g.char) then
      some ([], g :: rest)
    else if inFlow && g.char == ':' && nextIsIn ('?' :: flowIndicators) rest then none
    else (plainWord inFlow rest).map fun (word, after) => (g.char :: word, after)

theorem length_plainWord_le {inFlow : Bool} {text rest : List Glyph} {word : List Char}
    (h : plainWord inFlow text = some (word, rest)) : rest.length ≤ text.length := by
  fun_induction plainWord inFlow text generalizing word rest with
  | case1 => simp_all
  | case2 => simp_all
  | case3 => simp at h
  | case4 g text _ _ ih =>
    obtain ⟨⟨_, _⟩, read, eq⟩ := Option.map_eq_some_iff.1 h
    have := ih read
    simp_all; omega

/-- The gap that a text begins with. -/
def gapOf (text : List Glyph) : List Glyph := text.takeWhile fun g => isGap g.char

/-- What follows the gap that a text begins with. -/
def afterGap (text : List Glyph) : List Glyph := text.dropWhile fun g => isGap g.char

theorem length_afterGap_le (text : List Glyph) : (afterGap text).length ≤ text.length :=
  Text.length_dropWhile_le _ _

/-- A gap that is not empty leaves a shorter rest. -/
theorem length_afterGap_lt {text : List Glyph} (h : (gapOf text).isEmpty = false) :
    (afterGap text).length < text.length :=
  Text.length_dropWhile_lt h

/-- The gap has a tab in the indentation of a later line, left of `column`. -/
def hasTabBefore (column : Nat) (gap : List Glyph) : Bool :=
  (gap.dropWhile fun g => !isBreak g.char).any fun g => g.char == '\t' && g.column < column

/-- No word of a scalar starts here: lines of the scalar are indented to `column` at least. -/
def endsPlain (inFlow : Bool) (column : Nat) : List Glyph → Bool
  | [] => true
  | g :: rest =>
    (!inFlow && g.column < column) || startsMarker (g :: rest) || g.char == '#'

/-- A plain scalar that has been read. -/
structure Plain where
  text : List Char
  /-- A line has ended between the last word and the rest. -/
  brokeLine : Bool
  rest : List Glyph

/-- The further words of a plain scalar, each with the gap before it. -/
def plainTail (inFlow : Bool) (column : Nat) (text : List Glyph) : Option Plain :=
  let gap := gapOf text
  if empty : gap.isEmpty then some ⟨[], false, text⟩
  else if hasTabBefore column gap then none
  else
    let stop : Plain := ⟨[], gap.any fun g => isBreak g.char, afterGap text⟩
    if endsPlain inFlow column (afterGap text) then some stop
    else
      match word : plainWord inFlow (afterGap text) with
      | none => none
      | some ([], _) => some stop
      | some (c :: cs, rest) =>
        have : rest.length < text.length :=
          Nat.lt_of_le_of_lt (length_plainWord_le word) (length_afterGap_lt (by simpa using empty))
        (plainTail inFlow column rest).map fun more =>
          { more with text := gapText (chars gap) ++ c :: cs ++ more.text }
termination_by text.length

/--
A plain scalar after its first character, which may be one that could not stand elsewhere in it.
The lines of the scalar are indented to `column` at least.
-/
def readPlain (inFlow : Bool) (column : Nat) (first : Char) (text : List Glyph) :
    Option Plain := do
  let (word, rest) ← plainWord inFlow text
  let more ← plainTail inFlow column rest
  return { more with text := first :: word ++ more.text }

theorem length_plainTail_le {inFlow : Bool} {column : Nat} {text : List Glyph} {scalar : Plain}
    (h : plainTail inFlow column text = some scalar) : scalar.rest.length ≤ text.length := by
  fun_induction plainTail inFlow column text generalizing scalar with
  | case1 =>
    cases h
    exact Nat.le_refl _
  | case2 => cases h
  | case3 =>
    cases h
    exact length_afterGap_le _
  | case4 => cases h
  | case5 =>
    cases h
    exact length_afterGap_le _
  | case6 =>
    rename_i shorter ih
    obtain ⟨more, read, rfl⟩ := Option.map_eq_some_iff.1 h
    have : more.rest.length ≤ _ := ih read
    exact Nat.le_trans this (Nat.le_of_lt shorter)

/-- A plain scalar leaves no more than follows its first character. -/
theorem length_readPlain_le {inFlow : Bool} {column : Nat} {first : Char} {text : List Glyph}
    {scalar : Plain} (h : readPlain inFlow column first text = some scalar) :
    scalar.rest.length ≤ text.length := by
  simp only [readPlain, Option.bind_eq_bind, Option.bind_eq_some_iff, Option.pure_def,
    Option.some.injEq] at h
  obtain ⟨⟨word, rest⟩, word_read, more, more_read, rfl⟩ := h
  have : more.rest.length ≤ rest.length := length_plainTail_le more_read
  exact Nat.le_trans this (length_plainWord_le word_read)

end SchemaClasses.Yaml
