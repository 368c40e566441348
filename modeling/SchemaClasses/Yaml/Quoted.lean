/-
Quoted scalars.

Between single quotes every character stands for itself, the quote
written twice. Between double quotes a backslash starts an escape; it can
also escape the end of a line, which then leaves nothing. In both kinds a
gap is folded as between plain words, and a document marker may not
occur.
-/
import SchemaClasses.Text.Digits
import SchemaClasses.Yaml.Plain

namespace SchemaClasses.Yaml

/-- A scalar after its opening quote, a single one: its text, and what follows the closing quote. -/
def readSingleQuoted (text : List Glyph) : Option (List Char × List Glyph) :=
  match text with
  | [] => none
  | g :: rest =>
    if startsMarker (g :: rest) then none
    else if isGap g.char then
      (readSingleQuoted (afterGap rest)).map fun (more, after) =>
        (gapText (g.char :: chars (gapOf rest)) ++ more, after)
    else if g.char = '\'' then
      if nextIs '\'' rest then
        (readSingleQuoted (rest.drop 1)).map fun (more, after) => ('\'' :: more, after)
      else some ([], rest)
    else (readSingleQuoted rest).map fun (more, after) => (g.char :: more, after)
termination_by text.length
decreasing_by
  · have := length_afterGap_le rest
    simp only [List.length_cons]; omega
  · have := Text.length_drop_le 1 rest
    simp only [List.length_cons]; omega
  · simp only [List.length_cons]; omega

theorem length_readSingleQuoted_le {text rest : List Glyph} {scalar : List Char}
    (h : readSingleQuoted text = some (scalar, rest)) : rest.length ≤ text.length := by
  fun_induction readSingleQuoted text generalizing scalar rest with
  | case1 => cases h
  | case2 => cases h
  | case3 _ text _ _ ih =>
    obtain ⟨_, read, eq⟩ := Option.map_eq_some_iff.1 h
    cases eq
    have := ih read
    have := length_afterGap_le text
    simp only [List.length_cons]; omega
  | case4 _ text _ _ _ _ ih =>
    obtain ⟨_, read, eq⟩ := Option.map_eq_some_iff.1 h
    cases eq
    have := ih read
    have := Text.length_drop_le 1 text
    simp only [List.length_cons]; omega
  | case5 =>
    cases h
    exact Nat.le_succ _
  | case6 _ _ _ _ _ ih =>
    obtain ⟨_, read, eq⟩ := Option.map_eq_some_iff.1 h
    cases eq
    exact Nat.le_succ_of_le (ih read)

-- ============================================================= escapes

/-- The character that a one-letter escape stands for. -/
def escaped? : Char → Option Char
  | '0' => some '\x00'
  | 'a' => some '\x07'
  | 'b' => some '\x08'
  | 't' => some '\t'
  | '\t' => some '\t'
  | 'n' => some '\n'
  | 'v' => some '\x0B'
  | 'f' => some '\x0C'
  | 'r' => some '\r'
  | 'e' => some '\x1B'
  | ' ' => some ' '
  | '"' => some '"'
  | '/' => some '/'
  | '\\' => some '\\'
  | 'N' => some '\x85'
  | '_' => some '\xA0'
  | 'L' => some '\u2028'
  | 'P' => some '\u2029'
  | _ => none

/-- How many hexadecimal digits follow the letter of an escape that names a character by number. -/
def hexLength : Char → Nat
  | 'x' => 2
  | 'u' => 4
  | 'U' => 8
  | _ => 0

/-- The character an escape stands for, read after the backslash, and what follows the escape. -/
def readEscape : List Glyph → Option (Char × List Glyph)
  | [] => none
  | g :: rest =>
    match hexLength g.char with
    | 0 => (escaped? g.char).map (·, rest)
    | n + 1 =>
      (Text.charOfDigits? (n + 1) (chars (rest.take (n + 1)))).map (·, rest.drop (n + 1))

theorem length_readEscape_lt {text rest : List Glyph} {c : Char}
    (h : readEscape text = some (c, rest)) : rest.length < text.length := by
  cases text with
  | nil => simp [readEscape] at h
  | cons g text =>
    simp only [readEscape] at h
    split at h
    · obtain ⟨_, _, eq⟩ := Option.map_eq_some_iff.1 h
      simp_all
    · obtain ⟨_, _, eq⟩ := Option.map_eq_some_iff.1 h
      simp only [Prod.mk.injEq] at eq
      obtain ⟨_, rfl⟩ := eq
      simp only [List.length_drop, List.length_cons]; omega

/-- A scalar after its opening quote, a double one: its text, and what follows the closing quote. -/
def readDoubleQuoted (text : List Glyph) : Option (List Char × List Glyph) :=
  match text with
  | [] => none
  | g :: rest =>
    if startsMarker (g :: rest) then none
    else if isGap g.char then
      (readDoubleQuoted (afterGap rest)).map fun (more, after) =>
        (gapText (g.char :: chars (gapOf rest)) ++ more, after)
    else if g.char = '"' then some ([], rest)
    else if g.char = '\\' then
      if rest.isEmpty then none
      else if endsLine rest then
        (readDoubleQuoted (afterGap rest)).map fun (more, after) =>
          (((chars (gapOf rest)).drop 1).filter isBreak ++ more, after)
      else
        match escape : readEscape rest with
        | none => none
        | some (c, rest') =>
          have := length_readEscape_lt escape
          (readDoubleQuoted rest').map fun (more, after) => (c :: more, after)
    else (readDoubleQuoted rest).map fun (more, after) => (g.char :: more, after)
termination_by text.length
decreasing_by
  all_goals
    have := length_afterGap_le rest
    simp only [List.length_cons]; omega

theorem length_readDoubleQuoted_le {text rest : List Glyph} {scalar : List Char}
    (h : readDoubleQuoted text = some (scalar, rest)) : rest.length ≤ text.length := by
  fun_induction readDoubleQuoted text generalizing scalar rest with
  | case1 => cases h
  | case2 => cases h
  | case3 _ text _ _ ih =>
    obtain ⟨_, read, eq⟩ := Option.map_eq_some_iff.1 h
    cases eq
    have := ih read
    have := length_afterGap_le text
    simp only [List.length_cons]; omega
  | case4 =>
    cases h
    exact Nat.le_succ _
  | case5 => cases h
  | case6 _ text _ _ _ _ _ _ ih =>
    obtain ⟨_, read, eq⟩ := Option.map_eq_some_iff.1 h
    cases eq
    have := ih read
    have := length_afterGap_le text
    simp only [List.length_cons]; omega
  | case7 => cases h
  | case8 =>
    rename_i shorter ih
    obtain ⟨_, read, eq⟩ := Option.map_eq_some_iff.1 h
    cases eq
    have := ih read
    simp only [List.length_cons]; omega
  | case9 _ _ _ _ _ _ ih =>
    obtain ⟨_, read, eq⟩ := Option.map_eq_some_iff.1 h
    cases eq
    exact Nat.le_succ_of_le (ih read)

end SchemaClasses.Yaml
