/-
The strings of TOML.

Between double quotes a backslash starts an escape, between single quotes
nothing does. Three quotes open a string of several lines: a break right
after them does not count, up to two quotes may stand inside or right
before the closing ones, and between double quotes a backslash at the
end of a line takes away all blanks and breaks that follow.
-/
import SchemaClasses.Text.Cut
import SchemaClasses.Text.Digits

namespace SchemaClasses.Toml

/-- The characters that strings and comments may hold, apart from breaks. -/
def isTextChar (c : Char) : Bool := c == '\t' || (' ' ≤ c && c != '\x7F')

def isBlank (c : Char) : Bool := c == ' ' || c == '\t'

/-- What follows the break that a text begins with. -/
def afterBreak? : List Char → Option (List Char)
  | '\n' :: rest => some rest
  | '\r' :: '\n' :: rest => some rest
  | _ => none

-- ============================================================= escapes

/-- The character that a one-letter escape stands for. -/
def escaped? : Char → Option Char
  | 'b' => some '\x08'
  | 't' => some '\t'
  | 'n' => some '\n'
  | 'f' => some '\x0C'
  | 'r' => some '\r'
  | 'e' => some '\x1B'
  | '"' => some '"'
  | '\\' => some '\\'
  | _ => none

/-- How many hexadecimal digits follow the letter of an escape that names a character by number. -/
def hexLength : Char → Nat
  | 'x' => 2
  | 'u' => 4
  | 'U' => 8
  | _ => 0

/-- The character an escape stands for, read after the backslash, and what follows the escape. -/
def readEscape : List Char → Option (Char × List Char)
  | [] => none
  | c :: rest =>
    match hexLength c with
    | 0 => (escaped? c).map (·, rest)
    | n + 1 => (Text.charOfDigits? (n + 1) (rest.take (n + 1))).map (·, rest.drop (n + 1))

theorem length_readEscape_lt {text rest : List Char} {c : Char}
    (h : readEscape text = some (c, rest)) : rest.length < text.length := by
  cases text with
  | nil => simp [readEscape] at h
  | cons c text =>
    simp only [readEscape] at h
    split at h
    · obtain ⟨_, _, eq⟩ := Option.map_eq_some_iff.1 h
      simp_all
    · obtain ⟨_, _, eq⟩ := Option.map_eq_some_iff.1 h
      simp only [Prod.mk.injEq] at eq
      obtain ⟨_, rfl⟩ := eq
      simp only [List.length_drop, List.length_cons]; omega

-- ============================================================ one line

/-- A string in single quotes after its opening quote: its text, and what follows it. -/
def readLiteral : List Char → Option (List Char × List Char)
  | [] => none
  | c :: rest =>
    if c = '\'' then some ([], rest)
    else if isTextChar c then (readLiteral rest).map fun (more, after) => (c :: more, after)
    else none

theorem length_readLiteral_le {text rest scalar : List Char}
    (h : readLiteral text = some (scalar, rest)) : rest.length ≤ text.length := by
  fun_induction readLiteral text generalizing scalar rest with
  | case1 => cases h
  | case2 =>
    cases h
    exact Nat.le_succ _
  | case3 _ _ _ _ ih =>
    obtain ⟨_, read, eq⟩ := Option.map_eq_some_iff.1 h
    cases eq
    exact Nat.le_succ_of_le (ih read)
  | case4 => cases h

/-- A string in double quotes after its opening quote: its text, and what follows it. -/
def readBasic (text : List Char) : Option (List Char × List Char) :=
  match text with
  | [] => none
  | c :: rest =>
    if c = '"' then some ([], rest)
    else if c = '\\' then
      match escape : readEscape rest with
      | none => none
      | some (e, rest') =>
        have := length_readEscape_lt escape
        (readBasic rest').map fun (more, after) => (e :: more, after)
    else if isTextChar c then (readBasic rest).map fun (more, after) => (c :: more, after)
    else none
termination_by text.length
decreasing_by all_goals simp only [List.length_cons]; omega

theorem length_readBasic_le {text rest scalar : List Char}
    (h : readBasic text = some (scalar, rest)) : rest.length ≤ text.length := by
  fun_induction readBasic text generalizing scalar rest with
  | case1 => cases h
  | case2 =>
    cases h
    exact Nat.le_succ _
  | case3 => cases h
  | case4 =>
    rename_i shorter ih
    obtain ⟨_, read, eq⟩ := Option.map_eq_some_iff.1 h
    cases eq
    have := ih read
    simp only [List.length_cons]; omega
  | case5 _ _ _ _ _ ih =>
    obtain ⟨_, read, eq⟩ := Option.map_eq_some_iff.1 h
    cases eq
    exact Nat.le_succ_of_le (ih read)
  | case6 => cases h

-- ======================================================= several lines

/-- The quotes right before the closing ones: at most two, as many as there are. -/
def quotesInside (quote : Char) : List Char → List Char × List Char
  | a :: b :: rest =>
    if a = quote then if b = quote then ([a, b], rest) else ([a], b :: rest) else ([], a :: b :: rest)
  | [a] => if a = quote then ([a], []) else ([], [a])
  | [] => ([], [])

theorem length_quotesInside_le (quote : Char) (text : List Char) :
    (quotesInside quote text).2.length ≤ text.length := by
  unfold quotesInside
  repeat' split
  all_goals simp only [List.length_cons, List.length_nil]; omega

/-- What follows the three quotes that a text begins with. -/
def afterQuotes? (quote : Char) : List Char → Option (List Char)
  | a :: b :: c :: rest => if a = quote ∧ b = quote ∧ c = quote then some rest else none
  | _ => none

theorem length_afterQuotes_lt {quote : Char} {text rest : List Char}
    (h : afterQuotes? quote text = some rest) : rest.length < text.length := by
  unfold afterQuotes? at h
  split at h
  · rw [Option.ite_none_right_eq_some, Option.some.injEq] at h
    rw [← h.2]
    simp only [List.length_cons]; omega
  · cases h

/-- What follows blanks and breaks. -/
def afterBlankLines : List Char → List Char
  | '\n' :: rest => afterBlankLines rest
  | '\r' :: '\n' :: rest => afterBlankLines rest
  | c :: rest => if isBlank c then afterBlankLines rest else c :: rest
  | [] => []

theorem length_afterBlankLines_le (text : List Char) :
    (afterBlankLines text).length ≤ text.length := by
  fun_induction afterBlankLines text <;> simp only [List.length_cons, List.length_nil] <;> omega

/-- What follows a backslash at the end of a line, with the blanks and breaks there. -/
def afterLineEscape? (text : List Char) : Option (List Char) :=
  (afterBreak? (text.dropWhile isBlank)).map afterBlankLines

theorem length_afterBreak_lt {text rest : List Char} (h : afterBreak? text = some rest) :
    rest.length < text.length := by
  unfold afterBreak? at h
  split at h
  · simp_all
  · simp only [Option.some.injEq] at h; subst h; simp only [List.length_cons]; omega
  · simp at h

theorem length_afterLineEscape_lt {text rest : List Char} (h : afterLineEscape? text = some rest) :
    rest.length < text.length := by
  obtain ⟨middle, found, rfl⟩ := Option.map_eq_some_iff.1 h
  have := length_afterBreak_lt found
  have := Text.length_dropWhile_le isBlank text
  have := length_afterBlankLines_le middle
  omega

/-- A string of several lines in single quotes after the quotes that open it. -/
def readLiteralLines : List Char → Option (List Char × List Char)
  | [] => none
  | c :: rest =>
    match afterQuotes? '\'' (c :: rest) with
    | some rest => some (quotesInside '\'' rest)
    | none =>
      if isTextChar c || c == '\n' || (c == '\r' && rest.head? == some '\n') then
        (readLiteralLines rest).map fun (more, after) => (c :: more, after)
      else none

theorem length_readLiteralLines_le {text rest scalar : List Char}
    (h : readLiteralLines text = some (scalar, rest)) : rest.length ≤ text.length := by
  fun_induction readLiteralLines text generalizing scalar rest with
  | case1 => cases h
  | case2 _ _ after closed =>
    have inside := length_quotesInside_le '\'' after
    rw [Option.some.inj h] at inside
    exact Nat.le_trans inside (Nat.le_of_lt (length_afterQuotes_lt closed))
  | case3 _ _ _ _ ih =>
    obtain ⟨_, read, eq⟩ := Option.map_eq_some_iff.1 h
    cases eq
    exact Nat.le_succ_of_le (ih read)
  | case4 => cases h

/-- A string of several lines in double quotes after the quotes that open it. -/
def readBasicLines (text : List Char) : Option (List Char × List Char) :=
  match text with
  | [] => none
  | c :: rest =>
    match afterQuotes? '"' (c :: rest) with
    | some rest => some (quotesInside '"' rest)
    | none =>
      if c = '\\' then
        match lineEnd : afterLineEscape? rest with
        | some rest' =>
          have := length_afterLineEscape_lt lineEnd
          readBasicLines rest'
        | none =>
          match escape : readEscape rest with
          | none => none
          | some (e, rest') =>
            have := length_readEscape_lt escape
            (readBasicLines rest').map fun (more, after) => (e :: more, after)
      else if isTextChar c || c == '\n' || (c == '\r' && rest.head? == some '\n') then
        (readBasicLines rest).map fun (more, after) => (c :: more, after)
      else none
termination_by text.length
decreasing_by all_goals simp only [List.length_cons]; omega

theorem length_readBasicLines_le {text rest scalar : List Char}
    (h : readBasicLines text = some (scalar, rest)) : rest.length ≤ text.length := by
  fun_induction readBasicLines text generalizing scalar rest with
  | case1 => cases h
  | case2 _ _ after closed =>
    have inside := length_quotesInside_le '"' after
    rw [Option.some.inj h] at inside
    exact Nat.le_trans inside (Nat.le_of_lt (length_afterQuotes_lt closed))
  | case3 =>
    rename_i shorter ih
    have := ih h
    simp only [List.length_cons]; omega
  | case4 => cases h
  | case5 =>
    rename_i shorter ih
    obtain ⟨_, read, eq⟩ := Option.map_eq_some_iff.1 h
    cases eq
    have := ih read
    simp only [List.length_cons]; omega
  | case6 =>
    rename_i ih
    obtain ⟨_, read, eq⟩ := Option.map_eq_some_iff.1 h
    cases eq
    exact Nat.le_succ_of_le (ih read)
  | case7 => cases h

/-- What follows three quotes, without a break right after them. -/
def afterFirstBreak (text : List Char) : List Char := (afterBreak? text).getD text

theorem length_afterFirstBreak_le (text : List Char) :
    (afterFirstBreak text).length ≤ text.length := by
  unfold afterFirstBreak
  cases found : afterBreak? text with
  | none => exact Nat.le_refl _
  | some _ => exact Nat.le_of_lt (length_afterBreak_lt found)

/-- The string that a text begins with, on one line. -/
def readLineString? : List Char → Option (List Char × List Char)
  | '"' :: rest => readBasic rest
  | '\'' :: rest => readLiteral rest
  | _ => none

theorem length_readLineString_lt {text rest scalar : List Char}
    (h : readLineString? text = some (scalar, rest)) : rest.length < text.length := by
  unfold readLineString? at h
  split at h
  · exact Nat.lt_succ_of_le (length_readBasic_le h)
  · exact Nat.lt_succ_of_le (length_readLiteral_le h)
  · cases h

/-- The string that a text begins with, of either kind. -/
def readString? (text : List Char) : Option (List Char × List Char) :=
  match afterQuotes? '"' text, afterQuotes? '\'' text with
  | some rest, _ => readBasicLines (afterFirstBreak rest)
  | none, some rest => readLiteralLines (afterFirstBreak rest)
  | none, none => readLineString? text

theorem length_readString_lt {text rest scalar : List Char}
    (h : readString? text = some (scalar, rest)) : rest.length < text.length := by
  unfold readString? at h
  split at h
  next _ _ after opened =>
    exact Nat.lt_of_le_of_lt (length_readBasicLines_le h)
      (Nat.lt_of_le_of_lt (length_afterFirstBreak_le _) (length_afterQuotes_lt opened))
  next _ _ after opened =>
    exact Nat.lt_of_le_of_lt (length_readLiteralLines_le h)
      (Nat.lt_of_le_of_lt (length_afterFirstBreak_le _) (length_afterQuotes_lt opened))
  · exact length_readLineString_lt h

end SchemaClasses.Toml
