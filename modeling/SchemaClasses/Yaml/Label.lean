/-
Anchors, tags and directives as they are written.

A tag is written as a row of octets: a percent sign and two digits give
an octet by its number, and the octets given that way in a row must
begin and continue as those of a character do. Its text ends at the
first octet that is null.
-/
import SchemaClasses.Yaml.Block
import SchemaClasses.Yaml.Quoted
import SchemaClasses.Yaml.Token

namespace SchemaClasses.Yaml

-- ============================================================== words

/-- The characters of anchor names, tag handles and directive names. -/
def isWordChar (c : Char) : Bool := c.isAlphanum || c == '_' || c == '-'

/-- The word that a text begins with, and what follows it. -/
def readWord (text : List Glyph) : List Char × List Glyph :=
  (chars (text.takeWhile fun g => isWordChar g.char), text.dropWhile fun g => isWordChar g.char)

theorem length_readWord_le (text : List Glyph) : (readWord text).2.length ≤ text.length :=
  Text.length_dropWhile_le _ _

/-- The characters right after a word that end the name of an anchor. -/
def anchorEnds : List Char := ['?', ':', ',', ']', '}', '%', '@', '\x60']

/-- The name of an anchor or alias, read after its sign. -/
def readAnchor (text : List Glyph) : Option (String × List Glyph) :=
  let (name, rest) := readWord text
  if !name.isEmpty && (endsWord rest || nextIsIn anchorEnds rest) then
    some (String.ofList name, rest)
  else none

theorem length_readAnchor_le {text rest : List Glyph} {name : String}
    (h : readAnchor text = some (name, rest)) : rest.length ≤ text.length := by
  simp only [readAnchor, Option.ite_none_right_eq_some, Option.some.injEq, Prod.mk.injEq] at h
  exact h.2.2 ▸ length_readWord_le text

-- =============================================================== tags

/-- The characters of a tag. In angle brackets (`enclosed`) there are some more. -/
def isTagChar (enclosed : Bool) (c : Char) : Bool :=
  isWordChar c ||
  [';', '/', '?', ':', '@', '&', '=', '+', '$', '.', '!', '~', '*', '\'', '(', ')'].contains c ||
  (enclosed && [',', '[', ']'].contains c)

/-- How many octets continue the character that an octet begins. -/
def continuation? (octet : Nat) : Option Nat :=
  if octet < 0x80 then some 0
  else if 0xC0 ≤ octet ∧ octet < 0xE0 then some 1
  else if 0xE0 ≤ octet ∧ octet < 0xF0 then some 2
  else if 0xF0 ≤ octet ∧ octet < 0xF8 then some 3
  else none

/-- How many octets are still to come after one, where `expected` were to come before it. -/
def expectedAfter? (octet : Nat) : (expected : Nat) → Option Nat
  | 0 => continuation? octet
  | more + 1 => if 0x80 ≤ octet ∧ octet < 0xC0 then some more else none

/-- The octet that two hexadecimal digits name. -/
def octet? (digits : List Char) : Option Nat := do
  guard (digits.length = 2)
  Text.natural? 16 digits

/-- The octets of a tag, and what follows it; `expected` octets have to come first. -/
def readOctets (enclosed : Bool) (expected : Nat) (text : List Glyph) :
    Option (List Char × List Glyph) :=
  match text with
  | [] => if expected = 0 then some ([], []) else none
  | g :: rest =>
    if g.char = '%' then
      match octet? (chars (rest.take 2)) with
      | none => none
      | some octet =>
        match expectedAfter? octet expected with
        | none => none
        | some more =>
          (readOctets enclosed more (rest.drop 2)).map fun (octets, after) =>
            (Char.ofNat octet :: octets, after)
    else if expected ≠ 0 then none
    else if isTagChar enclosed g.char then
      (readOctets enclosed 0 rest).map fun (octets, after) => (g.char :: octets, after)
    else some ([], g :: rest)
termination_by text.length
decreasing_by
  · have := Text.length_drop_le 2 rest
    simp only [List.length_cons]; omega
  · simp only [List.length_cons]; omega

theorem length_readOctets_le {enclosed : Bool} {expected : Nat} {text rest : List Glyph}
    {octets : List Char} (h : readOctets enclosed expected text = some (octets, rest)) :
    rest.length ≤ text.length := by
  fun_induction readOctets enclosed expected text generalizing octets rest with
  | case1 =>
    cases h
    exact Nat.le_refl _
  | case2 => cases h
  | case3 => cases h
  | case4 => cases h
  | case5 =>
    rename_i text _ _ _ _ _ ih
    obtain ⟨_, read, eq⟩ := Option.map_eq_some_iff.1 h
    cases eq
    have := ih read
    have := Text.length_drop_le 2 text
    simp only [List.length_cons]; omega
  | case6 => cases h
  | case7 =>
    rename_i ih
    obtain ⟨_, read, eq⟩ := Option.map_eq_some_iff.1 h
    cases eq
    exact Nat.le_succ_of_le (ih read)
  | case8 =>
    cases h
    exact Nat.le_refl _

/-- The text of a tag with these octets. -/
def tagText (octets : List Char) : String := String.ofList (octets.takeWhile (· ≠ '\x00'))

/-- The text of a tag that may not be written as nothing. -/
def readTagName (enclosed : Bool) (text : List Glyph) : Option (String × List Glyph) := do
  let (octets, rest) ← readOctets enclosed 0 text
  if octets.isEmpty then none else some (tagText octets, rest)

theorem length_readTagName_le {enclosed : Bool} {text rest : List Glyph} {name : String}
    (h : readTagName enclosed text = some (name, rest)) : rest.length ≤ text.length := by
  simp only [readTagName, Option.bind_eq_bind, Option.bind_eq_some_iff,
    Option.ite_none_left_eq_some, Option.some.injEq] at h
  obtain ⟨_, read, _, eq⟩ := h
  cases eq
  exact length_readOctets_le read

/--
The handle and the suffix of a tag, read after its exclamation mark. A tag in angle brackets has no
handle, and the exclamation mark before an empty text is its own suffix.
-/
def readTag (text : List Glyph) : Option ((String × String) × List Glyph) :=
  if nextIs '<' text then do
    let (suffix, rest) ← readTagName true (text.drop 1)
    if nextIs '>' rest then some (("", suffix), rest.drop 1) else none
  else do
    let (word, rest) := readWord text
    if nextIs '!' rest then
      let (suffix, rest) ← readTagName false (rest.drop 1)
      return (("!" ++ String.ofList word ++ "!", suffix), rest)
    else
      let (octets, rest) ← readOctets false 0 rest
      let suffix := tagText (word ++ octets)
      return (if suffix.isEmpty then ("", "!") else ("!", suffix), rest)

theorem length_readTag_le {text rest : List Glyph} {tag : String × String}
    (h : readTag text = some (tag, rest)) : rest.length ≤ text.length := by
  unfold readTag at h
  split at h
  · simp only [Option.bind_eq_bind, Option.bind_eq_some_iff, Option.ite_none_right_eq_some,
      Option.some.injEq] at h
    obtain ⟨⟨_, after⟩, read, _, eq⟩ := h
    cases eq
    calc (after.drop 1).length
      _ ≤ after.length := Text.length_drop_le ..
      _ ≤ (text.drop 1).length := length_readTagName_le read
      _ ≤ text.length := Text.length_drop_le ..
  · have word := length_readWord_le text
    simp only at h
    split at h
    · simp only [Option.bind_eq_bind, Option.bind_eq_some_iff, Option.pure_def,
        Option.some.injEq] at h
      obtain ⟨⟨_, after⟩, read, eq⟩ := h
      cases eq
      calc after.length
        _ ≤ ((readWord text).2.drop 1).length := length_readTagName_le read
        _ ≤ (readWord text).2.length := Text.length_drop_le ..
        _ ≤ text.length := word
    · simp only [Option.bind_eq_bind, Option.bind_eq_some_iff, Option.pure_def,
        Option.some.injEq] at h
      obtain ⟨⟨_, after⟩, read, eq⟩ := h
      cases eq
      exact Nat.le_trans (length_readOctets_le read) word

-- ========================================================= directives

/-- How many digits a number in a version may have. -/
def longestVersion : Nat := 9

/-- A number in a version. -/
def readVersionNumber (text : List Glyph) : Option (Nat × List Glyph) :=
  let digits := chars (text.takeWhile fun g => g.char.isDigit)
  if digits.isEmpty || longestVersion < digits.length then none
  else some (Text.ofDigits 10 digits, text.drop digits.length)

theorem length_readVersionNumber_le {text rest : List Glyph} {n : Nat}
    (h : readVersionNumber text = some (n, rest)) : rest.length ≤ text.length := by
  simp only [readVersionNumber, Option.ite_none_left_eq_some, Option.some.injEq,
    Prod.mk.injEq] at h
  exact h.2.2 ▸ Text.length_drop_le ..

/-- What follows a sign that the text goes on with. -/
def afterSign? (sign : Char) : List Glyph → Option (List Glyph)
  | [] => none
  | g :: rest => if g.char = sign then some rest else none

theorem length_afterSign_le {sign : Char} {text rest : List Glyph}
    (h : afterSign? sign text = some rest) : rest.length ≤ text.length := by
  unfold afterSign? at h
  split at h
  · cases h
  · rw [Option.ite_none_right_eq_some, Option.some.injEq] at h
    exact h.2 ▸ Nat.le_succ _

/-- The version a directive states, and the lines after it. -/
def readVersion (text : List Glyph) : Option (Token × List Glyph) := do
  let (major, rest) ← readVersionNumber text
  let rest ← afterSign? '.' rest
  let (minor, rest) ← readVersionNumber rest
  return (.version major minor, ← restOfLine? rest)

theorem length_readVersion_le {text rest : List Glyph} {token : Token}
    (h : readVersion text = some (token, rest)) : rest.length ≤ text.length := by
  simp only [readVersion, Option.bind_eq_bind, Option.bind_eq_some_iff, Option.pure_def,
    Option.some.injEq] at h
  obtain ⟨⟨_, afterMajor⟩, major, afterPoint, point, ⟨_, afterMinor⟩, minor, lines, line, eq⟩ := h
  cases eq
  calc _
    _ ≤ afterMinor.length := length_restOfLine_le line
    _ ≤ afterPoint.length := length_readVersionNumber_le minor
    _ ≤ afterMajor.length := length_afterSign_le point
    _ ≤ text.length := length_readVersionNumber_le major

/-- The handle of a tag, read after its first exclamation mark. A word in it must be closed by another. -/
def readHandle (text : List Glyph) : Option (String × List Glyph) :=
  let (word, rest) := readWord text
  match afterSign? '!' rest with
  | some rest => some ("!" ++ String.ofList word ++ "!", rest)
  | none => if word.isEmpty then some ("!", rest) else none

theorem length_readHandle_le {text rest : List Glyph} {handle : String}
    (h : readHandle text = some (handle, rest)) : rest.length ≤ text.length := by
  have word := length_readWord_le text
  simp only [readHandle] at h
  split at h
  next closed =>
    cases h
    exact Nat.le_trans (length_afterSign_le closed) word
  · rw [Option.ite_none_right_eq_some, Option.some.injEq, Prod.mk.injEq] at h
    exact h.2.2 ▸ word

/-- What a directive lets a tag handle stand for, read after an exclamation mark, and the lines after it. -/
def readTagPrefix (text : List Glyph) : Option (Token × List Glyph) := do
  let (handle, rest) ← readHandle text
  if endsWord rest && !endsLine rest then
    let (meaning, rest) ← readTagName true (skipBlanks rest)
    if endsWord rest then (restOfLine? rest).map (.tagPrefix handle meaning, ·) else none
  else none

theorem length_readTagPrefix_le {text rest : List Glyph} {token : Token}
    (h : readTagPrefix text = some (token, rest)) : rest.length ≤ text.length := by
  simp only [readTagPrefix, Option.bind_eq_bind, Option.bind_eq_some_iff,
    Option.ite_none_right_eq_some, Option.map_eq_some_iff] at h
  obtain ⟨⟨_, afterHandle⟩, handle, _, ⟨_, afterName⟩, name, _, lines, line, eq⟩ := h
  cases eq
  calc _
    _ ≤ afterName.length := length_restOfLine_le line
    _ ≤ (skipBlanks afterHandle).length := length_readTagName_le name
    _ ≤ afterHandle.length := length_skipBlanks_le _
    _ ≤ text.length := length_readHandle_le handle

/-- A directive, read after its percent sign: its token, and the lines after it. -/
def readDirective (text : List Glyph) : Option (Token × List Glyph) :=
  let (name, rest) := readWord text
  if !endsWord rest then none
  else if String.ofList name = "YAML" then readVersion (skipBlanks rest)
  else if String.ofList name = "TAG" then (afterSign? '!' (skipBlanks rest)).bind readTagPrefix
  else none

theorem length_readDirective_le {text rest : List Glyph} {token : Token}
    (h : readDirective text = some (token, rest)) : rest.length ≤ text.length := by
  have start : (skipBlanks (readWord text).2).length ≤ text.length :=
    Nat.le_trans (length_skipBlanks_le _) (length_readWord_le text)
  simp only [readDirective] at h
  split at h
  · cases h
  · split at h
    · exact Nat.le_trans (length_readVersion_le h) start
    · split at h
      · obtain ⟨_, sign, read⟩ := Option.bind_eq_some_iff.1 h
        calc rest.length
          _ ≤ _ := length_readTagPrefix_le read
          _ ≤ (skipBlanks (readWord text).2).length := length_afterSign_le sign
          _ ≤ text.length := start
      · cases h

end SchemaClasses.Yaml
