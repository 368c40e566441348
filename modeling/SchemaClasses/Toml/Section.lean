/-
TOML texts as they are written: sections of assignments.

A text is read in one pass. Arrays and inline tables that have not been
closed lie on a stack, the innermost first; under them lies the key of
the line they are on. What may come next depends on where in a line the
text stands. Breaks and comments may come between any two parts of it,
save between the key of a line and the start of its value.
-/
import SchemaClasses.Text.Cut
import SchemaClasses.Toml.Quoted
import SchemaClasses.Toml.Scalar

namespace SchemaClasses.Toml

open Text (Cut)

/-- A value as it is written. -/
inductive Term where
  | scalar (s : Scalar)
  | array (items : List Term)
  /-- An inline table: dotted keys, each with a value. -/
  | table (assignments : List (List String × Term))

/-- Dotted keys, each with a value. -/
abbrev Assignments := List (List String × Term)

/-- What assignments are about. -/
inductive Header where
  /-- The table that is the whole text. -/
  | root
  /-- The table at a path. -/
  | table (path : List String)
  /-- A new table in the array at a path. -/
  | element (path : List String)

/-- A header with the assignments under it. -/
structure Section where
  header : Header
  assignments : Assignments

-- =============================================================== keys

/-- The characters of a key without quotes. -/
def isKeyChar (c : Char) : Bool := c.isAlphanum || c == '_' || c == '-'

/-- A key, and what follows it. -/
def readKey (text : List Char) : Option (String × List Char) :=
  let bare := text.takeWhile isKeyChar
  if bare.isEmpty then (readLineString? text).map fun (key, rest) => (String.ofList key, rest)
  else some (String.ofList bare, text.dropWhile isKeyChar)

theorem length_readKey_lt {text rest : List Char} {key : String}
    (h : readKey text = some (key, rest)) : rest.length < text.length := by
  simp only [readKey] at h
  split at h
  · obtain ⟨_, read, eq⟩ := Option.map_eq_some_iff.1 h
    cases eq
    exact length_readLineString_lt read
  next nonempty =>
    cases h
    exact Text.length_dropWhile_lt (Bool.eq_false_iff.2 nonempty)

def skipBlanks (text : List Char) : List Char := text.dropWhile isBlank

theorem length_skipBlanks_le (text : List Char) : (skipBlanks text).length ≤ text.length :=
  Text.length_dropWhile_le _ _

/-- Keys with dots between them, and what follows them and the blanks after them. -/
def readKeys (text : List Char) : Option (List String × List Char) :=
  match read : readKey text with
  | none => none
  | some (key, rest) =>
    match found : skipBlanks rest with
    | '.' :: rest' =>
      have : (skipBlanks rest').length < text.length := by
        have := length_readKey_lt read
        have := length_skipBlanks_le rest
        have := length_skipBlanks_le rest'
        simp only [found, List.length_cons] at *; omega
      (readKeys (skipBlanks rest')).map fun (path, after) => (key :: path, after)
    | rest => some ([key], rest)
termination_by text.length

theorem length_readKeys_lt {text rest : List Char} {path : List String}
    (h : readKeys text = some (path, rest)) : rest.length < text.length := by
  fun_induction readKeys text generalizing path rest with
  | case1 => cases h
  | case2 =>
    rename_i shorter ih
    obtain ⟨_, read, eq⟩ := Option.map_eq_some_iff.1 h
    cases eq
    exact Nat.lt_trans (ih read) shorter
  | case3 =>
    rename_i read _
    cases h
    exact Nat.lt_of_le_of_lt (length_skipBlanks_le _) (length_readKey_lt read)

/-- How many keys a dotted key may have. -/
def longestPath : Nat := 80

/-- A dotted key, and what follows it and the blanks after it. -/
def readPath (text : List Char) : Option (List String × List Char) :=
  match readKeys text with
  | none => none
  | some (path, rest) => if path.length ≤ longestPath then some (path, rest) else none

theorem length_readPath_lt {text rest : List Char} {path : List String}
    (h : readPath text = some (path, rest)) : rest.length < text.length := by
  unfold readPath at h
  split at h
  · cases h
  next read =>
    simp only [Option.ite_none_right_eq_some, Option.some.injEq] at h
    cases h.2
    exact length_readKeys_lt read

/-- A header. Its two brackets on either side may not be set apart. -/
def readHeader : List Char → Option (Header × List Char)
  | '[' :: '[' :: rest =>
    match readPath (skipBlanks rest) with
    | some (path, ']' :: ']' :: rest) => some (.element path, rest)
    | _ => none
  | '[' :: rest =>
    match readPath (skipBlanks rest) with
    | some (path, ']' :: rest) => some (.table path, rest)
    | _ => none
  | _ => none

theorem length_readHeader_lt {text rest : List Char} {header : Header}
    (h : readHeader text = some (header, rest)) : rest.length < text.length := by
  unfold readHeader at h
  split at h
  next inside =>
    split at h
    next read =>
      cases h
      have := length_readPath_lt read
      have := length_skipBlanks_le inside
      simp only [List.length_cons] at *; omega
    · cases h
  next inside _ =>
    split at h
    next read =>
      cases h
      have := length_readPath_lt read
      have := length_skipBlanks_le inside
      simp only [List.length_cons] at *; omega
    · cases h
  · cases h

/-- What follows a comment: the end of the line. -/
def afterComment? : List Char → Option (List Char)
  | [] => some []
  | c :: rest =>
    if (afterBreak? (c :: rest)).isSome then some (c :: rest)
    else if isTextChar c then afterComment? rest
    else none

theorem length_afterComment_le {text rest : List Char} (h : afterComment? text = some rest) :
    rest.length ≤ text.length := by
  fun_induction afterComment? text with
  | case1 =>
    cases h
    exact Nat.le_refl _
  | case2 =>
    cases h
    exact Nat.le_refl _
  | case3 _ _ _ _ ih => exact Nat.le_succ_of_le (ih h)
  | case4 => cases h

-- ============================================================ reading

/-- What has not been completed. -/
inductive Frame where
  /-- A line whose value is owed to this key. -/
  | line (path : List String)
  /-- An open array, its items in reverse. -/
  | array (items : List Term)
  /-- An open inline table, its assignments in reverse, and the key that a value is owed to. -/
  | table (assignments : Assignments) (path : List String)

/-- Where in a line the text stands. -/
inductive Position where
  | lineStart
  /-- The line is complete. -/
  | lineEnd
  /-- After a key: an equals sign must come. -/
  | equals
  /-- After an equals sign: a value must come. -/
  | value
  /-- In an array: a value must come, or the end. -/
  | item
  /-- In an inline table: a key must come, or the end. -/
  | key
  /-- In an array or inline table, after a complete value. -/
  | separator
deriving DecidableEq

/-- What has been read. -/
structure Reading where
  /-- The sections that are complete, the latest first. -/
  sections : List Section := []
  header : Header := .root
  /-- The assignments under the header so far, the latest first. -/
  assignments : Assignments := []
  frames : List Frame := []
  position : Position := .lineStart

namespace Reading

/-- How deep arrays and inline tables may lie in each other. -/
def deepest : Nat := 80

/-- All sections so far. -/
def allSections (r : Reading) : List Section :=
  (⟨r.header, r.assignments.reverse⟩ :: r.sections).reverse

/-- A new header. -/
def startSection (r : Reading) (header : Header) : Reading :=
  { sections := ⟨r.header, r.assignments.reverse⟩ :: r.sections, header, position := .lineEnd }

/-- A value is complete. -/
def place (r : Reading) (term : Term) : Option Reading :=
  match r.frames with
  | .line path :: _ =>
    some { r with
      assignments := (path, term) :: r.assignments
      frames := []
      position := .lineEnd }
  | .array items :: outer =>
    some { r with frames := .array (term :: items) :: outer, position := .separator }
  | .table assignments path :: outer =>
    some { r with frames := .table ((path, term) :: assignments) [] :: outer, position := .separator }
  | [] => none

/-- An array or inline table opens. -/
def push (r : Reading) (frame : Frame) (position : Position) : Option Reading :=
  if r.frames.length ≤ deepest then some { r with frames := frame :: r.frames, position } else none

/-- An array closes. -/
def closeArray (r : Reading) : Option Reading :=
  match r.frames with
  | .array items :: outer => { r with frames := outer }.place (.array items.reverse)
  | _ => none

/-- An inline table closes. -/
def closeTable (r : Reading) : Option Reading :=
  match r.frames with
  | .table assignments _ :: outer => { r with frames := outer }.place (.table assignments.reverse)
  | _ => none

/-- The next item or assignment is announced. -/
def comma (r : Reading) : Option Reading :=
  match r.frames with
  | .array _ :: _ => some { r with position := .item }
  | .table _ _ :: _ => some { r with position := .key }
  | _ => none

/-- A key has come, and a value is owed to it. -/
def target (r : Reading) (path : List String) : Option Reading :=
  match r.frames with
  | .table assignments _ :: outer =>
    some { r with frames := .table assignments path :: outer, position := .equals }
  | [] => some { r with frames := [.line path], position := .equals }
  | _ => none

/-- A break or a comment may come: this is not between the key of a line and its value. -/
def allowsBreak (r : Reading) : Bool :=
  match r.frames with
  | .line _ :: _ => false
  | _ => true

/-- A line has ended. -/
def newLine (r : Reading) : Reading :=
  if r.position = .lineEnd then { r with position := .lineStart } else r

/-- A sign that has its meaning by itself. -/
def sign (r : Option Reading) (rest : List Char) : Option (Reading × List Char) :=
  r.map (·, rest)

/-- A value, or the beginning of one. -/
def readTerm (r : Reading) (text : List Char) : Option (Reading × List Char) :=
  match text with
  | '[' :: rest => sign (r.push (.array []) .item) rest
  | '{' :: rest => sign (r.push (.table [] []) .key) rest
  | '"' :: _ | '\'' :: _ => do
    let (string, rest) ← readString? text
    return (← r.place (.scalar (.string (String.ofList string))), rest)
  | _ => do
    let (bare, rest) ← readBare text
    return (← r.place (.scalar (← scalar? bare)), rest)

/-- A dotted key that a value is owed to. -/
def readTarget (r : Reading) (text : List Char) : Option (Reading × List Char) := do
  let (path, rest) ← readPath text
  return (← r.target path, rest)

/-- What comes next, and what follows it. -/
def next (r : Reading) (text : List Char) : Option (Reading × List Char) :=
  match r.position, text with
  | .lineStart, '[' :: _ => (readHeader text).map fun (header, rest) => (r.startSection header, rest)
  | .lineStart, _ => r.readTarget text
  | .lineEnd, _ => none
  | .equals, '=' :: rest => some ({ r with position := .value }, rest)
  | .equals, _ => none
  | .value, _ => r.readTerm text
  | .item, ']' :: rest => sign r.closeArray rest
  | .item, _ => r.readTerm text
  | .key, '}' :: rest => sign r.closeTable rest
  | .key, _ => r.readTarget text
  | .separator, ',' :: rest => sign r.comma rest
  | .separator, ']' :: rest => sign r.closeArray rest
  | .separator, '}' :: rest => sign r.closeTable rest
  | .separator, _ => none

-- ============================================= all that comes takes room

theorem length_sign_lt {r : Option Reading} {r' : Reading} {c : Char} {text rest : List Char}
    (h : sign r text = some (r', rest)) : rest.length < (c :: text).length := by
  obtain ⟨_, _, eq⟩ := Option.map_eq_some_iff.1 h
  cases eq
  exact Nat.lt_succ_self _

theorem length_readTerm_lt {r r' : Reading} {text rest : List Char}
    (h : r.readTerm text = some (r', rest)) : rest.length < text.length := by
  unfold readTerm at h
  split at h
  · exact length_sign_lt h
  · exact length_sign_lt h
  all_goals
    simp only [Option.bind_eq_bind, Option.bind_eq_some_iff, Option.pure_def,
      Option.some.injEq] at h
  · obtain ⟨_, read, _, _, eq⟩ := h
    cases eq
    exact length_readString_lt read
  · obtain ⟨_, read, _, _, eq⟩ := h
    cases eq
    exact length_readString_lt read
  · obtain ⟨_, read, _, _, _, _, eq⟩ := h
    cases eq
    exact length_readBare_lt read

theorem length_readTarget_lt {r r' : Reading} {text rest : List Char}
    (h : r.readTarget text = some (r', rest)) : rest.length < text.length := by
  simp only [readTarget, Option.bind_eq_bind, Option.bind_eq_some_iff, Option.pure_def,
    Option.some.injEq] at h
  obtain ⟨_, read, _, _, eq⟩ := h
  cases eq
  exact length_readPath_lt read

theorem length_next_lt {r r' : Reading} {text rest : List Char}
    (h : r.next text = some (r', rest)) : rest.length < text.length := by
  unfold next at h
  split at h
  · obtain ⟨_, read, eq⟩ := Option.map_eq_some_iff.1 h
    cases eq
    exact length_readHeader_lt read
  · exact length_readTarget_lt h
  · cases h
  · cases h
    exact Nat.lt_succ_self _
  · cases h
  · exact length_readTerm_lt h
  · exact length_sign_lt h
  · exact length_readTerm_lt h
  · exact length_sign_lt h
  · exact length_readTarget_lt h
  · exact length_sign_lt h
  · exact length_sign_lt h
  · exact length_sign_lt h
  · cases h

/-- Reads on. Blanks, comments and breaks come one at a time. -/
def cutNext (r : Reading) (text : List Char) : Option (Cut text Reading) :=
  match text with
  | [] => none
  | c :: rest =>
    if isBlank c then some ⟨r, rest, Nat.lt_succ_self _⟩
    else if c = '#' ∧ r.allowsBreak then
      match comment : afterComment? rest with
      | none => none
      | some after => some ⟨r, after, Nat.lt_succ_of_le (length_afterComment_le comment)⟩
    else
      match lineBreak : afterBreak? (c :: rest) with
      | some after =>
        if r.allowsBreak then some ⟨r.newLine, after, length_afterBreak_lt lineBreak⟩ else none
      | none =>
        match found : r.next (c :: rest) with
        | none => none
        | some (r, after) => some ⟨r, after, length_next_lt found⟩

end Reading

def byteOrderMark : Char := '\uFEFF'

/-- The sections of a text. A byte order mark at the front does not count. -/
def sections? (text : String) : Option (List Section) := do
  let chars := text.toList
  let chars := if chars.head? = some byteOrderMark then chars.drop 1 else chars
  let reading ← Text.readPieces Reading.cutNext {} chars
  if reading.frames.isEmpty then some reading.allSections else none

end SchemaClasses.Toml
