/-
Reading the tokens of a YAML text.
-/
import SchemaClasses.Yaml.Label
import SchemaClasses.Yaml.Layout

namespace SchemaClasses.Yaml

open Text (Cut)

/-- The signs no plain scalar starts with. -/
def indicators : List Char :=
  ['-', '?', ':', ',', '[', ']', '{', '}', '#', '&', '*', '!', '|', '>', '\'', '"', '%', '@', '\x60']

/-- A plain scalar starts here. A dash, a question mark or a colon may begin one if more follows. -/
def startsPlain (inFlow : Bool) (g : Glyph) (rest : List Glyph) : Bool :=
  (!isGap g.char && !indicators.contains g.char) ||
  (g.char == '-' && !endsWord rest) ||
  (!inFlow && (g.char == '?' || g.char == ':') && !endsWord rest)

namespace Layout

/-- A scalar that has been read is a token. -/
def scalar (s : Layout) (isPlain : Bool) (text : List Char) : Layout :=
  s.emit (.scalar isPlain (String.ofList text))

/-- A quoted scalar. -/
def quoted (s : Layout) (g : Glyph) (read : Option (List Char × List Glyph)) :
    Option (Layout × List Glyph) := do
  let s ← s.nodeStart g
  let (text, rest) ← read
  return (s.scalar false text, rest)

/-- A block scalar. A key may follow it. -/
def block (s : Layout) (folded : Bool) (rest : List Glyph) : Option (Layout × List Glyph) := do
  let s ← s.dropCandidate
  let (text, rest) ← readBlock folded s.columns.head? rest
  return ({ s with keyAllowed := true }.scalar false text, rest)

/-- A plain scalar. A key may follow it on another line. -/
def plain (s : Layout) (g : Glyph) (rest : List Glyph) : Option (Layout × List Glyph) := do
  let s ← s.nodeStart g
  let column := match s.columns with
    | [] => 0
    | innermost :: _ => innermost + 1
  let scalar ← readPlain s.inFlow column g.char rest
  return ({ s with keyAllowed := scalar.brokeLine }.scalar true scalar.text, scalar.rest)

/-- A tag, which must be set off from what follows it. -/
def tag (s : Layout) (g : Glyph) (rest : List Glyph) : Option (Layout × List Glyph) := do
  let s ← s.nodeStart g
  let ((handle, suffix), rest) ← readTag rest
  if endsWord rest || (s.inFlow && nextIs ',' rest) then some (s.emit (.tag handle suffix), rest)
  else none

/-- An anchor or an alias. -/
def name (s : Layout) (g : Glyph) (token : String → Token) (rest : List Glyph) :
    Option (Layout × List Glyph) := do
  let s ← s.nodeStart g
  let (name, rest) ← readAnchor rest
  return (s.emit (token name), rest)

/-- A sign that is a token by itself. -/
def sign (s : Option Layout) (rest : List Glyph) : Option (Layout × List Glyph) :=
  s.map (·, rest)

/-- The token that starts at a glyph, and what follows it. -/
def next (s : Layout) (g : Glyph) (rest : List Glyph) : Option (Layout × List Glyph) :=
  if g.column = 0 ∧ g.char = '%' then do
    let (directive, rest) ← readDirective rest
    return (← s.edge directive, rest)
  else if startsMarkerOf '-' (g :: rest) then sign (s.edge .documentStart) (rest.drop 2)
  else if startsMarkerOf '.' (g :: rest) then sign (s.edge .documentEnd) (rest.drop 2)
  else
    match g.char with
    | '[' => sign (s.openFlow g .openFlowSequence) rest
    | '{' => sign (s.openFlow g .openFlowMapping) rest
    | ']' => sign (s.closeFlow .closeFlowSequence) rest
    | '}' => sign (s.closeFlow .closeFlowMapping) rest
    | ',' => sign s.comma rest
    | '*' => s.name g .alias rest
    | '&' => s.name g .anchor rest
    | '!' => s.tag g rest
    | '\'' => s.quoted g (readSingleQuoted rest)
    | '"' => s.quoted g (readDoubleQuoted rest)
    | c =>
      if c = '-' ∧ endsWord rest then sign (s.entry g) rest
      else if c = '?' ∧ (s.inFlow ∨ endsWord rest) then sign (s.key g) rest
      else if c = ':' ∧ (s.inFlow ∨ endsWord rest) then sign (s.value g) rest
      else if c = '|' ∧ ¬s.inFlow then s.block false rest
      else if c = '>' ∧ ¬s.inFlow then s.block true rest
      else if startsPlain s.inFlow g rest then s.plain g rest
      else none

-- ======================================= a token takes a glyph at least

theorem length_sign_le {s : Option Layout} {s' : Layout} {rest after : List Glyph}
    (h : sign s rest = some (s', after)) : after.length ≤ rest.length := by
  obtain ⟨_, _, eq⟩ := Option.map_eq_some_iff.1 h
  cases eq
  exact Nat.le_refl _

theorem length_quoted_le {s s' : Layout} {g : Glyph} {rest after : List Glyph}
    {read : Option (List Char × List Glyph)}
    (shorter : ∀ {scalar after}, read = some (scalar, after) → after.length ≤ rest.length)
    (h : s.quoted g read = some (s', after)) : after.length ≤ rest.length := by
  simp only [quoted, Option.bind_eq_bind, Option.bind_eq_some_iff, Option.pure_def,
    Option.some.injEq] at h
  obtain ⟨_, _, _, read, eq⟩ := h
  cases eq
  exact shorter read

theorem length_block_le {s s' : Layout} {folded : Bool} {rest after : List Glyph}
    (h : s.block folded rest = some (s', after)) : after.length ≤ rest.length := by
  simp only [block, Option.bind_eq_bind, Option.bind_eq_some_iff, Option.pure_def,
    Option.some.injEq] at h
  obtain ⟨_, _, _, read, eq⟩ := h
  cases eq
  exact length_readBlock_le read

theorem length_plain_le {s s' : Layout} {g : Glyph} {rest after : List Glyph}
    (h : s.plain g rest = some (s', after)) : after.length ≤ rest.length := by
  simp only [plain, Option.bind_eq_bind, Option.bind_eq_some_iff, Option.pure_def,
    Option.some.injEq] at h
  obtain ⟨_, _, _, read, eq⟩ := h
  cases eq
  exact length_readPlain_le read

theorem length_tag_le {s s' : Layout} {g : Glyph} {rest after : List Glyph}
    (h : s.tag g rest = some (s', after)) : after.length ≤ rest.length := by
  simp only [tag, Option.bind_eq_bind, Option.bind_eq_some_iff, Option.ite_none_right_eq_some,
    Option.some.injEq] at h
  obtain ⟨_, _, _, read, _, eq⟩ := h
  cases eq
  exact length_readTag_le read

theorem length_name_le {s s' : Layout} {g : Glyph} {token : String → Token}
    {rest after : List Glyph} (h : s.name g token rest = some (s', after)) :
    after.length ≤ rest.length := by
  simp only [name, Option.bind_eq_bind, Option.bind_eq_some_iff, Option.pure_def,
    Option.some.injEq] at h
  obtain ⟨_, _, _, read, eq⟩ := h
  cases eq
  exact length_readAnchor_le read

/-- What follows a token is no longer than what follows its first glyph. -/
theorem length_next_le {s s' : Layout} {g : Glyph} {rest after : List Glyph}
    (h : s.next g rest = some (s', after)) : after.length ≤ rest.length := by
  unfold next at h
  split at h
  · simp only [Option.bind_eq_bind, Option.bind_eq_some_iff, Option.pure_def,
      Option.some.injEq] at h
    obtain ⟨_, read, _, _, eq⟩ := h
    cases eq
    exact length_readDirective_le read
  split at h
  · exact Nat.le_trans (length_sign_le h) (Text.length_drop_le ..)
  split at h
  · exact Nat.le_trans (length_sign_le h) (Text.length_drop_le ..)
  split at h
  · exact length_sign_le h
  · exact length_sign_le h
  · exact length_sign_le h
  · exact length_sign_le h
  · exact length_sign_le h
  · exact length_name_le h
  · exact length_name_le h
  · exact length_tag_le h
  · exact length_quoted_le length_readSingleQuoted_le h
  · exact length_quoted_le length_readDoubleQuoted_le h
  split at h
  · exact length_sign_le h
  split at h
  · exact length_sign_le h
  split at h
  · exact length_sign_le h
  split at h
  · exact length_block_le h
  split at h
  · exact length_block_le h
  split at h
  · exact length_plain_le h
  · cases h

end Layout

def byteOrderMark : Char := '\uFEFF'

/--
A character that only takes up a place: a blank, though no tab where a key may start, or a byte
order mark at the start of a line.
-/
def isSkipped (s : Layout) (g : Glyph) : Bool :=
  g.char = ' ' ∨ (g.char = '\t' ∧ (s.inFlow ∨ ¬s.keyAllowed)) ∨
    (g.char = byteOrderMark ∧ g.column = 0)

/-- Reads on up to the end of the next token. Blanks, comments and breaks come one at a time. -/
def cutToken (s : Layout) : (text : List Glyph) → Option (Cut text Layout)
  | [] => none
  | g :: rest =>
    if isSkipped s g then some ⟨s, rest, Nat.lt_succ_self _⟩
    else if g.char = '#' then
      some ⟨s, toLineEnd rest, Nat.lt_succ_of_le (length_toLineEnd_le rest)⟩
    else if isBreak g.char then some ⟨s.lineEnd, rest, Nat.lt_succ_self _⟩
    else
      match s.refreshAll g with
      | none => none
      | some s =>
        match token : (s.dedentTo (some g.column)).next g rest with
        | none => none
        | some (s, after) => some ⟨s, after, Nat.lt_succ_of_le (Layout.length_next_le token)⟩

/-- The tokens of a text, in order. -/
def tokens? (text : String) : Option (List Token) := do
  let glyphs ← glyphs? text
  let layout ← Text.readPieces cutToken {} glyphs
  layout.finish

end SchemaClasses.Yaml
