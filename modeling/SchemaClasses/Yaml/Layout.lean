/-
Where tokens stand, and the structure that follows from it.

A key is only recognised by the colon after it. So where a key may
start, the place is kept as a candidate, and when the colon comes the
key token is put in there, with the opening of a mapping before it if
the column is a new one. A candidate goes stale at the end of its line.
Every level of brackets and braces has a candidate of its own; inside
them indentation means nothing.
-/
import SchemaClasses.Yaml.Token
import SchemaClasses.Yaml.Glyph

namespace SchemaClasses.Yaml

/-- A place that becomes a key if a colon follows. -/
structure Candidate where
  /-- How many tokens there are before it. -/
  place : Nat
  line : Nat
  column : Nat
  /-- How many bytes come before it in its line. -/
  offset : Nat
  /-- Nothing but a key may stand here. -/
  required : Bool

/-- The tokens up to some place in a text, and what they leave open. -/
structure Layout where
  /-- The tokens, the latest first. -/
  tokens : List Token := []
  /-- How many tokens there are. -/
  count : Nat := 0
  /-- The columns of the open block collections, the innermost first. -/
  columns : List Nat := []
  /-- The candidate of the current level. -/
  candidate : Option Candidate := none
  /-- The candidates of the levels around the current one. -/
  enclosing : List (Option Candidate) := []
  /-- A key may start here. -/
  keyAllowed : Bool := true

namespace Layout

/-- Within brackets or braces. -/
def inFlow (s : Layout) : Bool := !s.enclosing.isEmpty

/-- Appends a token. -/
def emit (s : Layout) (token : Token) : Layout :=
  { s with tokens := token :: s.tokens, count := s.count + 1 }

/-- Puts a token in, so that `place` tokens come before it. -/
def emitAt (s : Layout) (place : Nat) (token : Token) : Layout :=
  let later := s.count - place
  { s with
    tokens := s.tokens.take later ++ token :: s.tokens.drop later
    count := s.count + 1 }

-- ========================================================= candidates

/-- Gives up the candidate of the current level; not possible if it is required. -/
def dropCandidate (s : Layout) : Option Layout :=
  if (s.candidate.map (·.required)).getD false then none else some { s with candidate := none }

/-- Makes the current place the candidate of its level, if a key may start here. -/
def offerCandidate (s : Layout) (g : Glyph) : Option Layout :=
  if s.keyAllowed then do
    let s ← s.dropCandidate
    let required := !s.inFlow && s.columns.head? == some g.column
    return { s with candidate := some ⟨s.count, g.line, g.column, g.offset, required⟩ }
  else some s

/-- How many bytes after the start of a key its colon may come. -/
def longestKey : Nat := 1024

/-- A candidate seen from a later place: a stale one is none, and an error if it is required. -/
def refresh (g : Glyph) : Option Candidate → Option (Option Candidate)
  | none => some none
  | some c =>
    if c.line < g.line ∨ c.offset + longestKey < g.offset then
      if c.required then none else some none
    else some (some c)

/-- Gives up the candidates that have gone stale. -/
def refreshAll (s : Layout) (g : Glyph) : Option Layout := do
  let candidate ← refresh g s.candidate
  let enclosing ← s.enclosing.mapM (refresh g)
  return { s with candidate, enclosing }

-- ======================================================= indentation

/-- Opens a block collection at a column, unless the innermost one is there already. -/
def indentTo (s : Layout) (column : Nat) (place : Nat) (opening : Token) : Layout :=
  let isDeeper := match s.columns with
    | [] => true
    | innermost :: _ => innermost < column
  if !s.inFlow && isDeeper then { s.emitAt place opening with columns := column :: s.columns }
  else s

/-- Closes the block collections that start right of a column; without a column all of them. -/
def dedentTo (s : Layout) (column : Option Nat) : Layout :=
  let isRight := fun c => match column with
    | none => true
    | some column => column < c
  if s.inFlow then s
  else
    (s.columns.takeWhile isRight).foldl (fun s _ => s.emit .closeBlock)
      { s with columns := s.columns.dropWhile isRight }

-- ====================================================== kinds of token

/-- A token at the left edge that belongs to no collection. -/
def edge (s : Layout) (token : Token) : Option Layout := do
  let s ← (s.dedentTo none).dropCandidate
  return { s with keyAllowed := false }.emit token

/-- The start of a node, or what is said about one in front of it. -/
def nodeStart (s : Layout) (g : Glyph) : Option Layout := do
  return { ← s.offerCandidate g with keyAllowed := false }

/-- A bracket or brace opens. -/
def openFlow (s : Layout) (g : Glyph) (token : Token) : Option Layout := do
  let s ← s.offerCandidate g
  return { s with
    candidate := none
    enclosing := s.candidate :: s.enclosing
    keyAllowed := true }.emit token

/-- A bracket or brace closes. -/
def closeFlow (s : Layout) (token : Token) : Option Layout := do
  let s ← s.dropCandidate
  return { s with
    candidate := s.enclosing.head?.getD none
    enclosing := s.enclosing.drop 1
    keyAllowed := false }.emit token

def comma (s : Layout) : Option Layout := do
  return { ← s.dropCandidate with keyAllowed := true }.emit .comma

/-- The dash before an item. Inside brackets and braces it is a token too, though none that fits. -/
def entry (s : Layout) (g : Glyph) : Option Layout := do
  guard (s.inFlow || s.keyAllowed)
  let s ← (s.indentTo g.column s.count .openBlockSequence).dropCandidate
  return { s with keyAllowed := true }.emit .entry

/-- The question mark before a key. -/
def key (s : Layout) (g : Glyph) : Option Layout := do
  guard (s.inFlow || s.keyAllowed)
  let s ← (s.indentTo g.column s.count .openBlockMapping).dropCandidate
  return { s with keyAllowed := !s.inFlow }.emit .key

/-- The colon after a key. -/
def value (s : Layout) (g : Glyph) : Option Layout :=
  match s.candidate with
  | some c =>
    let s := (s.emitAt c.place .key).indentTo c.column c.place .openBlockMapping
    some ({ s with candidate := none, keyAllowed := false }.emit .value)
  | none => do
    guard (s.inFlow || s.keyAllowed)
    let s := s.indentTo g.column s.count .openBlockMapping
    return { s with keyAllowed := !s.inFlow }.emit .value

/-- A break ends a line. -/
def lineEnd (s : Layout) : Layout := { s with keyAllowed := s.keyAllowed || !s.inFlow }

/-- All tokens, at the end of the text. -/
def finish (s : Layout) : Option (List Token) :=
  (s.dedentTo none).dropCandidate.map fun s => s.tokens.reverse

end Layout

end SchemaClasses.Yaml
