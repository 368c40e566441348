/-
How a YAML text spells a schema tree.

A mapping is written as an indented block, one key per line, or in braces
like one of JSON; what lies in braces stays in braces. Keys and scalars
are plain or quoted and stand on one line. Between the parts of a text
there may be blanks, breaks and comments.

A key of a block is only known for one by the colon after it, which has to
come on the same line and soon. In braces a question mark can announce the
key instead, and then it may be of any length.
-/
import SchemaClasses.Proofs.Schema.Tree
import SchemaClasses.Proofs.Text.Spelling
import SchemaClasses.Schema.Document
import SchemaClasses.Yaml.Lexeme
import SchemaClasses.Yaml.Meaning

namespace SchemaClasses.Yaml

variable {α : Type}

-- ============================================================ between

/-- What may stand between the parts of a text, and whether a key may start before and after it:
one may after a break. No tab stands where a key may start. -/
inductive IsFill : Bool → List Char → Bool → Prop
  | nil {allowed : Bool} : IsFill allowed [] allowed
  | space {allowed after : Bool} {rest : List Char} (others : IsFill allowed rest after) :
      IsFill allowed (' ' :: rest) after
  | tab {after : Bool} {rest : List Char} (others : IsFill false rest after) :
      IsFill false ('\t' :: rest) after
  | lineBreak {allowed after : Bool} {rest : List Char} (others : IsFill true rest after) :
      IsFill allowed ('\n' :: rest) after
  | comment {allowed after : Bool} {text rest : List Char}
      (oneLine : ∀ c ∈ text, isBreak c = false) (others : IsFill true rest after) :
      IsFill allowed ('#' :: text ++ '\n' :: rest) after

/-- What may stand after a part of a text; a comment is set off from the part. -/
def Separates (fill : List Char) (after : Bool) : Prop :=
  IsFill false fill after ∧ fill.head? ≠ some '#'

/-- A text of blanks. -/
def IsGap (text : List Char) : Prop := ∀ c ∈ text, isBlank c = true

/-- The break before a line, what may stand before the break, and the spaces the line begins with. -/
inductive IsIndent (column : Nat) : List Char → Prop
  | intro {fill : List Char} {after : Bool} (separates : Separates fill after) :
      IsIndent column (fill ++ '\n' :: List.replicate column ' ')

-- ============================================================= quoted

/-- How a character is spelled between double quotes. -/
inductive SpellsChar : List Char → Char → Prop
  | plain {c : Char} (oneLine : isBreak c = false) (notQuote : c ≠ '"') (notBackslash : c ≠ '\\') :
      SpellsChar [c] c
  | named {letter c : Char} (unnumbered : hexLength letter = 0) (name : escaped? letter = some c) :
      SpellsChar ['\\', letter] c
  | numbered {letter c : Char} {count : Nat} {digits : List Char}
      (length : hexLength letter = count + 1)
      (number : Text.charOfDigits? (count + 1) digits = some c) :
      SpellsChar ('\\' :: letter :: digits) c

/-- How a character is spelled between single quotes. -/
inductive SpellsLiteral : List Char → Char → Prop
  | plain {c : Char} (oneLine : isBreak c = false) (notQuote : c ≠ '\'') : SpellsLiteral [c] c
  | quote : SpellsLiteral ['\'', '\''] '\''

/-- How a string is spelled in quotes. -/
inductive SpellsQuoted : List Char → String → Prop
  | double {inside : List Char} {s : String} (row : Text.SpellsRow SpellsChar inside s.toList) :
      SpellsQuoted ('"' :: inside ++ ['"']) s
  | single {inside : List Char} {s : String} (row : Text.SpellsRow SpellsLiteral inside s.toList) :
      SpellsQuoted ('\'' :: inside ++ ['\'']) s

-- ============================================================== plain

/-- A word, or what is left of one, that stands without quotes: no colon ends it. -/
inductive IsWord (inFlow : Bool) : List Char → Prop
  | nil : IsWord inFlow []
  | cons {c : Char} {rest : List Char} (notGap : isGap c = false)
      (notIndicator : inFlow = true → c ∉ flowIndicators)
      (colon : c = ':' → ∃ d more, rest = d :: more ∧ (inFlow = true → d ≠ '?'))
      (others : IsWord inFlow rest) : IsWord inFlow (c :: rest)

/-- More words after the first one: a number sign would start a comment. -/
inductive IsWords (inFlow : Bool) : List Char → Prop
  | nil : IsWords inFlow []
  | cons {gap word rest : List Char} {c : Char} (hgap : IsGap gap) (nonempty : gap ≠ [])
      (own : IsWord inFlow (c :: word)) (notComment : c ≠ '#') (others : IsWords inFlow rest) :
      IsWords inFlow (gap ++ c :: word ++ rest)

/-- A word that goes on like this may start with the character. -/
def Starts (inFlow : Bool) (c : Char) (word : List Char) : Prop :=
  isGap c = false ∧ c ≠ byteOrderMark ∧
    (c ∉ indicators ∨ word ≠ [] ∧ (c = '-' ∨ inFlow = false ∧ (c = '?' ∨ c = ':')))

/-- A text that stands without quotes, and is not mistaken for the start or end of a document. -/
inductive IsPlain (inFlow : Bool) : List Char → Prop
  | intro {c : Char} {word more : List Char} (starts : Starts inFlow c word)
      (own : IsWord inFlow word) (others : IsWords inFlow more)
      (noMarker : (c :: word ++ more).take 3 ≠ ['-', '-', '-'] ∧
        (c :: word ++ more).take 3 ≠ ['.', '.', '.']) :
      IsPlain inFlow (c :: word ++ more)

/-- How a scalar is spelled, plain or not, and its text. -/
inductive SpellsScalar (inFlow : Bool) : Bool → List Char → String → Prop
  | plain {s : String} (h : IsPlain inFlow s.toList) : SpellsScalar inFlow true s.toList s
  | quoted {text : List Char} {s : String} (h : SpellsQuoted text s) :
      SpellsScalar inFlow false text s

/-- How a scalar of a tree is spelled. -/
inductive SpellsLeaf (inFlow : Bool) : List Char → Leaf → Prop
  | plain {text : List Char} {s : String} {leaf : Leaf} (h : SpellsScalar inFlow true text s)
      (meaning : plainValue? s = some leaf.value) : SpellsLeaf inFlow text leaf
  | quoted {text : List Char} {s : String} (h : SpellsScalar inFlow false text s) :
      SpellsLeaf inFlow text (.text s)

-- ============================================================ in braces

/-- How many bytes a text takes up. -/
def bytes : List Char → Nat
  | [] => 0
  | c :: rest => c.utf8Size + bytes rest

/-- A colon comes after so few bytes that what is before it can be a key. -/
def IsShort (text : List Char) : Prop := bytes text ≤ Layout.longestKey

instance {text : List Char} : Decidable (IsShort text) := inferInstanceAs (Decidable (_ ≤ _))

/-- How an entry is spelled in braces. The colon is set off from a value after a plain key. -/
inductive SpellsPair (spells : List Char → α → Prop) : List Char → String × α → Prop
  | implicit {plain after : Bool} {key gap fill value : List Char} {name : String} {a : α}
      (hkey : SpellsScalar true plain key name) (hgap : IsGap gap) (short : IsShort (key ++ gap))
      (separates : Separates fill after) (apart : plain = true → fill ≠ [])
      (hvalue : spells value a) :
      SpellsPair spells (key ++ gap ++ ':' :: fill ++ value) (name, a)
  | announced {plain after after' after'' : Bool} {before key gap fill value : List Char}
      {name : String} {a : α} (hbefore : Separates before after) (nonempty : before ≠ [])
      (hkey : SpellsScalar true plain key name) (hgap : Separates gap after')
      (separates : Separates fill after'') (apart : plain = true → fill ≠ [])
      (hvalue : spells value a) :
      SpellsPair spells ('?' :: before ++ key ++ gap ++ ':' :: fill ++ value) (name, a)

/-- How entries are spelled between braces. -/
inductive SpellsPairs (spells : List Char → α → Prop) : List Char → List (String × α) → Prop
  | single {before text after : List Char} {b b' : Bool} {entry : String × α}
      (hbefore : Separates before b) (own : SpellsPair spells text entry)
      (hafter : Separates after b') : SpellsPairs spells (before ++ text ++ after) [entry]
  | cons {before text after rest : List Char} {b b' : Bool} {entry : String × α}
      {more : List (String × α)} (hbefore : Separates before b)
      (own : SpellsPair spells text entry) (hafter : Separates after b')
      (others : SpellsPairs spells rest more) :
      SpellsPairs spells (before ++ text ++ after ++ ',' :: rest) (entry :: more)

/-- How a mapping is spelled in braces. -/
inductive SpellsBraces (spells : List Char → α → Prop) : List Char → Keyed α → Prop
  | empty {fill : List Char} {after : Bool} {k : Keyed α} (separates : Separates fill after)
      (nothing : k.entries = []) : SpellsBraces spells ('{' :: fill ++ ['}']) k
  | entries {inside : List Char} {k : Keyed α} (pairs : SpellsPairs spells inside k.entries) :
      SpellsBraces spells ('{' :: inside ++ ['}']) k

-- ============================================================= in blocks

/-- How the lines of a block at a column are spelled. What is said of a value depends on the column,
and what spells it begins right after the colon. -/
inductive SpellsBlock (spells : Nat → List Char → α → Prop) (column : Nat) :
    List Char → List (String × α) → Prop
  | single {plain : Bool} {key gap value : List Char} {name : String} {a : α}
      (hkey : SpellsScalar false plain key name) (hgap : IsGap gap) (short : IsShort (key ++ gap))
      (hvalue : spells column value a) :
      SpellsBlock spells column (key ++ gap ++ ':' :: value) [(name, a)]
  | cons {plain : Bool} {key gap value indent rest : List Char} {name : String} {a : α}
      {more : List (String × α)} (hkey : SpellsScalar false plain key name) (hgap : IsGap gap)
      (short : IsShort (key ++ gap)) (hvalue : spells column value a)
      (hindent : IsIndent column indent) (others : SpellsBlock spells column rest more) :
      SpellsBlock spells column (key ++ gap ++ ':' :: value ++ indent ++ rest) ((name, a) :: more)

/-- How a scalar is spelled after a key of a block. -/
inductive SpellsBlockLeaf : Nat → List Char → Leaf → Prop
  | intro {column : Nat} {gap text : List Char} {leaf : Leaf} (hgap : IsGap gap)
      (nonempty : gap ≠ []) (own : SpellsLeaf false text leaf) :
      SpellsBlockLeaf column (gap ++ text) leaf

/-- How a mapping is spelled after a key of a block: in braces, or as a block of its own. -/
inductive SpellsBlockMapping (braces : List Char → α → Prop) (spells : Nat → List Char → α → Prop) :
    Nat → List Char → Keyed α → Prop
  | braces {column : Nat} {gap text : List Char} {k : Keyed α} (hgap : IsGap gap)
      (nonempty : gap ≠ []) (own : SpellsBraces braces text k) :
      SpellsBlockMapping braces spells column (gap ++ text) k
  | block {outer column : Nat} {indent text : List Char} {k : Keyed α} (deeper : outer < column)
      (hindent : IsIndent column indent) (lines : SpellsBlock spells column text k.entries) :
      SpellsBlockMapping braces spells outer (indent ++ text) k

-- ========================================================= schema trees

def SpellsBracedColumn : List Char → Column → Prop := SpellsBraces (SpellsLeaf true)

def SpellsBracedDefinition : List Char → Definition → Prop := SpellsBraces SpellsBracedColumn

def SpellsBlockColumn : Nat → List Char → Column → Prop :=
  SpellsBlockMapping (SpellsLeaf true) SpellsBlockLeaf

def SpellsBlockDefinition : Nat → List Char → Definition → Prop :=
  SpellsBlockMapping SpellsBracedColumn SpellsBlockColumn

def SpellsBlockTree : Nat → List Char → SchemaTree → Prop :=
  SpellsBlockMapping SpellsBracedDefinition SpellsBlockDefinition

-- =========================================================== documents

/-- Lines with nothing but comments, perhaps none. -/
inductive IsFront : List Char → Prop
  | nil : IsFront []
  | lines {fill : List Char} (h : IsFill true fill true) : IsFront (fill ++ ['\n'])

/-- What may stand before the root of a document: such lines, and perhaps the marker of its start. -/
inductive IsOpening : Bool → List Char → Prop
  | unmarked {front : List Char} (h : IsFront front) : IsOpening false front
  | marked {front fill : List Char} {after : Bool} (h : IsFront front)
      (separates : Separates fill after) :
      IsOpening true (front ++ '-' :: '-' :: '-' :: fill ++ ['\n'])

/-- What may stand after the root of a document; the last line need not have an end. -/
inductive IsClosing : List Char → Prop
  | fill {fill : List Char} {after : Bool} (separates : Separates fill after) : IsClosing fill
  | comment {fill text : List Char} {after : Bool} (separates : Separates fill after)
      (nonempty : fill ≠ []) (oneLine : ∀ c ∈ text, isBreak c = false) :
      IsClosing (fill ++ '#' :: text)

/-- A document, its line ends unified, whose root binds the tree to the container's key. -/
inductive SpellsDocument : List Char → SchemaTree → Prop
  | intro {marked : Bool} {opening text closing : List Char} {column : Nat} {tree : SchemaTree}
      (hopening : IsOpening marked opening)
      (root : SpellsBlock SpellsBlockTree column text [(containerKey, tree)])
      (hclosing : IsClosing closing) :
      SpellsDocument (opening ++ List.replicate column ' ' ++ text ++ closing) tree

/-- The text is a document that lists the entities of the tree. -/
def Spells (text : String) (tree : SchemaTree) : Prop :=
  text.toList.all isPermitted = true ∧ SpellsDocument (unifyBreaks text.toList) tree

end SchemaClasses.Yaml
