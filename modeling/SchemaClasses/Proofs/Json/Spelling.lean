/-
How a JSON text spells a schema tree.

Strings may be spelled with escapes, blanks may stand around every part,
and the members of an object come in the order of the keys. Whole numbers
have one spelling only.
-/
import SchemaClasses.Proofs.Lexical.UnicodeEscape
import SchemaClasses.Proofs.Schema.Tree
import SchemaClasses.Proofs.Text.Digits
import SchemaClasses.Proofs.Text.Spelling
import SchemaClasses.Json.Token
import SchemaClasses.Schema.Document

namespace SchemaClasses.Json

variable {α : Type}

/-- The characters that mean nothing between two tokens. -/
def blanks : List Char := [' ', '\t', '\n', '\r']

/-- A text of blanks, perhaps of none. -/
def IsGap (text : List Char) : Prop := ∀ c ∈ text, c ∈ blanks

-- =========================================================== strings

/-- The escape of a code unit by its number. -/
inductive SpellsUnit : List Char → Nat → Prop
  | escape {a b c d : Char} {unit : Nat} (number : Text.natural? 16 [a, b, c, d] = some unit) :
      SpellsUnit ['\\', 'u', a, b, c, d] unit

/-- How a character is spelled inside a string: as it stands, by a short escape, or by the escapes
of its code units. -/
inductive SpellsChar : List Char → Char → Prop
  | plain {c : Char} (notControl : 0x20 ≤ c.toNat) (notQuote : c ≠ '"') (notBackslash : c ≠ '\\') :
      SpellsChar [c] c
  | short {letter c : Char} (named : escaped? letter = some c) : SpellsChar ['\\', letter] c
  | units {text : List Char} {c : Char} (row : Text.SpellsRow SpellsUnit text (Lexical.charUnits c)) :
      SpellsChar text c

/-- How a string is spelled. -/
inductive SpellsString : List Char → String → Prop
  | quoted {inside : List Char} {s : String} (row : Text.SpellsRow SpellsChar inside s.toList) :
      SpellsString ('"' :: inside ++ ['"']) s

-- ============================================================= values

/-- How a scalar is spelled. -/
inductive SpellsLeaf : List Char → Leaf → Prop
  | text {chars : List Char} {s : String} (string : SpellsString chars s) : SpellsLeaf chars (.text s)
  | whole {n : Int} (least : -0x8000000000000000 ≤ n) (greatest : n < 0x8000000000000000) :
      SpellsLeaf (Text.decimal n) (.whole n least greatest)
  | true : SpellsLeaf "true".toList (.bool true)
  | false : SpellsLeaf "false".toList (.bool false)

/-- How a member of an object is spelled, with the blanks around its parts. -/
inductive SpellsMember (spells : List Char → α → Prop) : List Char → String × α → Prop
  | intro {before name beforeColon afterColon value after : List Char} {key : String} {a : α}
      (hbefore : IsGap before) (hname : SpellsString name key) (hbeforeColon : IsGap beforeColon)
      (hafterColon : IsGap afterColon) (hvalue : spells value a) (hafter : IsGap after) :
      SpellsMember spells
        (before ++ name ++ beforeColon ++ ':' :: afterColon ++ value ++ after) (key, a)

/-- How the members of an object are spelled, a comma between each two. -/
inductive SpellsMembers (spells : List Char → α → Prop) : List Char → List (String × α) → Prop
  | single {text : List Char} {entry : String × α} (member : SpellsMember spells text entry) :
      SpellsMembers spells text [entry]
  | cons {text rest : List Char} {entry : String × α} {more : List (String × α)}
      (member : SpellsMember spells text entry) (others : SpellsMembers spells rest more) :
      SpellsMembers spells (text ++ ',' :: rest) (entry :: more)

/-- How keys in an order are spelled: by the members of an object in this order. -/
inductive SpellsObject (spells : List Char → α → Prop) : List Char → List (String × α) → Prop
  | empty {inside : List Char} (gap : IsGap inside) :
      SpellsObject spells ('{' :: inside ++ ['}']) []
  | members {inside : List Char} {entries : List (String × α)}
      (row : SpellsMembers spells inside entries) :
      SpellsObject spells ('{' :: inside ++ ['}']) entries

def SpellsColumn (text : List Char) (column : Column) : Prop :=
  SpellsObject SpellsLeaf text column.entries

def SpellsDefinition (text : List Char) (definition : Definition) : Prop :=
  SpellsObject SpellsColumn text definition.entries

def SpellsTree (text : List Char) (tree : SchemaTree) : Prop :=
  SpellsObject SpellsDefinition text tree.entries

/-- The text is a document that lists the entities of the tree. -/
inductive Spells : String → SchemaTree → Prop
  | document {before text after : List Char} {tree : SchemaTree} (hbefore : IsGap before)
      (root : SpellsObject SpellsTree text [(containerKey, tree)]) (hafter : IsGap after) :
      Spells (String.ofList (before ++ text ++ after)) tree

end SchemaClasses.Json
