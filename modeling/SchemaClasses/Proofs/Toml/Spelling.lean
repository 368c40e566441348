/-
How a TOML text spells a schema tree.

A text is a row of lines, and a line is a header, an assignment, or
nothing but blanks and a comment. Keys may be bare or quoted, values bare,
quoted or inline tables. This much says which statements a text makes.

Statements add up to a tree in more than one way too. What belongs to a
key may be assigned as one inline table or with dotted keys, or have
sections of its own. Whichever way is taken, the keys come in the order
of the tree; those with sections of their own come after the others.
-/
import SchemaClasses.Proofs.Schema.Tree
import SchemaClasses.Proofs.Text.Spelling
import SchemaClasses.Schema.Document
import SchemaClasses.Toml.Section

namespace SchemaClasses.Toml

variable {α : Type}

/-- A text of blanks, perhaps of none. -/
def IsGap (text : List Char) : Prop := ∀ c ∈ text, isBlank c = true

-- ====================================================== strings and keys

/-- How a character is spelled between double quotes: as it stands, or by an escape that names it
or gives its number. -/
inductive SpellsChar : List Char → Char → Prop
  | plain {c : Char} (allowed : isTextChar c = true) (notQuote : c ≠ '"') (notBackslash : c ≠ '\\') :
      SpellsChar [c] c
  | named {letter c : Char} (unnumbered : hexLength letter = 0) (name : escaped? letter = some c) :
      SpellsChar ['\\', letter] c
  | numbered {letter c : Char} {count : Nat} {digits : List Char}
      (length : hexLength letter = count + 1)
      (number : Text.charOfDigits? (count + 1) digits = some c) :
      SpellsChar ('\\' :: letter :: digits) c

/-- How a string is spelled on one line. -/
inductive SpellsString : List Char → String → Prop
  | basic {inside : List Char} {s : String} (row : Text.SpellsRow SpellsChar inside s.toList) :
      SpellsString ('"' :: inside ++ ['"']) s
  | literal {s : String} (allowed : ∀ c ∈ s.toList, isTextChar c = true ∧ c ≠ '\'') :
      SpellsString ('\'' :: s.toList ++ ['\'']) s

/-- How a key is spelled. -/
inductive SpellsKey : List Char → String → Prop
  | bare {key : String} (nonempty : key.toList ≠ []) (allowed : ∀ c ∈ key.toList, isKeyChar c = true) :
      SpellsKey key.toList key
  | quoted {text : List Char} {key : String} (string : SpellsString text key) : SpellsKey text key

/-- How a dotted key is spelled, with the blanks that follow its parts. -/
inductive SpellsPath : List Char → List String → Prop
  | single {text gap : List Char} {key : String} (own : SpellsKey text key) (after : IsGap gap) :
      SpellsPath (text ++ gap) [key]
  | cons {text gap gap' rest : List Char} {key : String} {path : List String}
      (own : SpellsKey text key) (after : IsGap gap) (before : IsGap gap')
      (others : SpellsPath rest path) : SpellsPath (text ++ gap ++ '.' :: gap' ++ rest) (key :: path)

/-- How many keys lead to a scalar of a tree, that of the container counted. -/
def deepestKey : Nat := 4

-- ============================================================== values

/-- How a scalar is spelled: as a string, or without quotes. -/
inductive SpellsScalar : List Char → Scalar → Prop
  | string {text : List Char} {s : String} (quoted : SpellsString text s) :
      SpellsScalar text (.string s)
  | bare {text : List Char} {scalar : Scalar} (nonempty : text ≠ [])
      (allowed : ∀ c ∈ text, endsBare c = false ∧ c ≠ '"' ∧ c ≠ '\'')
      (meaning : scalar? text = some scalar) : SpellsScalar text scalar

/-- How an assignment is spelled, without the blanks around it. -/
inductive SpellsAssignment (spells : List Char → Term → Prop) :
    List Char → List String × Term → Prop
  | intro {target gap value : List Char} {path : List String} {term : Term}
      (htarget : SpellsPath target path) (short : path.length ≤ deepestKey) (hgap : IsGap gap)
      (hvalue : spells value term) :
      SpellsAssignment spells (target ++ '=' :: gap ++ value) (path, term)

/-- How the inside of an inline table is spelled. -/
inductive SpellsInside (spells : List Char → Term → Prop) : List Char → Assignments → Prop
  | single {before text after : List Char} {assignment : List String × Term}
      (hbefore : IsGap before) (own : SpellsAssignment spells text assignment)
      (hafter : IsGap after) : SpellsInside spells (before ++ text ++ after) [assignment]
  | cons {before text after rest : List Char} {assignment : List String × Term}
      {more : Assignments} (hbefore : IsGap before) (own : SpellsAssignment spells text assignment)
      (hafter : IsGap after) (others : SpellsInside spells rest more) :
      SpellsInside spells (before ++ text ++ after ++ ',' :: rest) (assignment :: more)

/-- How a value is spelled in which inline tables lie at most so deep in each other. -/
def SpellsTerm : Nat → List Char → Term → Prop
  | 0, text, term => ∃ scalar, term = .scalar scalar ∧ SpellsScalar text scalar
  | depth + 1, text, term => SpellsTerm depth text term ∨
      ∃ inside assignments, term = .table assignments ∧ text = '{' :: inside ++ ['}'] ∧
        ((IsGap inside ∧ assignments = []) ∨ SpellsInside (SpellsTerm depth) inside assignments)

-- =============================================================== lines

/-- What a line says. -/
inductive Statement where
  | header (path : List String)
  | assignment (path : List String) (term : Term)

/-- How a statement is spelled. -/
inductive SpellsStatement : List Char → Statement → Prop
  | header {gap text : List Char} {path : List String} (hgap : IsGap gap)
      (own : SpellsPath text path) (short : path.length ≤ deepestKey) : SpellsStatement ('[' :: gap ++ text ++ [']']) (.header path)
  | assignment {text : List Char} {path : List String} {term : Term}
      (own : SpellsAssignment (SpellsTerm (deepestKey - 1)) text (path, term)) :
      SpellsStatement text (.assignment path term)

/-- A comment, or none. -/
inductive IsComment : List Char → Prop
  | none : IsComment []
  | comment {text : List Char} (allowed : ∀ c ∈ text, isTextChar c = true) : IsComment ('#' :: text)

/-- How a line is spelled up to its end: a statement or none, blanks, and perhaps a comment. -/
inductive SpellsLine : List Char → List Statement → Prop
  | empty {gap comment : List Char} (hgap : IsGap gap) (hcomment : IsComment comment) :
      SpellsLine (gap ++ comment) []
  | statement {before text after comment : List Char} {statement : Statement}
      (hbefore : IsGap before) (own : SpellsStatement text statement) (hafter : IsGap after)
      (hcomment : IsComment comment) : SpellsLine (before ++ text ++ after ++ comment) [statement]

/-- How statements are spelled by lines; the last line need not have an end. -/
inductive SpellsLines : List Char → List Statement → Prop
  | last {text : List Char} {statements : List Statement} (line : SpellsLine text statements) :
      SpellsLines text statements
  | cons {text ending rest : List Char} {statements more : List Statement}
      (line : SpellsLine text statements) (hending : ending = ['\n'] ∨ ending = ['\r', '\n'])
      (others : SpellsLines rest more) : SpellsLines (text ++ ending ++ rest) (statements ++ more)

-- ================================================== what statements say

/-- The sections that statements make up, the first of which has begun already. -/
def sectionsFrom (header : Header) (assignments : Assignments) : List Statement → List Section
  | [] => [⟨header, assignments⟩]
  | .assignment path term :: rest => sectionsFrom header (assignments ++ [(path, term)]) rest
  | .header path :: rest => ⟨header, assignments⟩ :: sectionsFrom (.table path) [] rest

/-- The sections that statements make up. -/
def sectionsOf (statements : List Statement) : List Section := sectionsFrom .root [] statements

/-- The scalar that a scalar of a tree is written as. -/
def Leaf.scalar : Leaf → Scalar
  | .text s => .string s
  | .whole n _ _ => .whole n
  | .bool b => .bool b

/-- Something at a path, seen from a table in which it lies under this key. -/
def under {γ : Type} (key : String) (placed : List String × γ) : List String × γ :=
  (key :: placed.1, placed.2)

/-- What is stated of keys, one after another. -/
inductive StatesKeys {γ : Type} (states : α → List (List String × γ) → Prop) :
    List (String × α) → List (List String × γ) → Prop
  | nil : StatesKeys states [] []
  | cons {key : String} {a : α} {own others : List (List String × γ)} {more : List (String × α)}
      (first : states a own) (rest : StatesKeys states more others) :
      StatesKeys states ((key, a) :: more) (own.map (under key) ++ others)

/-- What is assigned to a scalar. -/
def StatesLeaf (leaf : Leaf) (assignments : Assignments) : Prop :=
  assignments = [([], .scalar (Leaf.scalar leaf))]

/-- What is assigned to a mapping: an inline table, or all that is in it with dotted keys. -/
inductive StatesTable (states : α → Assignments → Prop) : Keyed α → Assignments → Prop
  | inline {k : Keyed α} {inside : Assignments} (entries : StatesKeys states k.entries inside) :
      StatesTable states k [([], .table inside)]
  | dotted {k : Keyed α} {assignments : Assignments} (nonempty : k.entries ≠ [])
      (entries : StatesKeys states k.entries assignments) : StatesTable states k assignments

/-- A section of a table: the path of its header within the table, and what is assigned there. -/
abbrev Part := List String × Assignments

/-- The sections of a mapping: its own, in which something is assigned to the first keys, and those
of the other keys. Its own can be left out if there are others and nothing is assigned in it. -/
inductive Sectioned (states : α → Assignments → Prop) (sectioned : α → List Part → Prop) :
    List (String × α) → List Part → Prop
  | own {front back : List (String × α)} {assignments : Assignments} {others : List Part}
      (assigned : StatesKeys states front assignments)
      (sections : StatesKeys sectioned back others) :
      Sectioned states sectioned (front ++ back) (([], assignments) :: others)
  | implied {entries : List (String × α)} {others : List Part} (nonempty : entries ≠ [])
      (sections : StatesKeys sectioned entries others) : Sectioned states sectioned entries others

def StatesColumn (column : Column) (assignments : Assignments) : Prop :=
  StatesTable StatesLeaf column assignments

def StatesDefinition (definition : Definition) (assignments : Assignments) : Prop :=
  StatesTable StatesColumn definition assignments

def StatesTree (tree : SchemaTree) (assignments : Assignments) : Prop :=
  StatesTable StatesDefinition tree assignments

def SectionedColumn (column : Column) (parts : List Part) : Prop :=
  Sectioned StatesLeaf (fun _ _ => False) column.entries parts

def SectionedDefinition (definition : Definition) (parts : List Part) : Prop :=
  Sectioned StatesColumn SectionedColumn definition.entries parts

def SectionedTree (tree : SchemaTree) (parts : List Part) : Prop :=
  Sectioned StatesDefinition SectionedDefinition tree.entries parts

/-- The section that a part is, where its table is the whole text. -/
def sectionOf (part : Part) : Section := ⟨.table part.1, part.2⟩

/-- The sections that list the entities of a tree: under the container's key something is assigned
in front of all headers, or it has sections. -/
inductive StatesDocument (tree : SchemaTree) : List Section → Prop
  | assigned {assignments : Assignments} (states : StatesTree tree assignments) :
      StatesDocument tree [⟨.root, assignments.map (under containerKey)⟩]
  | sectioned {parts : List Part} (sections : SectionedTree tree parts) :
      StatesDocument tree
        (⟨.root, []⟩ :: (parts.map (under containerKey)).map sectionOf)

/-- The text is a document that lists the entities of the tree. -/
inductive Spells : String → SchemaTree → Prop
  | document {text : List Char} {statements : List Statement} {tree : SchemaTree}
      (lines : SpellsLines text statements) (states : StatesDocument tree (sectionsOf statements)) :
      Spells (String.ofList text) tree

end SchemaClasses.Toml
