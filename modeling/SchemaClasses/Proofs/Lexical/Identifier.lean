/-
Identifiers of the generated language, as the language defines them.

The language speaks of general categories: an identifier starts with a
letter, a letter number, a currency sign or a connector, goes on with
these, digits and marks, and may hold signs that do not count. It is no
keyword and no literal.

The names that this library lets through are checked by other classes
of characters, which were made for text and not for names. No keyword
and no literal gets through. But vowel signs count as letters there, so
they can start a name, and so do circled letters; superscripts and
fractions count as numerals. A name that is let through is an
identifier of the language exactly if it holds none of these where the
language does not want them (`isIdentifier_iff_isRegular`).
-/
import SchemaClasses.Proofs.Naming.CamelCase
import SchemaClasses.Proofs.Text.Category

namespace SchemaClasses.Lexical

open Text (GeneralCategory generalCategory)

-- ========================================================== characters

/-- The categories of the characters that an identifier may start with. -/
def startingCategories : List GeneralCategory := [.letter, .letterNumber, .currency, .connector]

/-- The characters an identifier may start with. -/
def StartsIdentifier (c : Char) : Prop := generalCategory c ∈ startingCategories

/-- The characters that an identifier may hold and that do not count: those of the category Cf, and
control characters that are no blanks. -/
def IsIgnorable (c : Char) : Prop :=
  generalCategory c = .format ∨
    generalCategory c = .control ∧ ¬('\x09' ≤ c ∧ c ≤ '\x0D') ∧ ¬('\x1C' ≤ c ∧ c ≤ '\x1F')

/-- The characters an identifier may go on with. -/
def ContinuesIdentifier (c : Char) : Prop :=
  StartsIdentifier c ∨ generalCategory c ∈ [.digit, .mark] ∨ IsIgnorable c

instance : DecidablePred StartsIdentifier := fun c =>
  inferInstanceAs (Decidable (generalCategory c ∈ startingCategories))

instance : DecidablePred IsIgnorable := fun c =>
  inferInstanceAs (Decidable (generalCategory c = .format ∨
    generalCategory c = .control ∧ ¬('\x09' ≤ c ∧ c ≤ '\x0D') ∧ ¬('\x1C' ≤ c ∧ c ≤ '\x1F')))

instance : DecidablePred ContinuesIdentifier := fun c =>
  inferInstanceAs (Decidable (StartsIdentifier c ∨ generalCategory c ∈ [.digit, .mark] ∨
    IsIgnorable c))

-- ========================================================= identifiers

/-- The words that the language keeps for itself. -/
def keywords : List String := [
  "abstract", "continue", "for", "new", "switch", "assert", "default", "if", "package",
  "synchronized", "boolean", "do", "goto", "private", "this", "break", "double", "implements",
  "protected", "throw", "byte", "else", "import", "public", "throws", "case", "enum", "instanceof",
  "return", "transient", "catch", "extends", "int", "short", "try", "char", "final", "interface",
  "static", "void", "class", "finally", "long", "strictfp", "volatile", "const", "float", "native",
  "super", "while", "_"]

/-- The words that stand for values. -/
def literalWords : List String := ["true", "false", "null"]

/-- The identifiers of the language. -/
structure IsIdentifier (name : String) : Prop where
  /-- There is a first character, of the right kind. -/
  starts : ∃ c ∈ name.toList.head?, StartsIdentifier c
  continues : ∀ c ∈ name.toList.tail, ContinuesIdentifier c
  notKeyword : name ∉ keywords
  notLiteral : name ∉ literalWords

/-- A name without a mark at its start, and without symbols and numbers that are no digits. -/
structure IsRegular (name : String) : Prop where
  noMark : ∀ c ∈ name.toList.head?, generalCategory c ≠ .mark
  noSymbol : ∀ c ∈ name.toList, generalCategory c ≠ .symbol
  noOtherNumber : ∀ c ∈ name.toList, generalCategory c ≠ .otherNumber

-- ===================================================== names let through

variable {c : Char} {name : String}

/-- The categories of the characters that names start with. -/
theorem generalCategory_of_startsIdentifier (h : Naming.startsIdentifier c = true) :
    generalCategory c ∈ [.mark, .symbol] ++ startingCategories := by
  simp only [Naming.startsIdentifier, Bool.or_eq_true, beq_iff_eq] at h
  rcases h with (letter | rfl) | rfl
  · have among := Text.generalCategory_of_isLetter letter
    revert among
    cases generalCategory c <;> decide
  · decide
  · decide

/-- The categories of the characters that names go on with. -/
theorem generalCategory_of_continuesIdentifier (h : Naming.continuesIdentifier c = true) :
    generalCategory c ∈ [.mark, .symbol, .digit, .otherNumber] ++ startingCategories := by
  simp only [Naming.continuesIdentifier, Bool.or_eq_true, beq_iff_eq] at h
  rcases h with ((letter | numeral) | rfl) | rfl
  · have among := Text.generalCategory_of_isLetter letter
    revert among
    cases generalCategory c <;> decide
  · have among := Text.generalCategory_of_isNumeral numeral
    revert among
    cases generalCategory c <;> decide
  · decide
  · decide

/-- Of the characters that names start with, the language wants all but marks and symbols. -/
theorem startsIdentifier_iff (h : Naming.startsIdentifier c = true) :
    StartsIdentifier c ↔ generalCategory c ≠ .mark ∧ generalCategory c ≠ .symbol := by
  have among := generalCategory_of_startsIdentifier h
  revert among
  unfold StartsIdentifier
  cases generalCategory c <;> decide

/-- Of the characters that names go on with, the language wants all but symbols and numbers that are
no digits. -/
theorem continuesIdentifier_iff (h : Naming.continuesIdentifier c = true) :
    ContinuesIdentifier c ↔ generalCategory c ≠ .symbol ∧ generalCategory c ≠ .otherNumber := by
  have among := generalCategory_of_continuesIdentifier h
  revert among
  unfold ContinuesIdentifier StartsIdentifier IsIgnorable
  cases generalCategory c <;> simp [startingCategories]

/-- The words of the language are reserved. -/
theorem mem_reservedWords_of_mem :
    ∀ word ∈ keywords ++ literalWords, word ∈ Naming.reservedWords := by
  decide +kernel

/-- No keyword and no literal is let through. -/
theorem notMem_of_isIdentifier (h : Naming.isIdentifier name = true) :
    name ∉ keywords ++ literalWords := by
  obtain ⟨-, -, -, -, -, free⟩ := Naming.isIdentifier_iff.1 h
  exact fun word => free (mem_reservedWords_of_mem name word)

/-- A name that is let through is an identifier of the language exactly if it is regular. -/
theorem isIdentifier_iff_isRegular (h : Naming.isIdentifier name = true) :
    IsIdentifier name ↔ IsRegular name := by
  have free := notMem_of_isIdentifier h
  rw [List.mem_append, not_or] at free
  obtain ⟨c, rest, chars, starts, continues, -⟩ := Naming.isIdentifier_iff.1 h
  have front : ∀ P : Char → Prop, (∀ d ∈ name.toList, P d) ↔ P c ∧ ∀ d ∈ rest, P d := by
    intro P
    rw [chars]
    exact List.forall_mem_cons
  -- a number cannot be the first character, so there the two conditions say the same
  have first : StartsIdentifier c ↔ generalCategory c ≠ .mark ∧ ContinuesIdentifier c := by
    have among := generalCategory_of_startsIdentifier starts
    rw [startsIdentifier_iff starts,
      continuesIdentifier_iff (Naming.continuesIdentifier_of_starts starts)]
    revert among
    cases generalCategory c <;> decide
  constructor
  · rintro ⟨⟨d, isFirst, wanted⟩, others, -, -⟩
    rw [chars] at isFirst others
    cases isFirst
    obtain ⟨noMark, own⟩ := first.1 wanted
    have all : ∀ d ∈ name.toList,
        generalCategory d ≠ .symbol ∧ generalCategory d ≠ .otherNumber :=
      (front _).2 ⟨(continuesIdentifier_iff (Naming.continuesIdentifier_of_starts starts)).1 own,
        fun d mem => (continuesIdentifier_iff (continues d mem)).1 (others d mem)⟩
    refine ⟨?_, fun d mem => (all d mem).1, fun d mem => (all d mem).2⟩
    rw [chars]
    rintro d ⟨⟩
    exact noMark
  · rintro ⟨noMark, noSymbol, noOtherNumber⟩
    have all : ∀ d ∈ name.toList, Naming.continuesIdentifier d = true → ContinuesIdentifier d :=
      fun d mem passes => (continuesIdentifier_iff passes).2 ⟨noSymbol d mem, noOtherNumber d mem⟩
    obtain ⟨own, others⟩ := (front _).1 all
    rw [chars] at noMark
    refine ⟨⟨c, ?_, first.2 ⟨noMark c rfl, own (Naming.continuesIdentifier_of_starts starts)⟩⟩, ?_,
      free.1, free.2⟩
    · rw [chars]
      rfl
    · rw [chars]
      exact fun d mem => others d mem (continues d mem)

end SchemaClasses.Lexical
