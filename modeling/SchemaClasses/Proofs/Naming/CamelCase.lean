/-
Camel case by words.

A column name is words with underscores between them. Its camel case is
the words run together, each but the first with its first character in
upper case, so where words begin can be seen from capitals alone.

That is enough to read a name back from its camel case if the name is
canonical: each word a small letter, then small letters and digits. A
capital can then only come from the start of a word, and each word but
the first has left one. An empty word would leave none, and neither
would one that starts with a digit. So canonical names keep apart in
camel case (`eq_of_camelCase_eq`), and since no reserved word has a
capital, none of more than one word comes out as a reserved word.
-/
import Mathlib.Data.Bool.AllAny
import SchemaClasses.Proofs.Naming.Characters

namespace SchemaClasses.Naming

open Text (pieces)

-- ============================================================== words

/-- A word with its first character in upper case. -/
def capitalize : List Char → List Char
  | [] => []
  | c :: rest => Text.upper c ++ rest

/-- Camel case runs words together; an underscore before them makes the first one like the
others. -/
theorem camelChars_eq (chars : List Char) :
    ∃ first others, pieces '_' chars = first :: others ∧
      camelChars false chars = first ++ others.flatMap capitalize ∧
      camelChars true chars = capitalize first ++ others.flatMap capitalize := by
  induction chars with
  | nil => exact ⟨[], [], rfl, rfl, rfl⟩
  | cons c rest ih =>
      obtain ⟨first, others, cut, inside, after⟩ := ih
      by_cases hc : c = '_'
      · refine ⟨[], first :: others, ?_, ?_, ?_⟩
        · rw [pieces, if_pos hc, cut]
        · rw [camelChars, if_pos hc, after]
          rfl
        · rw [camelChars, if_pos hc, after]
          rfl
      · refine ⟨c :: first, others, ?_, ?_, ?_⟩
        · rw [pieces, if_neg hc, cut]
        · rw [camelChars, if_neg hc, if_neg Bool.false_ne_true, inside]
          rfl
        · rw [camelChars, if_neg hc, if_pos rfl, inside, capitalize, List.append_assoc]

/-- A name of one word is its own camel case. -/
theorem camelCase_of_notMem {name : String} (h : '_' ∉ name.toList) : camelCase name = name := by
  obtain ⟨first, others, cut, inside, -⟩ := camelChars_eq name.toList
  rw [Text.pieces_of_notMem h] at cut
  obtain ⟨rfl, rfl⟩ := List.cons.inj cut
  rw [camelCase, inside, List.flatMap_nil, List.append_nil, String.ofList_toList]

-- ==================================================== canonical names

/-- The characters that start a word of a canonical name. -/
def smallLetters : List Char := "abcdefghijklmnopqrstuvwxyz".toList

/-- The characters that such a word goes on with. -/
def wordSigns : List Char := smallLetters ++ "0123456789".toList

/-- A small letter, then small letters and digits. -/
def isWord : List Char → Bool
  | [] => false
  | c :: rest => smallLetters.contains c && rest.all (wordSigns.contains ·)

/-- A name of such words, with one underscore between each two. -/
def isCanonical (name : String) : Bool := (pieces '_' name.toList).all isWord

theorem isWord_iff {word : List Char} :
    isWord word = true ↔
      ∃ c rest, word = c :: rest ∧ c ∈ smallLetters ∧ ∀ d ∈ rest, d ∈ wordSigns := by
  cases word with
  | nil => simp [isWord]
  | cons c rest => simp [isWord, and_assoc]

theorem isCanonical_iff {name : String} :
    isCanonical name = true ↔ ∀ word ∈ pieces '_' name.toList, isWord word = true :=
  List.all_eq_true

-- ======================================================= reading back

/-- What a character of a name in camel case stands for: a capital is the start of a word. -/
def snakeChar (c : Char) : List Char := if c.isUpper then ['_', c.toLower] else [c]

theorem snakeChar_of_mem_wordSigns : ∀ c ∈ wordSigns, snakeChar c = [c] :=
  List.all_iff_forall_prop.1 (by decide)

theorem upper_of_mem_smallLetters : ∀ c ∈ smallLetters, Text.upper c = [c.toUpper] :=
  List.all_iff_forall_prop.1 (by decide +kernel)

theorem snakeChar_toUpper : ∀ c ∈ smallLetters, snakeChar c.toUpper = ['_', c] :=
  List.all_iff_forall_prop.1 (by decide)

theorem mem_wordSigns_of_smallLetter {c : Char} (h : c ∈ smallLetters) : c ∈ wordSigns :=
  List.mem_append_left _ h

/-- The signs of words stand for themselves. -/
theorem flatMap_snakeChar {chars : List Char} (h : ∀ c ∈ chars, c ∈ wordSigns) :
    chars.flatMap snakeChar = chars := by
  rw [List.flatMap_def, List.map_congr_left fun c mem => snakeChar_of_mem_wordSigns c (h c mem),
    ← List.flatMap_def, List.flatMap_singleton']

/-- A capitalized word stands for the word behind an underscore. -/
theorem flatMap_snakeChar_capitalize {word : List Char} (h : isWord word = true) :
    (capitalize word).flatMap snakeChar = '_' :: word := by
  obtain ⟨c, rest, rfl, letter, signs⟩ := isWord_iff.1 h
  rw [capitalize, List.flatMap_append, upper_of_mem_smallLetters c letter,
    List.flatMap_singleton, snakeChar_toUpper c letter, flatMap_snakeChar signs]
  rfl

/-- A canonical name is read back from its camel case. -/
theorem snake_camelChars {name : String} (h : isCanonical name = true) :
    (camelChars false name.toList).flatMap snakeChar = name.toList := by
  obtain ⟨first, others, cut, inside, -⟩ := camelChars_eq name.toList
  have words := isCanonical_iff.1 h
  rw [cut] at words
  have start : ∀ c ∈ first, c ∈ wordSigns := by
    obtain ⟨c, rest, rfl, letter, signs⟩ := isWord_iff.1 (words first List.mem_cons_self)
    exact List.forall_mem_cons.2 ⟨mem_wordSigns_of_smallLetter letter, signs⟩
  have later : ∀ word ∈ others, (capitalize word).flatMap snakeChar = '_' :: word :=
    fun word mem => flatMap_snakeChar_capitalize (words word (List.mem_cons_of_mem first mem))
  rw [inside, List.flatMap_append, flatMap_snakeChar start, List.flatMap_assoc,
    List.flatMap_def, List.map_congr_left later, ← List.flatMap_def, ← Text.eq_of_pieces cut]

/-- Canonical names with one camel case are one name. -/
theorem eq_of_camelCase_eq {a b : String} (ha : isCanonical a = true) (hb : isCanonical b = true)
    (h : camelCase a = camelCase b) : a = b := by
  have chars : camelChars false a.toList = camelChars false b.toList := by
    have := congrArg String.toList h
    rwa [camelCase, camelCase, String.toList_ofList, String.toList_ofList] at this
  rw [← String.toList_inj, ← snake_camelChars ha, chars, snake_camelChars hb]

-- A digit has no upper case of its own: nothing is left of where its word began.
example : camelCase "line_1" = camelCase "line1" ∧ isCanonical "line_1" = false := by
  decide +kernel

-- ======================================================== identifiers

/-- What makes an identifier. -/
theorem isIdentifier_iff {name : String} :
    isIdentifier name = true ↔
      ∃ c rest, name.toList = c :: rest ∧ startsIdentifier c = true ∧
        (∀ d ∈ rest, continuesIdentifier d = true) ∧ name ∉ reservedWords := by
  unfold isIdentifier
  cases name.toList with
  | nil => simp
  | cons c rest => simp [and_assoc]

theorem startsIdentifier_of_mem : ∀ c ∈ smallLetters, startsIdentifier c = true :=
  List.all_iff_forall_prop.1 (by decide +kernel)

theorem continuesIdentifier_of_mem : ∀ c ∈ wordSigns, continuesIdentifier c = true :=
  List.all_iff_forall_prop.1 (by decide +kernel)

/-- A small letter has a capital, which an identifier can hold. -/
theorem capital_of_mem :
    ∀ c ∈ smallLetters, continuesIdentifier c.toUpper = true ∧ c.toUpper.isUpper = true :=
  List.all_iff_forall_prop.1 (by decide +kernel)

theorem any_isUpper_of_mem_reservedWords :
    ∀ word ∈ reservedWords, word.toList.any Char.isUpper = false := by
  decide +kernel

theorem notMem_of_canonical_reserved :
    ∀ word ∈ reservedWords, isCanonical word = true → '_' ∉ word.toList := by
  decide +kernel

/-- A canonical name of more than one word has a capital in camel case. -/
theorem any_isUpper_camelCase {name : String} (h : isCanonical name = true)
    (several : '_' ∈ name.toList) : (camelCase name).toList.any Char.isUpper = true := by
  obtain ⟨first, others, cut, inside, -⟩ := camelChars_eq name.toList
  rw [camelCase, String.toList_ofList, inside]
  cases others with
  | nil =>
      -- no underscore in a name of one word
      have alone := Text.eq_of_pieces cut
      rw [List.flatMap_nil, List.append_nil] at alone
      have mem : first ∈ pieces '_' name.toList := cut ▸ List.mem_cons_self
      exact absurd (alone ▸ several) (Text.notMem_of_mem_pieces first mem)
  | cons word rest =>
      have mem : word ∈ pieces '_' name.toList := cut ▸ by simp
      obtain ⟨c, signs, rfl, letter, -⟩ := isWord_iff.1 (isCanonical_iff.1 h word mem)
      exact List.any_eq_true.2 ⟨c.toUpper,
        by simp [capitalize, upper_of_mem_smallLetters c letter], (capital_of_mem c letter).2⟩

/-- A canonical name of more than one word never becomes a reserved word. -/
theorem camelCase_notMem_reservedWords {name : String} (h : isCanonical name = true)
    (several : '_' ∈ name.toList) : camelCase name ∉ reservedWords := by
  intro mem
  have capital := any_isUpper_camelCase h several
  rw [any_isUpper_of_mem_reservedWords _ mem] at capital
  cases capital

/-- A canonical name becomes a reserved word only if it is one. -/
theorem camelCase_mem_reservedWords_iff {name : String} (h : isCanonical name = true) :
    camelCase name ∈ reservedWords ↔ name ∈ reservedWords := by
  by_cases several : '_' ∈ name.toList
  · exact iff_of_false (camelCase_notMem_reservedWords h several) fun mem =>
      notMem_of_canonical_reserved name mem h several
  · rw [camelCase_of_notMem several]

/-- Every character of a capitalized word is one that an identifier can hold. -/
theorem continuesIdentifier_of_mem_capitalize {word : List Char} (h : isWord word = true) :
    ∀ c ∈ capitalize word, continuesIdentifier c = true := by
  obtain ⟨c, rest, rfl, letter, signs⟩ := isWord_iff.1 h
  intro d mem
  rw [capitalize, upper_of_mem_smallLetters c letter, List.singleton_append, List.mem_cons] at mem
  rcases mem with rfl | later
  · exact (capital_of_mem c letter).1
  · exact continuesIdentifier_of_mem d (signs d later)

/-- The camel case of a canonical name is an identifier, but for the reserved words. -/
theorem isIdentifier_camelCase_iff {name : String} (h : isCanonical name = true) :
    isIdentifier (camelCase name) = true ↔ name ∉ reservedWords := by
  obtain ⟨first, others, cut, inside, -⟩ := camelChars_eq name.toList
  have words := isCanonical_iff.1 h
  rw [cut] at words
  obtain ⟨c, rest, rfl, letter, signs⟩ := isWord_iff.1 (words first List.mem_cons_self)
  have chars : (camelCase name).toList = c :: (rest ++ others.flatMap capitalize) := by
    rw [camelCase, String.toList_ofList, inside, List.cons_append]
  have continues : ∀ d ∈ rest ++ others.flatMap capitalize, continuesIdentifier d = true := by
    intro d mem
    rcases List.mem_append.1 mem with inFirst | later
    · exact continuesIdentifier_of_mem d (signs d inFirst)
    · obtain ⟨word, hword, hd⟩ := List.mem_flatMap.1 later
      exact continuesIdentifier_of_mem_capitalize (words word (List.mem_cons_of_mem _ hword)) d hd
  rw [isIdentifier_iff]
  constructor
  · rintro ⟨-, -, -, -, -, free⟩ reserved
    exact free ((camelCase_mem_reservedWords_iff h).2 reserved)
  · intro free
    exact ⟨c, _, chars, startsIdentifier_of_mem c letter, continues,
      fun reserved => free ((camelCase_mem_reservedWords_iff h).1 reserved)⟩

end SchemaClasses.Naming
