/-
Unicode escapes in the text of a class.

Comments show metadata as it is, backslashes included, and a compiler
looks for Unicode escapes before it knows what a comment is. A default
of `C:\users` is enough for an escape to begin in the text of its class,
a malformed one at that.

Nothing else makes one. Code has no backslashes, and what a comment puts
between two strings is a border that no escape crosses: a backslash at
the end of one string and the letter at the start of the next are never
neighbours. So a compiler finds the text as it was written exactly if no
single string in the metadata of a field begins an escape.
-/
import SchemaClasses.Proofs.Class.Source
import SchemaClasses.Proofs.Decimal.Characters

namespace SchemaClasses

open Lexical (BeginsEscape findsEscape beginsEscape_append_cons not_beginsEscape_of_notMem)

-- =================================================== strings in values

mutual

/-- The strings in a value, to any depth: the texts and the keys. -/
def Value.strings : Value → List String
  | .string s => [s]
  | .sequence items => Value.itemStrings items
  | .mapping entries => Value.entryStrings entries
  | _ => []

/-- The strings in the items of a sequence. -/
def Value.itemStrings : List Value → List String
  | [] => []
  | item :: rest => item.strings ++ Value.itemStrings rest

/-- The strings in the entries of a mapping. -/
def Value.entryStrings : List (String × Value) → List String
  | [] => []
  | (key, value) :: rest => key :: value.strings ++ Value.entryStrings rest

end

/-- Some of the texts begin an escape. -/
def SomeEscape (texts : List String) : Prop := ∃ text ∈ texts, BeginsEscape text.toList

theorem someEscape_nil : ¬SomeEscape [] := by
  rintro ⟨text, mem, -⟩
  cases mem

theorem someEscape_cons {text : String} {rest : List String} :
    SomeEscape (text :: rest) ↔ BeginsEscape text.toList ∨ SomeEscape rest := by
  simp [SomeEscape]

theorem someEscape_append {front back : List String} :
    SomeEscape (front ++ back) ↔ SomeEscape front ∨ SomeEscape back := by
  simp [SomeEscape, or_and_right, exists_or]

-- ========================================================== borders

/-- A text in front of a border without backslashes begins no escape together with it. -/
theorem beginsEscape_cons {c : Char} (notBackslash : c ≠ '\\') {rest : List Char} :
    BeginsEscape (c :: rest) ↔ BeginsEscape rest := by
  rw [← Lexical.findsEscape_iff, ← Lexical.findsEscape_iff,
    Lexical.findsEscape_cons_of_ne notBackslash]

/-- A text that ends with a border begins the escapes it begins without it. -/
theorem beginsEscape_concat {c : Char} (notBackslash : c ≠ '\\') (notLetter : c ≠ 'u')
    {text : List Char} : BeginsEscape (text ++ [c]) ↔ BeginsEscape text := by
  rw [beginsEscape_append_cons notBackslash notLetter]
  exact or_iff_left (not_beginsEscape_of_notMem List.not_mem_nil)

/-- Texts between commas begin the escapes that they begin on their own. -/
theorem beginsEscape_intercalate (texts : List String) :
    BeginsEscape (", ".intercalate texts).toList ↔ SomeEscape texts := by
  rw [String.toList_intercalate]
  induction texts with
  | nil => simp [someEscape_nil, not_beginsEscape_of_notMem]
  | cons text rest ih =>
      cases rest with
      | nil => simp [someEscape_cons, someEscape_nil]
      | cons next rest =>
          have joined : List.intercalate ", ".toList ((text :: next :: rest).map String.toList) =
              text.toList ++ ',' :: ' ' ::
                List.intercalate ", ".toList ((next :: rest).map String.toList) := by
            simp [List.intercalate]
          rw [joined, beginsEscape_append_cons (by decide) (by decide),
            beginsEscape_cons (by decide), ih, ← someEscape_cons]

/-- Where a text is put on one line, the characters of escapes stay and no others become them. -/
theorem foldBreak_eq_iff {sign : Char} (h : sign = '\\' ∨ sign = 'u') (c : Char) :
    foldBreak c = sign ↔ c = sign := by
  unfold foldBreak
  by_cases folded : c = '\r' ∨ c = '\n'
  · rw [if_pos folded]
    rcases h with rfl | rfl <;> rcases folded with rfl | rfl <;> decide
  · rw [if_neg folded]

theorem findsEscape_map_foldBreak (text : List Char) :
    ∀ even, findsEscape even (text.map foldBreak) = findsEscape even text := by
  induction text with
  | nil => intro even; rfl
  | cons c rest ih =>
      intro even
      have head : ((rest.map foldBreak).head? == some 'u') = (rest.head? == some 'u') := by
        cases rest with
        | nil => rfl
        | cons d rest =>
            rw [Bool.eq_iff_iff]
            simpa using foldBreak_eq_iff (Or.inr rfl) d
      have same := foldBreak_eq_iff (Or.inl rfl) c
      rw [List.map_cons]
      by_cases h : c = '\\'
      · rw [same.2 h, h, Lexical.findsEscape_backslash, Lexical.findsEscape_backslash, head, ih]
      · rw [Lexical.findsEscape_cons_of_ne h, Lexical.findsEscape_cons_of_ne (mt same.1 h), ih]

/-- Putting a text on one line makes and breaks no escapes. -/
theorem beginsEscape_onOneLine (text : String) :
    BeginsEscape (onOneLine text).toList ↔ BeginsEscape text.toList := by
  rw [toList_onOneLine, ← Lexical.findsEscape_iff, findsEscape_map_foldBreak,
    Lexical.findsEscape_iff]

-- =================================================== described values

/-- A text in brackets begins the escapes that it begins without them. -/
theorem beginsEscape_bracketed {opening closing : Char} (hopening : opening ≠ '\\')
    (hclosing : closing ≠ '\\') (notLetter : closing ≠ 'u') (text : List Char) :
    BeginsEscape (opening :: (text ++ [closing])) ↔ BeginsEscape text := by
  rw [beginsEscape_cons hopening, beginsEscape_concat hclosing notLetter]

/-- An entry begins the escapes of its key and of its value. -/
theorem beginsEscape_entry (key shown : String) :
    BeginsEscape (key ++ "=" ++ shown).toList ↔
      BeginsEscape key.toList ∨ BeginsEscape shown.toList := by
  have eq : (key ++ "=" ++ shown).toList = key.toList ++ '=' :: shown.toList := by
    rw [String.toList_append, String.toList_append, List.append_assoc]
    rfl
  rw [eq, beginsEscape_append_cons (by decide) (by decide)]

mutual

/-- What a comment shows of a value begins an escape exactly if a string in the value does. -/
theorem beginsEscape_describe :
    ∀ value : Value, BeginsEscape value.describe.toList ↔ SomeEscape value.strings
  | .null => iff_of_false (not_beginsEscape_of_notMem (by decide)) someEscape_nil
  | .bool true => iff_of_false (not_beginsEscape_of_notMem (by decide)) someEscape_nil
  | .bool false => iff_of_false (not_beginsEscape_of_notMem (by decide)) someEscape_nil
  | .number n => by
      refine iff_of_false (not_beginsEscape_of_notMem ?_) someEscape_nil
      exact Number.notMem_text (by decide) n
  | .string s => by
      simp [Value.describe, Value.strings, SomeEscape]
  | .sequence items => by
      have shown : (Value.sequence items).describe.toList =
          '[' :: ((", ".intercalate (Value.describeItems items)).toList ++ [']']) := by
        rw [Value.describe, String.toList_append, String.toList_append]
        rfl
      rw [shown, beginsEscape_bracketed (by decide) (by decide) (by decide),
        beginsEscape_intercalate, Value.strings, someEscape_describeItems]
  | .mapping entries => by
      have shown : (Value.mapping entries).describe.toList =
          '\x7b' :: ((", ".intercalate (Value.describeEntries entries)).toList ++ ['\x7d']) := by
        rw [Value.describe, String.toList_append, String.toList_append]
        rfl
      rw [shown, beginsEscape_bracketed (by decide) (by decide) (by decide),
        beginsEscape_intercalate, Value.strings, someEscape_describeEntries]

theorem someEscape_describeItems :
    ∀ items : List Value,
      SomeEscape (Value.describeItems items) ↔ SomeEscape (Value.itemStrings items)
  | [] => Iff.rfl
  | item :: rest => by
      rw [Value.describeItems, Value.itemStrings, someEscape_cons, someEscape_append,
        beginsEscape_describe item, someEscape_describeItems rest]

theorem someEscape_describeEntries :
    ∀ entries : List (String × Value),
      SomeEscape (Value.describeEntries entries) ↔ SomeEscape (Value.entryStrings entries)
  | [] => Iff.rfl
  | (key, value) :: rest => by
      rw [Value.describeEntries, Value.entryStrings, List.cons_append, someEscape_cons,
        someEscape_cons, someEscape_append, beginsEscape_entry, beginsEscape_describe value,
        someEscape_describeEntries rest, or_assoc]

end

-- ============================================================ classes

/-- A comment begins an escape exactly if a string in the metadata does. -/
theorem Field.beginsEscape_comment (field : Field) :
    BeginsEscape field.comment.toList ↔
      SomeEscape (Value.entryStrings field.property.metadata) := by
  have line : field.comment.toList =
      "    // ".toList ++ '\x7b' :: ((onOneLine field.shown).toList ++ ['\x7d']) := by
    rw [toList_comment, toList_onOneLine, List.append_assoc]
    rfl
  have front : ¬BeginsEscape "    // ".toList := not_beginsEscape_of_notMem (by decide)
  rw [line, beginsEscape_append_cons (by decide) (by decide), or_iff_right front,
    beginsEscape_concat (by decide) (by decide), beginsEscape_onOneLine, shown,
    ← Value.describeEntries_eq_map, beginsEscape_intercalate, someEscape_describeEntries]

/-- A text of lines begins the escapes of its lines. -/
theorem beginsEscape_unlines (lines : List String) :
    BeginsEscape (unlines lines).toList ↔ SomeEscape lines := by
  rw [toList_unlines]
  induction lines with
  | nil => exact iff_of_false (not_beginsEscape_of_notMem List.not_mem_nil) someEscape_nil
  | cons line rest ih =>
      rw [List.map_cons, List.flatMap_cons, List.append_assoc, List.singleton_append,
        beginsEscape_append_cons (by decide) (by decide), ih, someEscape_cons]

/-- The lines of fields begin the escapes that strings in their metadata begin. -/
theorem someEscape_fieldLines {fields : List Field}
    (made : ∀ field ∈ fields, Field.ofProperty field.property = .ok field) :
    SomeEscape (fields.flatMap fun field => field.comment :: field.code) ↔
      ∃ field ∈ fields, SomeEscape (Value.entryStrings field.property.metadata) := by
  induction fields with
  | nil => simp [SomeEscape]
  | cons field rest ih =>
      have plain : ¬SomeEscape field.code := by
        rintro ⟨line, mem, begins⟩
        have own := made field List.mem_cons_self
        exact not_beginsEscape_of_notMem (Field.notMem_code own (by decide) line mem) begins
      have later := ih fun other mem => made other (List.mem_cons_of_mem field mem)
      rw [List.flatMap_cons, List.cons_append, someEscape_cons, someEscape_append,
        or_iff_right plain, later, field.beginsEscape_comment]
      simp only [List.mem_cons, exists_eq_or_imp]

/-- The lines of a class begin the escapes that strings in the metadata of its fields begin. -/
theorem someEscape_layout {package name : String} {fields : List Field}
    (hpackage : Naming.isPackage package = true) (hname : Naming.isIdentifier name = true)
    (made : ∀ field ∈ fields, Field.ofProperty field.property = .ok field) :
    SomeEscape (layout package name fields) ↔
      ∃ field ∈ fields, SomeEscape (Value.entryStrings field.property.metadata) := by
  have head : ¬SomeEscape (headLines package name (importsOf fields)) := by
    rintro ⟨line, mem, begins⟩
    have known : ∀ path ∈ importsOf fields, path ∈ knownImports :=
      fun _ hpath => mem_knownImports_of_mem_importsOf made hpath
    exact not_beginsEscape_of_notMem (notMem_headLines hpackage hname known (by decide) line mem)
      begins
  have brace : ¬SomeEscape ["\x7d"] := by
    rintro ⟨line, mem, begins⟩
    rw [List.mem_singleton.1 mem] at begins
    exact not_beginsEscape_of_notMem (by decide) begins
  rw [layout, someEscape_append, someEscape_append, or_iff_right head, or_iff_left brace,
    someEscape_fieldLines made]

namespace Class

/-- A compiler reads the text of a class as it was written, comments included, exactly if no
string in the metadata of a field begins a Unicode escape. -/
theorem translate_source_iff {entity : Entity} {package : String} {cls : Class}
    (hpackage : Naming.isPackage package = true) (rendered : render entity package = .ok cls) :
    Lexical.translate cls.source.toList = (Lexical.units cls.source.toList).map some ↔
      ∀ field ∈ entity.fields, ∀ text ∈ Value.entryStrings field.property.metadata,
        ¬BeginsEscape text.toList := by
  obtain ⟨named, source⟩ := source_of_render rendered
  have made : ∀ field ∈ entity.fields, Field.ofProperty field.property = .ok field :=
    fun _ mem => Entity.ofProperty_of_mem_fields mem
  rw [Lexical.translate_eq_iff, source, beginsEscape_unlines,
    someEscape_layout hpackage named made]
  simp only [SomeEscape, not_exists, not_and]

/-- An entity with one column, a path with a default. -/
def pathEntries (default : String) : Entries :=
  [("_attributes", .mapping [("phpName", .string "Account")]),
    ("home", .mapping [("type", .string "VARCHAR"), ("default", .string default)])]

/-- A backslash alone does no harm. -/
theorem translate_source_harmless :
    ∃ cls, render (Entity.ofDefinition "account" (.mapping (pathEntries "C:\\temp"))) "demo.model" =
        .ok cls ∧
      Lexical.translate cls.source.toList = (Lexical.units cls.source.toList).map some := by
  have rendered : ∃ cls,
      render (Entity.ofDefinition "account" (.mapping (pathEntries "C:\\temp"))) "demo.model" =
        .ok cls :=
    ⟨_, rfl⟩
  obtain ⟨cls, rendered⟩ := rendered
  refine ⟨cls, rendered, (translate_source_iff (by decide) rendered).2 ?_⟩
  intro field mem text htext
  rw [List.mem_singleton.1 mem] at htext
  rw [← Lexical.findsEscape_iff, Bool.not_eq_true]
  have plain : ∀ text ∈ Value.entryStrings
      [("type", .string "VARCHAR"), ("default", .string "C:\\temp")],
      findsEscape true text.toList = false := by
    decide
  exact plain text htext

/-- A backslash in front of the letter does: the compiler finds an escape where there is none. -/
theorem translate_source_users :
    Naming.isPackage "demo.model" = true ∧
      ∃ cls, render (Entity.ofDefinition "account" (.mapping (pathEntries "C:\\users")))
          "demo.model" = .ok cls ∧
        BeginsEscape cls.source.toList ∧
        Lexical.translate cls.source.toList ≠ (Lexical.units cls.source.toList).map some := by
  have begins : ∀ cls, render (Entity.ofDefinition "account" (.mapping (pathEntries "C:\\users")))
      "demo.model" = .ok cls → BeginsEscape cls.source.toList := by
    intro cls rendered
    cases rendered
    rw [← Lexical.findsEscape_iff]
    decide +kernel
  refine ⟨by decide, _, rfl, begins _ rfl, ?_⟩
  rw [Ne, Lexical.translate_eq_iff]
  exact fun none => none (begins _ rfl)

end Class

end SchemaClasses
