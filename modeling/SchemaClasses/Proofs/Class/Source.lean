/-
What the lines of a class hold.

The lines of a class are code and comments. Code is put together from
fixed text and from names, and a name that has passed its check holds
neither a line end nor a backslash; this goes for the name in a string
literal too, which was never checked itself, since its camel case was.
A comment shows text as the schema has it, with every line end folded
away. So no line of a class is broken, and a backslash stands in
comments only.
-/
import SchemaClasses.Class.Basic
import SchemaClasses.Proofs.Class.Fields
import SchemaClasses.Proofs.Lexical.StringLiteral
import SchemaClasses.Proofs.Naming.Characters

namespace SchemaClasses

-- =================================================== what comments show

/-- Every entry of a mapping is shown, key and value. -/
theorem Value.describeEntries_eq_map (entries : Entries) :
    Value.describeEntries entries =
      entries.map fun (key, value) => key ++ "=" ++ value.describe := by
  induction entries with
  | nil => rfl
  | cons entry rest ih => rw [Value.describeEntries, ih, List.map_cons]

/-- What becomes of a character where a text is put on one line. -/
def foldBreak (c : Char) : Char := if c = '\r' ∨ c = '\n' then ' ' else c

theorem toList_onOneLine (text : String) :
    (onOneLine text).toList = text.toList.map foldBreak := by
  rw [onOneLine, String.toList_ofList]
  rfl

theorem onOneLine_append (front back : String) :
    onOneLine (front ++ back) = onOneLine front ++ onOneLine back := by
  rw [← String.toList_inj]
  simp only [toList_onOneLine, String.toList_append, List.map_append]

/-- A text on one line has no line end. -/
theorem notMem_onOneLine {c : Char} (h : c ∈ ['\n', '\r']) (text : String) :
    c ∉ (onOneLine text).toList := by
  rw [toList_onOneLine]
  intro mem
  obtain ⟨d, -, rfl⟩ := List.mem_map.1 mem
  unfold foldBreak at h
  by_cases folded : d = '\r' ∨ d = '\n'
  · rw [if_pos folded] at h
    exact absurd h (by decide)
  · rw [if_neg folded] at h
    refine folded ?_
    simpa [or_comm] using h

-- ============================================================ imports

/-- Inserting adds the name and keeps the others. -/
theorem mem_insertAscending {name other : String} {names : List String} :
    other ∈ insertAscending name names ↔ other = name ∨ other ∈ names := by
  induction names with
  | nil => simp [insertAscending]
  | cons first rest ih =>
      unfold insertAscending
      split
      · simp
      · split
        next eq => simp [eq]
        next => simp only [List.mem_cons, ih, or_left_comm]

theorem mem_foldr_insertAscending {other : String} {names : List String} :
    other ∈ names.foldr insertAscending [] ↔ other ∈ names := by
  induction names with
  | nil => rfl
  | cons name rest ih => rw [List.foldr_cons, mem_insertAscending, ih, List.mem_cons]

/-- All that a class can import. -/
def knownImports : List String :=
  ["lombok.Data", "com.google.gson.annotations.SerializedName", "org.joda.time.DateTime",
    "java.math.BigInteger", "java.math.BigDecimal"]

theorem importName_mem_knownImports (category : Category) {path : String}
    (h : category.fieldType.importName = some path) : path ∈ knownImports := by
  cases category <;> cases h <;> decide

/-- A class whose fields were made from columns imports nothing else. -/
theorem mem_knownImports_of_mem_importsOf {fields : List Field}
    (made : ∀ field ∈ fields, Field.ofProperty field.property = .ok field) {path : String}
    (mem : path ∈ importsOf fields) : path ∈ knownImports := by
  simp only [importsOf, mem_foldr_insertAscending, List.mem_append, List.mem_cons,
    List.mem_filterMap] at mem
  rcases mem with (rfl | renamed) | ⟨field, hfield, himport⟩
  · decide
  · split at renamed
    · rw [List.mem_singleton.1 renamed]
      decide
    · cases renamed
  · obtain ⟨category, type⟩ := Field.type_of_ofProperty (made field hfield)
    exact importName_mem_knownImports category (type ▸ himport)

-- ==================================================== lines of a field

namespace Field

/-- What the comment of a field shows between its braces: the metadata, entry by entry. -/
def shown (field : Field) : String :=
  ", ".intercalate (field.property.metadata.map fun (key, value) => key ++ "=" ++ value.describe)

/-- The comment of a field. -/
def comment (field : Field) : String := "    // \x7b" ++ onOneLine field.shown ++ "\x7d"

/-- What a comment shows is the metadata on one line, entry by entry, between braces. -/
theorem toList_comment (field : Field) :
    field.comment.toList =
      "    // \x7b".toList ++ field.shown.toList.map foldBreak ++ ['\x7d'] := by
  rw [comment, String.toList_append, String.toList_append, toList_onOneLine]
  rfl

/-- The line that binds a field to a name of its own. -/
def bindingLine (name : String) : String := "    @SerializedName(\"" ++ name ++ "\")"

/-- The line that declares a field. -/
def declaration (field : Field) : String :=
  "    private " ++ field.type.name ++ " " ++ field.name ++ ";"

/-- The lines of a field after its comment. -/
def code (field : Field) : List String :=
  (field.serializedName?.map bindingLine).toList ++ [field.declaration, ""]

/-- The name of the column a field was made from holds nothing that a string literal would have
to escape. -/
theorem plain_of_ofProperty {property : Property} {field : Field}
    (made : ofProperty property = .ok field) :
    ∀ sign ∈ Lexical.literalSigns, sign ∉ property.name.toList := by
  intro sign mem
  have identifier := isIdentifier_of_ofProperty made
  rw [name_of_ofProperty made] at identifier
  have fixed : ∀ sign ∈ Lexical.literalSigns, Text.upper sign = [sign] :=
    List.all_iff_forall_prop.1 (by decide)
  have foreign : ∀ sign ∈ Lexical.literalSigns, Naming.continuesIdentifier sign = false :=
    List.all_iff_forall_prop.1 (by decide)
  exact Naming.notMem_of_isIdentifier_camelCase identifier (fixed sign mem) (foreign sign mem)

end Field

/-- Escaping leaves a text alone that has nothing to escape. -/
theorem literalBody_of_plain {text : String}
    (plain : ∀ sign ∈ Lexical.literalSigns, sign ∉ text.toList) : literalBody text = text := by
  have same : ∀ c ∈ text.toList, literalChar c = [c] := by
    intro c mem
    have notBackslash : c ≠ '\\' := fun eq => plain '\\' (by decide) (eq ▸ mem)
    have notQuote : c ≠ '"' := fun eq => plain '"' (by decide) (eq ▸ mem)
    rw [literalChar, if_neg notBackslash, if_neg notQuote]
  rw [literalBody, List.flatMap_def, List.map_congr_left same, ← List.flatMap_def,
    List.flatMap_singleton', String.ofList_toList]

/-- The lines of a field are its comment and its code. -/
theorem Field.lines_eq {field : Field} (made : Field.ofProperty field.property = .ok field) :
    field.lines = field.comment :: field.code := by
  have comment : "    // " ++ onOneLine (Value.mapping field.property.metadata).describe =
      field.comment := by
    rw [Value.describe, Value.describeEntries_eq_map, onOneLine_append, onOneLine_append]
    rfl
  rw [Field.lines, comment]
  by_cases same : field.name = field.property.name
  · simp only [Field.code, Field.serializedName?, if_pos same]
    rfl
  · simp only [Field.code, Field.serializedName?, if_neg same,
      literalBody_of_plain (Field.plain_of_ofProperty made)]
    rfl

-- ==================================================== lines of a class

/-- The lines of a class before those of its fields. -/
def headLines (package name : String) (imports : List String) : List String :=
  ["package " ++ package ++ ";", ""] ++ imports.map (fun path => "import " ++ path ++ ";") ++
    ["", "@Data", "public class " ++ name ++ " \x7b", ""]

/-- The lines of a class, each field's comment apart from its code. -/
def layout (package name : String) (fields : List Field) : List String :=
  headLines package name (importsOf fields) ++
    fields.flatMap (fun field => field.comment :: field.code) ++ ["\x7d"]

/-- The characters that no line of a class holds, the comments apart. -/
def codeSigns : List Char := ['\n', '\r', '\\']

theorem foreign_of_mem_codeSigns :
    ∀ c ∈ codeSigns, c ≠ '.' ∧ Naming.continuesIdentifier c = false :=
  List.all_iff_forall_prop.1 (by decide)

theorem literalSign_of_mem_codeSigns : ∀ c ∈ codeSigns, c ∈ Lexical.literalSigns :=
  List.all_iff_forall_prop.1 (by decide)

/-- A text around a name holds no character that neither it nor the name holds. -/
theorem notMem_around {c : Char} {before name after : String} (hbefore : c ∉ before.toList)
    (hname : c ∉ name.toList) (hafter : c ∉ after.toList) :
    c ∉ (before ++ name ++ after).toList := by
  simp [hbefore, hname, hafter]

/-- The types of fields have identifiers for names. -/
theorem isIdentifier_fieldType (category : Category) :
    Naming.isIdentifier category.fieldType.name = true := by
  cases category <;> decide

variable {c : Char}

/-- The code of a field holds no line end and no backslash. -/
theorem Field.notMem_code {field : Field} (made : Field.ofProperty field.property = .ok field)
    (hc : c ∈ codeSigns) : ∀ line ∈ field.code, c ∉ line.toList := by
  intro line mem
  have fixed : ∀ c ∈ codeSigns, c ∉ "    @SerializedName(\"".toList ∧ c ∉ "\")".toList ∧
      c ∉ "    private ".toList ∧ c ∉ " ".toList ∧ c ∉ ";".toList :=
    List.all_iff_forall_prop.1 (by decide)
  obtain ⟨opening, closing, modifier, blank, semicolon⟩ := fixed c hc
  have column : c ∉ field.property.name.toList :=
    Field.plain_of_ofProperty made c (literalSign_of_mem_codeSigns c hc)
  have name : c ∉ field.name.toList :=
    Naming.notMem_of_isIdentifier (Field.isIdentifier_of_ofProperty made)
      (foreign_of_mem_codeSigns c hc).2
  have type : c ∉ field.type.name.toList := by
    obtain ⟨category, eq⟩ := Field.type_of_ofProperty made
    rw [eq]
    exact Naming.notMem_of_isIdentifier (isIdentifier_fieldType category)
      (foreign_of_mem_codeSigns c hc).2
  simp only [Field.code, List.mem_append, List.mem_cons, Option.mem_toList,
    Option.map_eq_some_iff, List.not_mem_nil, or_false] at mem
  rcases mem with ⟨bound, serialized, rfl⟩ | rfl | rfl
  · have eq : bound = field.property.name := by
      unfold Field.serializedName? at serialized
      split at serialized
      · cases serialized
      · exact (Option.some.inj serialized).symm
    exact notMem_around opening (eq ▸ column) closing
  · exact notMem_around (notMem_around modifier type blank) name semicolon
  · exact List.not_mem_nil

/-- The lines before the fields hold no line end and no backslash. -/
theorem notMem_headLines {package name : String} {imports : List String}
    (hpackage : Naming.isPackage package = true) (hname : Naming.isIdentifier name = true)
    (himports : ∀ path ∈ imports, path ∈ knownImports) (hc : c ∈ codeSigns) :
    ∀ line ∈ headLines package name imports, c ∉ line.toList := by
  intro line mem
  have fixed : ∀ c ∈ codeSigns, c ∉ "package ".toList ∧ c ∉ ";".toList ∧
      c ∉ "import ".toList ∧ c ∉ "@Data".toList ∧ c ∉ "public class ".toList ∧
      c ∉ " \x7b".toList ∧ ∀ path ∈ knownImports, c ∉ path.toList :=
    List.all_iff_forall_prop.1 (by decide)
  obtain ⟨package', semicolon, import', data, class', brace, known⟩ := fixed c hc
  obtain ⟨notDot, foreign⟩ := foreign_of_mem_codeSigns c hc
  simp only [headLines, List.mem_append, List.mem_cons, List.mem_map, List.not_mem_nil,
    or_false] at mem
  rcases mem with ((rfl | rfl) | ⟨path, hpath, rfl⟩) | rfl | rfl | rfl | rfl
  · exact notMem_around package' (Naming.notMem_of_isPackage hpackage notDot foreign) semicolon
  · exact List.not_mem_nil
  · exact notMem_around import' (known path (himports path hpath)) semicolon
  · exact List.not_mem_nil
  · exact data
  · exact notMem_around class' (Naming.notMem_of_isIdentifier hname foreign) brace
  · exact List.not_mem_nil

/-- The comment of a field holds no line end, whatever the metadata holds. -/
theorem Field.notMem_comment (field : Field) (hc : c ∈ ['\n', '\r']) :
    c ∉ field.comment.toList := by
  have fixed : ∀ c ∈ ['\n', '\r'], c ∉ "    // \x7b".toList ∧ c ∉ "\x7d".toList :=
    List.all_iff_forall_prop.1 (by decide)
  obtain ⟨opening, closing⟩ := fixed c hc
  exact notMem_around opening (notMem_onOneLine hc field.shown) closing

/-- No line of a class holds a line end. -/
theorem notMem_layout {package name : String} {fields : List Field}
    (hpackage : Naming.isPackage package = true) (hname : Naming.isIdentifier name = true)
    (made : ∀ field ∈ fields, Field.ofProperty field.property = .ok field)
    (hc : c ∈ ['\n', '\r']) : ∀ line ∈ layout package name fields, c ∉ line.toList := by
  intro line mem
  have fixed : ∀ c ∈ ['\n', '\r'], c ∈ codeSigns ∧ c ∉ "\x7d".toList :=
    List.all_iff_forall_prop.1 (by decide)
  obtain ⟨sign, brace⟩ := fixed c hc
  simp only [layout, List.mem_append, List.mem_singleton] at mem
  rcases mem with (head | body) | rfl
  · exact notMem_headLines hpackage hname
      (fun path hpath => mem_knownImports_of_mem_importsOf made hpath) sign line head
  · obtain ⟨field, hfield, hline⟩ := List.mem_flatMap.1 body
    rcases List.mem_cons.1 hline with rfl | code
    · exact field.notMem_comment hc
    · exact Field.notMem_code (made field hfield) sign line code
  · exact brace

-- ==================================================== texts of lines

/-- A text of lines is the lines, each with its end. -/
theorem toList_unlines (lines : List String) :
    (unlines lines).toList = (lines.map String.toList).flatMap (· ++ ['\n']) := by
  simp [unlines, String.toList_join, List.flatMap_map]

/-- A text of lines is cut at line ends into its lines, and nothing follows the last one. -/
theorem pieces_unlines {lines : List String} (whole : ∀ line ∈ lines, '\n' ∉ line.toList) :
    Text.pieces '\n' (unlines lines).toList = lines.map String.toList ++ [[]] := by
  rw [toList_unlines, Text.pieces_flatMap_append]
  intro line mem
  obtain ⟨text, htext, rfl⟩ := List.mem_map.1 mem
  exact whole text htext

/-- A text of lines ends with the end of the last one. -/
theorem getLast?_unlines_concat (lines : List String) (last : String) :
    (unlines (lines ++ [last])).toList.getLast? = some '\n' := by
  rw [toList_unlines, List.map_append, List.flatMap_append]
  simp

/-- A character other than the line end is in a text of lines only where it is in a line. -/
theorem notMem_unlines {lines : List String} (notEnd : c ≠ '\n')
    (whole : ∀ line ∈ lines, c ∉ line.toList) : c ∉ (unlines lines).toList := by
  rw [toList_unlines]
  intro mem
  simp only [List.mem_flatMap, List.mem_map, List.mem_append, List.mem_singleton] at mem
  obtain ⟨-, ⟨line, hline, rfl⟩, inside | atEnd⟩ := mem
  · exact whole line hline inside
  · exact notEnd atEnd

-- ==================================================== rendered classes

namespace Class

/-- When an entity has a class name, and which. -/
theorem nameOf_eq_ok_iff {entity : Entity} {name : String} :
    nameOf entity = .ok name ↔
      entity.nonMapping = none ∧ entity.attributes?.isSome = true ∧
        entity.outputTypeName? = some name ∧ Naming.isIdentifier name = true := by
  cases nonMapping : entity.nonMapping with
  | some definition =>
      simp [nameOf, nonMapping, bind, Except.bind, throw, throwThe, MonadExceptOf.throw]
  | none =>
      cases attributes : entity.attributes? with
      | none =>
          simp [nameOf, nonMapping, attributes, bind, Except.bind, throw, throwThe,
            MonadExceptOf.throw]
      | some entries =>
          cases found : entity.outputTypeName? with
          | none =>
              simp [nameOf, nonMapping, attributes, found, throw, throwThe, MonadExceptOf.throw]
          | some other =>
              cases identifier : Naming.isIdentifier other with
              | false =>
                  constructor
                  · intro h
                    simp [nameOf, nonMapping, attributes, found, identifier, throw, throwThe,
                      MonadExceptOf.throw] at h
                  · rintro ⟨-, -, eq, checked⟩
                    cases eq
                    rw [identifier] at checked
                    cases checked
              | true =>
                  constructor
                  · intro h
                    have eq : other = name := by
                      simpa [nameOf, nonMapping, attributes, found, identifier, pure,
                        Except.pure] using h
                    exact ⟨rfl, rfl, congrArg some eq, eq ▸ identifier⟩
                  · rintro ⟨-, -, eq, -⟩
                    cases eq
                    simp [nameOf, nonMapping, attributes, found, identifier, pure, Except.pure]

/-- A rendered class has the entity's class name and the lines of its fields. -/
theorem render_eq_ok_iff {entity : Entity} {package : String} {cls : Class} :
    render entity package = .ok cls ↔
      ∃ name, nameOf entity = .ok name ∧
        cls = ⟨name, entity.name, unlines (classLines package name entity.fields),
          (Field.ofProperties entity.name [] entity.properties).2⟩ := by
  unfold render
  cases nameOf entity with
  | error fault => simp [bind, Except.bind]
  | ok name => simp [bind, Except.bind, pure, Except.pure, Entity.fields, eq_comm]

/-- A class carries the name of its entity. -/
theorem entity_of_render {entity : Entity} {package : String} {cls : Class}
    (h : render entity package = .ok cls) : cls.entity = entity.name := by
  obtain ⟨name, -, rfl⟩ := render_eq_ok_iff.1 h
  rfl

/-- The name of a class is the one that the attributes of its entity ask for. -/
theorem outputTypeName?_of_render {entity : Entity} {package : String} {cls : Class}
    (h : render entity package = .ok cls) : entity.outputTypeName? = some cls.name := by
  obtain ⟨name, named, rfl⟩ := render_eq_ok_iff.1 h
  exact (nameOf_eq_ok_iff.1 named).2.2.1

/-- What is reported beside a class is what its columns without a field have been found to be. -/
theorem skipped_of_render {entity : Entity} {package : String} {cls : Class}
    (h : render entity package = .ok cls) :
    cls.skipped = (Field.ofProperties entity.name [] entity.properties).2 := by
  obtain ⟨name, -, rfl⟩ := render_eq_ok_iff.1 h
  rfl

/-- The text of a class is that of its name and its fields. -/
theorem source_eq_of_render {entity : Entity} {package : String} {cls : Class}
    (h : render entity package = .ok cls) :
    cls.source = unlines (classLines package cls.name entity.fields) := by
  obtain ⟨name, -, rfl⟩ := render_eq_ok_iff.1 h
  rfl

/-- The lines of a class that has been rendered. -/
theorem source_of_render {entity : Entity} {package : String} {cls : Class}
    (h : render entity package = .ok cls) :
    Naming.isIdentifier cls.name = true ∧
      cls.source = unlines (layout package cls.name entity.fields) := by
  obtain ⟨name, named, rfl⟩ := render_eq_ok_iff.1 h
  refine ⟨(nameOf_eq_ok_iff.1 named).2.2.2, ?_⟩
  have fieldLines : entity.fields.flatMap Field.lines =
      entity.fields.flatMap fun field => field.comment :: field.code := by
    rw [List.flatMap_def, List.map_congr_left fun field mem =>
      Field.lines_eq (Entity.ofProperty_of_mem_fields mem), ← List.flatMap_def]
  show unlines (classLines package name entity.fields) = _
  rw [classLines, fieldLines]
  rfl

end Class

end SchemaClasses
