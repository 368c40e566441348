/-
A class imports what its text uses.

The imports are made from one look at the fields and the lines of the
fields from another, so the two could part. They do not. The lines of
the text that import something are those at its head and no others, they
ascend, and each is there for something further down that uses it: the
annotation of the class, a line that binds a field, or a declaration
whose type it brings in. The other way round, what a declaration calls
its type is a type of the language or the last part of one import.

All of this is read off the text (`Outline.ImportsInUse`). A column
without a field leaves nothing in the text, hence no import: with the
columns that have one alone, an entity becomes the same class.
-/
import SchemaClasses.Proofs.Class.Clashes
import SchemaClasses.Proofs.Class.Relevance

namespace SchemaClasses

-- ============================================================== lines

/-- The line of an import. -/
def importLine (path : String) : String := "import " ++ path ++ ";"

/-- The line imports something. -/
def isImport (line : String) : Bool := "import ".toList.isPrefixOf line.toList

/-- The line has nothing before the annotation that binds a field but blanks. -/
def isBinding (line : String) : Bool :=
  "@SerializedName".toList.isPrefixOf (line.toList.dropWhile (· = ' '))

/-- The bytes of a text. -/
def bytesOf (text : String) : List UInt8 := text.toUTF8.data.toList

/-- The types of the language's own package that fields have. -/
def languageTypes : List String := ["Integer", "String"]

/-- What a text imports is what it uses, and each of it once. -/
structure Outline.ImportsInUse (outline : Outline) (text : String) : Prop where
  /-- The imports are all the lines that import something. -/
  lines : (linesOf text).filter isImport = outline.imports.map importLine
  /-- These lines ascend, and no two are the same. -/
  ascending : ((linesOf text).filter isImport).Pairwise (bytesOf · < bytesOf ·)
  /-- Something uses each import, and each import that something uses is there. -/
  exact : ∀ path, path ∈ outline.imports ↔
    path = "lombok.Data" ∨
      path = "com.google.gson.annotations.SerializedName" ∧
        (∃ line ∈ linesOf text, isBinding line = true) ∨
      ∃ declaration ∈ outline.declarations, ∃ category : Category,
        category.fieldType = ⟨declaration.type, some path⟩
  /-- Each type that a field has is one of the language, or what one import brings in. -/
  types : ∀ declaration ∈ outline.declarations,
    (declaration.type ∈ languageTypes ∧
        ∀ path ∈ outline.imports, simpleName path ≠ declaration.type) ∨
      ∃! path, path ∈ outline.imports ∧ simpleName path = declaration.type

-- ============================================================ one line

/-- A text starts with what has been put in front. -/
theorem isPrefixOf_append (front rest : List Char) : front.isPrefixOf (front ++ rest) = true :=
  List.isPrefixOf_iff_prefix.2 (List.prefix_append front rest)

theorem isImport_importLine (path : String) : isImport (importLine path) = true := by
  unfold isImport importLine
  rw [String.append_assoc, String.toList_append, isPrefixOf_append]

theorem isBinding_bindingLine (name : String) : isBinding (Field.bindingLine name) = true := by
  have indented : ∀ rest, ("    @SerializedName(\"".toList ++ rest).dropWhile (· = ' ') =
      "@SerializedName".toList ++ ("(\"".toList ++ rest) := fun _ => rfl
  unfold isBinding Field.bindingLine
  rw [String.append_assoc, String.toList_append, indented, isPrefixOf_append]

/-- What the lines of a class start with that neither import anything nor bind a field. -/
def otherFronts : List String := ["package ", "public class ", "    // \x7b", "    private "]

/-- The lines of a class that do neither and are always the same. -/
def otherLines : List String := ["", "@Data", "\x7d"]

theorem isImport_append : ∀ front ∈ "    @SerializedName(\"" :: otherFronts,
    ∀ rest, isImport (front ++ rest) = false := by
  intro front mem rest
  unfold isImport
  rw [String.toList_append]
  simp only [otherFronts, List.mem_cons, List.not_mem_nil, or_false] at mem
  rcases mem with rfl | rfl | rfl | rfl | rfl <;> rfl

theorem isBinding_append : ∀ front ∈ "import " :: otherFronts,
    ∀ rest, isBinding (front ++ rest) = false := by
  intro front mem rest
  unfold isBinding
  rw [String.toList_append]
  simp only [otherFronts, List.mem_cons, List.not_mem_nil, or_false] at mem
  rcases mem with rfl | rfl | rfl | rfl | rfl <;> rfl

-- ==================================================== lines of a class

section

variable {mark : String → Bool} (package name : String) (fields : List Field)

/-- Of the lines of a field, a mark that is for none of the others is at most on the one that binds
it. -/
theorem Field.filter_lines (fronts : ∀ front ∈ otherFronts, ∀ rest, mark (front ++ rest) = false)
    (others : ∀ line ∈ otherLines, mark line = false) (field : Field) :
    (field.comment :: field.code).filter mark =
      ((field.serializedName?.map bindingLine).toList).filter mark := by
  have comment : mark field.comment = false := by
    rw [Field.comment, String.append_assoc]
    exact fronts _ (by decide) _
  have declaration : mark field.declaration = false := by
    rw [Field.declaration]
    simp only [String.append_assoc]
    exact fronts _ (by decide) _
  have blank : mark "" = false := others _ (by decide)
  unfold code
  simp [comment, declaration, blank]

/-- Of the lines of a class, it is at most on those that import something and those that bind a
field. -/
theorem filter_layout (fronts : ∀ front ∈ otherFronts, ∀ rest, mark (front ++ rest) = false)
    (others : ∀ line ∈ otherLines, mark line = false) :
    (layout package name fields ++ [""]).filter mark =
      ((importsOf fields).map importLine).filter mark ++
        fields.flatMap fun field =>
          ((field.serializedName?.map Field.bindingLine).toList).filter mark := by
  have packageLine : mark ("package " ++ package ++ ";") = false := by
    rw [String.append_assoc]
    exact fronts _ (by decide) _
  have classLine : mark ("public class " ++ name ++ " \x7b") = false := by
    rw [String.append_assoc]
    exact fronts _ (by decide) _
  have body : (fields.flatMap fun field => field.comment :: field.code).filter mark =
      fields.flatMap fun field =>
        ((field.serializedName?.map Field.bindingLine).toList).filter mark := by
    simp only [List.filter_flatMap, Field.filter_lines fronts others]
  have blank : mark "" = false := others _ (by decide)
  have data : mark "@Data" = false := others _ (by decide)
  have brace : mark "\x7d" = false := others _ (by decide)
  have head : headLines package name (importsOf fields) =
      ["package " ++ package ++ ";", ""] ++ (importsOf fields).map importLine ++
        ["", "@Data", "public class " ++ name ++ " \x7b", ""] := rfl
  rw [layout, head]
  simp [packageLine, classLine, body, blank, data, brace]

/-- The lines of a class that import something are those of its imports. -/
theorem filter_isImport_layout :
    (layout package name fields ++ [""]).filter isImport = (importsOf fields).map importLine := by
  have imports : ((importsOf fields).map importLine).filter isImport =
      (importsOf fields).map importLine := by
    refine List.filter_eq_self.2 fun line mem => ?_
    obtain ⟨path, -, rfl⟩ := List.mem_map.1 mem
    exact isImport_importLine path
  have bindings : ∀ bound : Option String,
      ((bound.map Field.bindingLine).toList).filter isImport = [] := by
    intro bound
    refine List.filter_eq_nil_iff.2 fun line mem => ?_
    obtain ⟨name, -, rfl⟩ := Option.map_eq_some_iff.1 (Option.mem_toList.1 mem)
    unfold Field.bindingLine
    rw [String.append_assoc, isImport_append _ (by decide)]
    exact Bool.false_ne_true
  rw [filter_layout package name fields
    (fun front mem => isImport_append front (List.mem_cons_of_mem _ mem)) (by decide), imports]
  simp [bindings]

/-- Those that bind a field are there for the fields that have a name to be bound to. -/
theorem filter_isBinding_layout :
    (layout package name fields ++ [""]).filter isBinding =
      fields.flatMap fun field => (field.serializedName?.map Field.bindingLine).toList := by
  have imports : ((importsOf fields).map importLine).filter isBinding = [] := by
    refine List.filter_eq_nil_iff.2 fun line mem => ?_
    obtain ⟨path, -, rfl⟩ := List.mem_map.1 mem
    unfold importLine
    rw [String.append_assoc, isBinding_append _ (by decide)]
    exact Bool.false_ne_true
  have bindings : ∀ bound : Option String,
      ((bound.map Field.bindingLine).toList).filter isBinding =
        (bound.map Field.bindingLine).toList := by
    intro bound
    refine List.filter_eq_self.2 fun line mem => ?_
    obtain ⟨name, -, rfl⟩ := Option.map_eq_some_iff.1 (Option.mem_toList.1 mem)
    exact isBinding_bindingLine name
  rw [filter_layout package name fields
    (fun front mem => isBinding_append front (List.mem_cons_of_mem _ mem)) (by decide), imports]
  simp [bindings]

/-- So there is one exactly if a field has such a name. -/
theorem exists_isBinding_iff :
    (∃ line ∈ layout package name fields ++ [""], isBinding line = true) ↔
      fields.any (·.serializedName?.isSome) = true := by
  simp only [← List.mem_filter, filter_isBinding_layout, List.mem_flatMap, Option.mem_toList,
    Option.map_eq_some_iff, List.any_eq_true, Option.isSome_iff_exists]
  constructor
  · rintro ⟨line, field, mem, bound, binds, -⟩
    exact ⟨field, mem, bound, binds⟩
  · rintro ⟨field, mem, bound, binds⟩
    exact ⟨_, field, mem, bound, binds, rfl⟩

end

-- ============================================================== types

/-- No two categories have types of one name. -/
theorem eq_of_name_fieldType {category other : Category}
    (h : category.fieldType.name = other.fieldType.name) : category = other := by
  revert h
  cases category <;> cases other <;> decide

/-- A type is one of the language exactly if it has no import. -/
theorem importName_eq_none_iff (category : Category) :
    category.fieldType.importName = none ↔ category.fieldType.name ∈ languageTypes := by
  cases category <;> decide

/-- Imports that ascend have lines that ascend. -/
theorem bytesOf_importLine_lt : ∀ path ∈ knownImports, ∀ other ∈ knownImports, path < other →
    bytesOf (importLine path) < bytesOf (importLine other) := by
  decide +kernel

variable {fields : List Field}

/-- What is imported for the type of a field is what brings in the type that its declaration
names. -/
theorem exists_importName_iff (made : ∀ field ∈ fields, Field.ofProperty field.property = .ok field)
    (path : String) :
    (∃ field ∈ fields, field.type.importName = some path) ↔
      ∃ declaration ∈ fields.map Field.declared, ∃ category : Category,
        category.fieldType = ⟨declaration.type, some path⟩ := by
  constructor
  · rintro ⟨field, mem, imported⟩
    obtain ⟨category, type⟩ := Field.type_of_ofProperty (made field mem)
    refine ⟨field.declared, List.mem_map_of_mem mem, category, ?_⟩
    rw [← type, ← imported]
    rfl
  · rintro ⟨_, declared, category, type⟩
    obtain ⟨field, mem, rfl⟩ := List.mem_map.1 declared
    obtain ⟨own, ownType⟩ := Field.type_of_ofProperty (made field mem)
    -- a declaration says no more of its type than the name, and that is enough
    have names : own.fieldType.name = category.fieldType.name := by
      rw [type, ← ownType]
      rfl
    exact ⟨field, mem, by rw [ownType, eq_of_name_fieldType names, type]⟩

/-- The type of a field is one of the language, which nothing is imported for, or what one import
brings in. -/
theorem type_imported (made : ∀ field ∈ fields, Field.ofProperty field.property = .ok field)
    {field : Field} (mem : field ∈ fields) :
    (field.type.name ∈ languageTypes ∧
        ∀ path ∈ importsOf fields, simpleName path ≠ field.type.name) ∨
      ∃! path, path ∈ importsOf fields ∧ simpleName path = field.type.name := by
  obtain ⟨category, type⟩ := Field.type_of_ofProperty (made field mem)
  have brings : ∀ path ∈ importsOf fields,
      category.fieldType.importName = some path ↔ simpleName path = category.fieldType.name :=
    fun path imported =>
      importName_eq_iff category path (mem_knownImports_of_mem_importsOf made imported)
  rw [type]
  cases imported : category.fieldType.importName with
  | none =>
      -- an import of that name would be the import of the type, which has none
      refine .inl ⟨(importName_eq_none_iff category).1 imported, fun path isImport same => ?_⟩
      rw [← brings path isImport, imported] at same
      cases same
  | some path =>
      have isImport : path ∈ importsOf fields :=
        mem_importsOf_iff.2 (.inr (.inr ⟨field, mem, type ▸ imported⟩))
      refine .inr ⟨path, ⟨isImport, (brings path isImport).1 imported⟩, ?_⟩
      rintro other ⟨isOther, same⟩
      rw [← brings other isOther, imported] at same
      exact (Option.some.inj same).symm

-- ============================================ columns without a field

/-- The columns that have a field have the same fields by themselves, and none goes without. -/
theorem Field.ofProperties_kept (entity : String) (properties : List Property)
    (earlier : List Field) :
    ofProperties entity earlier
        ((ofProperties entity earlier properties).1.map (·.property)) =
      ((ofProperties entity earlier properties).1, []) := by
  induction properties generalizing earlier with
  | nil => rfl
  | cons property rest ih =>
      cases made : ofPropertyAfter earlier property with
      | error fault =>
          rw [ofProperties_cons_of_error made]
          exact ih earlier
      | ok field =>
          have origin : field.property = property :=
            property_of_ofProperty (ofPropertyAfter_eq_ok_iff.1 made).1
          rw [ofProperties_cons_of_ok made, List.map_cons, origin, ofProperties_cons_of_ok made,
            ih (earlier ++ [field])]

/-- An entity without its columns that have no field. -/
def Entity.kept (entity : Entity) : Entity :=
  { entity with properties := entity.fields.map (·.property) }

namespace Class

variable {entity : Entity} {package : String} {cls : Class}

/-- Columns without a field can be seen in what is reported beside a class and nowhere else. -/
theorem render_kept (rendered : render entity package = .ok cls) :
    render entity.kept package = .ok { cls with skipped := [] } := by
  obtain ⟨name, named, rfl⟩ := render_eq_ok_iff.1 rendered
  have columns : Field.ofProperties entity.kept.name [] entity.kept.properties =
      (entity.fields, []) := Field.ofProperties_kept entity.name entity.properties []
  have fields : entity.kept.fields = entity.fields := by
    rw [Entity.fields, columns]
  refine render_eq_ok_iff.2 ⟨name, named, ?_⟩
  rw [fields, columns]
  rfl

/-- A class imports what its text uses and nothing else, in ascending order and each once. What
has no field has no part in it. -/
theorem importsInUse_of_render (hpackage : Naming.isPackage package = true)
    (rendered : render entity package = .ok cls) :
    (∃ outline, Outline.ofText? cls.source = some outline ∧ outline.ImportsInUse cls.source) ∧
      ∃ bare, render entity.kept package = .ok bare ∧ bare.source = cls.source ∧
        bare.skipped = [] := by
  have made : ∀ field ∈ entity.fields, Field.ofProperty field.property = .ok field :=
    fun _ mem => Entity.ofProperty_of_mem_fields mem
  have importing : (linesOf cls.source).filter isImport =
      (importsOf entity.fields).map importLine := by
    rw [linesOf_source hpackage rendered, filter_isImport_layout]
  have binding : (∃ line ∈ linesOf cls.source, isBinding line = true) ↔
      entity.fields.any (·.serializedName?.isSome) = true := by
    rw [linesOf_source hpackage rendered]
    exact exists_isBinding_iff package cls.name entity.fields
  refine ⟨⟨_, Outline.ofText?_source hpackage rendered, importing, ?_, ?_, ?_⟩,
    _, render_kept rendered, rfl, rfl⟩
  · rw [importing, List.pairwise_map]
    exact (pairwise_importsOf entity.fields).imp_of_mem fun isPath isOther before =>
      bytesOf_importLine_lt _ (mem_knownImports_of_mem_importsOf made isPath) _
        (mem_knownImports_of_mem_importsOf made isOther) before
  · intro path
    rw [binding, ← exists_importName_iff made]
    exact mem_importsOf_iff
  · intro declaration mem
    obtain ⟨field, isField, rfl⟩ := List.mem_map.1 mem
    exact type_imported made isField

/-- The definition of an entity with two columns of one type, one that is renamed, and two columns
that have no field: one of a type that is not in the vocabulary, and one whose name another column
comes to before it. -/
def visitEntries : Entries :=
  [("_attributes", .mapping [("phpName", .string "Visit")]),
    ("from", .mapping [("type", .string "TIMESTAMP")]),
    ("seen_at", .mapping [("type", .string "TIMESTAMP")]),
    ("beds", .mapping [("type", .string "INTEGER")]),
    ("shape", .mapping [("type", .string "ENUM")]),
    ("seenAt", .mapping [("type", .string "DECIMAL")])]

theorem importsInUse_visit :
    ∃ cls, render (Entity.ofDefinition "visit" (.mapping visitEntries)) "demo.model" = .ok cls ∧
      ∃ outline, Outline.ofText? cls.source = some outline ∧ outline.ImportsInUse cls.source ∧
        outline.imports = ["com.google.gson.annotations.SerializedName", "lombok.Data",
          "org.joda.time.DateTime"] := by
  have rendered : ∃ cls, render (Entity.ofDefinition "visit" (.mapping visitEntries))
      "demo.model" = .ok cls := ⟨_, rfl⟩
  obtain ⟨cls, rendered⟩ := rendered
  obtain ⟨⟨outline, read, inUse⟩, -⟩ := importsInUse_of_render (by decide) rendered
  refine ⟨cls, rendered, outline, read, inUse, ?_⟩
  have whole := Outline.ofText?_source (by decide) rendered
  rw [read] at whole
  rw [Option.some.inj whole]
  show importsOf _ = _
  decide +kernel

end Class

end SchemaClasses
