/-
The name of a class and the names its code uses.

The code of a class calls types by simple names: the class itself, the
types of its fields, the two annotations. What is imported goes by the
last part of its path, and what is neither imported nor declared comes
from the language's own package. The class name is free text, so it may
be one of these names too, and nothing keeps the two apart. An import
then stands beside a declaration of the same name, or a field of a type
of the language has the class itself for its type.

Which names the code uses can be told from the columns. A class under
any other name has code in which every name means what it is meant to
(`clear_iff_of_render`), since no two of the imports share a simple name.
A class under one of these names need not (`conflict_dateTime`).
-/
import SchemaClasses.Proofs.Class.Imports
import SchemaClasses.Proofs.Class.Outline

namespace SchemaClasses

-- ======================================================= simple names

/-- What an import goes by: the last part of its path. -/
def simpleName (path : String) : String := ((Naming.packageSegments path).getLast?).getD path

/-- The simple names that the code of a class uses, apart from its own. -/
def usedNames (fields : List Field) : List String :=
  "Data" :: (if fields.any (·.serializedName?.isSome) then ["SerializedName"] else []) ++
    fields.map (·.type.name)

namespace Outline

/-- The class is called like nothing that its code imports or has fields of. -/
structure Clear (outline : Outline) : Prop where
  imports : ∀ path ∈ outline.imports, simpleName path ≠ outline.name
  types : ∀ declaration ∈ outline.declarations, declaration.type ≠ outline.name

/-- What is called by a simple name in a file: the class it declares, and what it imports. -/
def called (outline : Outline) (name : String) : List String :=
  (if outline.name = name then [outline.package ++ "." ++ outline.name] else []) ++
    outline.imports.filter (simpleName · = name)

/-- The type that a simple name denotes in a file, as far as the file says. What nothing there is
called is a type of the language; where several things are called so there is a conflict. -/
def denoted? (outline : Outline) (name : String) : Option String :=
  match outline.called name with
  | [] => some ("java.lang." ++ name)
  | [path] => some path
  | _ => none

end Outline

/-- The path of a type: its import, or else its place in the package of the language. -/
def FieldType.path (type : FieldType) : String :=
  type.importName.getD ("java.lang." ++ type.name)

/-- The imports of types go by the names of the types. -/
theorem importName_eq_iff (category : Category) :
    ∀ path ∈ knownImports, category.fieldType.importName = some path ↔
      simpleName path = category.fieldType.name := by
  cases category <;> decide +kernel

/-- No two imports go by one name. -/
theorem eq_of_simpleName_eq : ∀ path ∈ knownImports, ∀ other ∈ knownImports,
    simpleName other = simpleName path → other = path := by
  decide +kernel

variable {fields : List Field} {name : String}

/-- The names that the code uses are those of the imports and those of the types of the fields. -/
theorem mem_usedNames_iff
    (made : ∀ field ∈ fields, Field.ofProperty field.property = .ok field) :
    name ∈ usedNames fields ↔
      (∃ path ∈ importsOf fields, simpleName path = name) ∨
        ∃ field ∈ fields, field.type.name = name := by
  have annotations : simpleName "lombok.Data" = "Data" ∧
      simpleName "com.google.gson.annotations.SerializedName" = "SerializedName" := by
    decide +kernel
  have used : name ∈ usedNames fields ↔ name = "Data" ∨
      name = "SerializedName" ∧ fields.any (·.serializedName?.isSome) = true ∨
        ∃ field ∈ fields, field.type.name = name := by
    unfold usedNames
    rw [List.cons_append, List.mem_cons, List.mem_append, List.mem_map]
    refine or_congr Iff.rfl (or_congr ?_ Iff.rfl)
    split
    next renamed => simp [renamed]
    next notRenamed => simp [notRenamed]
  rw [used]
  constructor
  · rintro (rfl | ⟨rfl, renamed⟩ | type)
    · exact .inl ⟨_, mem_importsOf_iff.2 (.inl rfl), annotations.1⟩
    · exact .inl ⟨_, mem_importsOf_iff.2 (.inr (.inl ⟨rfl, renamed⟩)), annotations.2⟩
    · exact .inr type
  · rintro (⟨path, imported, rfl⟩ | type)
    · rcases mem_importsOf_iff.1 imported with rfl | ⟨rfl, renamed⟩ | ⟨field, isField, own⟩
      · exact .inl annotations.1
      · exact .inr (.inl ⟨annotations.2, renamed⟩)
      · obtain ⟨category, type⟩ := Field.type_of_ofProperty (made field isField)
        have known := mem_knownImports_of_mem_importsOf made imported
        rw [type] at own
        have simple := (importName_eq_iff category path known).1 own
        exact .inr (.inr ⟨field, isField, by rw [type, simple]⟩)
    · exact .inr (.inr type)

namespace Outline

variable {outline : Outline}

/-- An import that nothing else is called like is what its name denotes. -/
theorem denoted?_of_import {path : String} (distinct : outline.imports.Nodup)
    (mem : path ∈ outline.imports)
    (only : ∀ other ∈ outline.imports, simpleName other = simpleName path → other = path)
    (clear : simpleName path ≠ outline.name) :
    outline.denoted? (simpleName path) = some path := by
  have imported : outline.imports.filter (simpleName · = simpleName path) = [path] := by
    have own : ∀ other ∈ outline.imports,
        decide (simpleName other = simpleName path) = (other == path) := by
      intro other isImport
      rw [beq_eq_decide, decide_eq_decide]
      exact ⟨only other isImport, fun same => same ▸ rfl⟩
    rw [List.filter_congr own, List.filter_beq, List.count_eq_one_of_mem distinct mem,
      List.replicate_one]
  rw [denoted?, called, if_neg (Ne.symm clear), imported, List.nil_append]

/-- A name that nothing is called is one of the language. -/
theorem denoted?_of_not_called (unimported : ∀ path ∈ outline.imports, simpleName path ≠ name)
    (clear : name ≠ outline.name) : outline.denoted? name = some ("java.lang." ++ name) := by
  have none : outline.imports.filter (simpleName · = name) = [] := by
    simpa using unimported
  rw [denoted?, called, if_neg (Ne.symm clear), none, List.nil_append]

/-- The name of a class denotes nothing where an import goes by it too. -/
theorem denoted?_eq_none {path : String} (mem : path ∈ outline.imports)
    (same : simpleName path = outline.name) : outline.denoted? outline.name = none := by
  have imported : path ∈ outline.imports.filter (simpleName · = outline.name) :=
    List.mem_filter.2 ⟨mem, decide_eq_true same⟩
  rw [denoted?, called, if_pos rfl]
  cases found : outline.imports.filter (simpleName · = outline.name) with
  | nil =>
      rw [found] at imported
      cases imported
  | cons first others => rfl

variable {package : String}

/-- A class with fields made from columns is clear exactly if its name is none that its code
uses. -/
theorem clear_iff (made : ∀ field ∈ fields, Field.ofProperty field.property = .ok field) :
    Clear ⟨package, importsOf fields, name, fields.map Field.declared⟩ ↔
      name ∉ usedNames fields := by
  rw [mem_usedNames_iff made, not_or]
  constructor
  · rintro ⟨imports, types⟩
    refine ⟨?_, ?_⟩
    · rintro ⟨path, imported, same⟩
      exact imports path imported same
    · rintro ⟨field, isField, same⟩
      exact types _ (List.mem_map_of_mem isField) same
  · rintro ⟨imports, types⟩
    refine ⟨fun path imported same => imports ⟨path, imported, same⟩, ?_⟩
    intro declaration mem same
    obtain ⟨field, isField, rfl⟩ := List.mem_map.1 mem
    exact types ⟨field, isField, same⟩

/-- In a clear class every import is what its name denotes. -/
theorem denoted?_import {path : String}
    (made : ∀ field ∈ fields, Field.ofProperty field.property = .ok field)
    (clear : Clear ⟨package, importsOf fields, name, fields.map Field.declared⟩)
    (imported : path ∈ importsOf fields) :
    denoted? ⟨package, importsOf fields, name, fields.map Field.declared⟩ (simpleName path) =
      some path := by
  have known : ∀ path ∈ importsOf fields, path ∈ knownImports :=
    fun _ => mem_knownImports_of_mem_importsOf made
  have only : ∀ other ∈ importsOf fields, simpleName other = simpleName path → other = path :=
    fun other isImport =>
      eq_of_simpleName_eq path (known path imported) other (known other isImport)
  exact denoted?_of_import (nodup_importsOf fields) imported only (clear.imports path imported)

/-- In a clear class the name of a field's type denotes that type. -/
theorem denoted?_type {field : Field}
    (made : ∀ field ∈ fields, Field.ofProperty field.property = .ok field)
    (clear : Clear ⟨package, importsOf fields, name, fields.map Field.declared⟩)
    (isField : field ∈ fields) :
    denoted? ⟨package, importsOf fields, name, fields.map Field.declared⟩ field.type.name =
      some field.type.path := by
  obtain ⟨category, type⟩ := Field.type_of_ofProperty (made field isField)
  cases own : category.fieldType.importName with
  | some path =>
      have imported : path ∈ importsOf fields :=
        mem_importsOf_iff.2 (.inr (.inr ⟨field, isField, type ▸ own⟩))
      have known := mem_knownImports_of_mem_importsOf made imported
      have simple := (importName_eq_iff category path known).1 own
      rw [FieldType.path, type, own, ← simple]
      exact denoted?_import made clear imported
  | none =>
      -- what goes by the name of a type is the import of that type, and this one has none
      have unimported : ∀ path ∈ importsOf fields, simpleName path ≠ field.type.name := by
        intro path imported same
        have known := mem_knownImports_of_mem_importsOf made imported
        rw [type, ← importName_eq_iff category path known, own] at same
        cases same
      rw [FieldType.path, show field.type.importName = none by rw [type, own]]
      exact denoted?_of_not_called unimported
        (clear.types _ (List.mem_map_of_mem (f := Field.declared) isField))

end Outline

namespace Class

variable {entity : Entity} {package : String} {cls : Class}

/-- A class is clear of the names in its file exactly if its name is none that its code uses. Then
every import is what its name denotes, and the name of each field's type denotes that type. -/
theorem clear_iff_of_render (hpackage : Naming.isPackage package = true)
    (rendered : render entity package = .ok cls) :
    ∃ outline, Outline.ofText? cls.source = some outline ∧ outline.name = cls.name ∧
      (outline.Clear ↔ cls.name ∉ usedNames entity.fields) ∧
      (outline.Clear →
        (∀ path ∈ outline.imports, outline.denoted? (simpleName path) = some path) ∧
          List.Forall₂ (fun declaration field =>
            outline.denoted? declaration.type = some field.type.path)
            outline.declarations entity.fields) := by
  have made : ∀ field ∈ entity.fields, Field.ofProperty field.property = .ok field :=
    fun _ mem => Entity.ofProperty_of_mem_fields mem
  have read := Outline.ofText?_source hpackage rendered
  exact ⟨_, read, rfl, Outline.clear_iff made, fun clear =>
    ⟨fun path imported => Outline.denoted?_import made clear imported,
      List.forall₂_map_left_iff.2 (List.forall₂_same.2 fun field isField =>
        Outline.denoted?_type made clear isField)⟩⟩

/-- The definition of an entity with a moment as its column, under a class name. -/
def momentEntries (className : String) : Entries :=
  [("_attributes", .mapping [("phpName", .string className)]),
    ("at", .mapping [("type", .string "TIMESTAMP")])]

/-- What the code of such a class says. -/
theorem outline_moment {className : String}
    (rendered : render (Entity.ofDefinition "moment" (.mapping (momentEntries className)))
      "demo.model" = .ok cls) :
    Outline.ofText? cls.source = some ⟨"demo.model", ["lombok.Data", "org.joda.time.DateTime"],
      className, [⟨"DateTime", "at", none⟩]⟩ := by
  have name : some className = some cls.name := outputTypeName?_of_render rendered
  rw [Outline.ofText?_source (by decide) rendered, ← Option.some.inj name]
  rfl

theorem clear_moment :
    ∃ cls outline, render (Entity.ofDefinition "moment" (.mapping (momentEntries "Moment")))
        "demo.model" = .ok cls ∧
      Outline.ofText? cls.source = some outline ∧ outline.Clear ∧
      simpleName "org.joda.time.DateTime" = "DateTime" ∧
      outline.denoted? (simpleName "org.joda.time.DateTime") = some "org.joda.time.DateTime" := by
  obtain ⟨cls, rendered⟩ : ∃ cls,
      render (Entity.ofDefinition "moment" (.mapping (momentEntries "Moment"))) "demo.model" =
        .ok cls := ⟨_, rfl⟩
  obtain ⟨outline, read, -, iff, denotes⟩ := clear_iff_of_render (by decide) rendered
  have imported : "org.joda.time.DateTime" ∈ outline.imports := by
    cases read.symm.trans (outline_moment rendered)
    decide
  have clear : outline.Clear := by
    rw [iff]
    cases rendered
    decide +kernel
  exact ⟨cls, outline, rendered, read, clear, by decide +kernel,
    (denotes clear).1 _ imported⟩

/-- A class may be called like a type that it imports for a field: the name then stands for the
class and for the import, and so for nothing. -/
theorem conflict_dateTime :
    Naming.isPackage "demo.model" = true ∧
      ∃ cls outline, render (Entity.ofDefinition "moment" (.mapping (momentEntries "DateTime")))
          "demo.model" = .ok cls ∧
        Outline.ofText? cls.source = some outline ∧
        outline.name = "DateTime" ∧ "org.joda.time.DateTime" ∈ outline.imports ∧
        outline.declarations = [⟨"DateTime", "at", none⟩] ∧
        ¬ outline.Clear ∧ outline.denoted? "DateTime" = none := by
  obtain ⟨cls, rendered⟩ : ∃ cls,
      render (Entity.ofDefinition "moment" (.mapping (momentEntries "DateTime"))) "demo.model" =
        .ok cls := ⟨_, rfl⟩
  have simple : simpleName "org.joda.time.DateTime" = "DateTime" := by decide +kernel
  have imported : "org.joda.time.DateTime" ∈ ["lombok.Data", "org.joda.time.DateTime"] := by decide
  exact ⟨by decide, cls, _, rendered, outline_moment rendered, rfl, imported, rfl,
    fun clear => clear.imports _ imported simple, Outline.denoted?_eq_none imported simple⟩

end Class

end SchemaClasses
