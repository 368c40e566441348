/-
Reading a class back from its text.

An outline is all that the code of a class says: its package, what it
imports, its name, and for every field the type, the name and the name
it is bound to. The reader here knows the layout and nothing else. It
cuts the text at its line ends, takes every line for what its place says
it is, and fails where a line does not look like that; comments it
passes over without a look.

The reader recovers the outline of every class whose names are in order
(`Outline.ofText?_source`). No comment can get in its way, since what is in a
comment stays on the line of the comment.
-/
import SchemaClasses.Proofs.Class.Source

namespace SchemaClasses

-- ============================================================ outlines

/-- What the code of a class says about a field. -/
structure Declaration where
  type : String
  name : String
  /-- The name that a string literal above the declaration binds the field to. -/
  override : Option String
deriving DecidableEq, Repr

/-- The name of a field in documents: the one it is bound to, or else its own. -/
def Declaration.boundName (d : Declaration) : String := d.override.getD d.name

/-- What the code of a class says. -/
structure Outline where
  package : String
  imports : List String
  name : String
  declarations : List Declaration
deriving DecidableEq, Repr

-- ============================================================== reading

/-- What stands in a line between the fixed text at its two ends. -/
def between? (before after line : String) : Option String :=
  let rest := line.toList.drop before.toList.length
  if before.toList.isPrefixOf line.toList && after.toList.isSuffixOf rest then
    some (String.ofList (rest.take (rest.length - after.toList.length)))
  else none

/-- The line is a comment. -/
def isComment (line : String) : Bool := (between? "    // " "" line).isSome

/-- The name that a line binds a field to, its string literal decoded. -/
def readBinding (line : String) : Option String :=
  (between? "    @SerializedName(\"" "\")" line).bind fun inside => Lexical.literal? inside.toList

/-- The type and the name that a line declares. -/
def readDeclaration (override : Option String) (line : String) : Option Declaration :=
  match (between? "    private " ";" line).map fun inside => Text.pieces ' ' inside.toList with
  | some [type, name] => some ⟨String.ofList type, String.ofList name, override⟩
  | _ => none

/-- The declarations in the lines of fields, which the closing brace ends. -/
def readFields : List String → Option (List Declaration)
  | comment :: first :: second :: rest =>
    if isComment comment then
      match readBinding first with
      | some override =>
        match rest with
        | "" :: rest => do
          return (← readDeclaration (some override) second) :: (← readFields rest)
        | _ => none
      | none =>
        if second = "" then do
          return (← readDeclaration none first) :: (← readFields rest)
        else none
    else none
  | ["\x7d"] => some []
  | _ => none

/-- What is outlined in lines. -/
def Outline.ofLines? : List String → Option Outline
  | packageLine :: "" :: rest => do
    let package ← between? "package " ";" packageLine
    let imports ← (rest.takeWhile (· ≠ "")).mapM (between? "import " ";")
    match rest.dropWhile (· ≠ "") with
    | "" :: "@Data" :: classLine :: "" :: rest =>
      let name ← between? "public class " " \x7b" classLine
      let declarations ← readFields rest
      return ⟨package, imports, name, declarations⟩
    | _ => none
  | _ => none

/-- The lines of a text, each of which has to have an end. -/
def lines? (text : String) : Option (List String) :=
  let pieces := Text.pieces '\n' text.toList
  if pieces.getLast? = some [] then some (pieces.dropLast.map String.ofList) else none

/-- What is outlined in a text. -/
def Outline.ofText? (text : String) : Option Outline := (lines? text).bind Outline.ofLines?

-- =========================================================== one line

/-- What has been put between two ends is found there. -/
theorem between?_around (before inside after : String) :
    between? before after (before ++ inside ++ after) = some inside := by
  have rest : (before ++ inside ++ after).toList.drop before.toList.length =
      inside.toList ++ after.toList := by
    rw [String.toList_append, String.toList_append, List.append_assoc, List.drop_left]
  have front : before.toList.isPrefixOf (before ++ inside ++ after).toList = true := by
    rw [List.isPrefixOf_iff_prefix, String.toList_append, String.toList_append, List.append_assoc]
    exact List.prefix_append _ _
  have back : after.toList.isSuffixOf (inside.toList ++ after.toList) = true := by
    rw [List.isSuffixOf_iff_suffix]
    exact List.suffix_append _ _
  simp only [between?, rest, front, back, Bool.and_self, if_true, List.length_append,
    Nat.add_sub_cancel, List.take_left, String.ofList_toList]

/-- A line that starts otherwise has nothing between the two ends. -/
theorem between?_eq_none {before after line : String}
    (h : before.toList.isPrefixOf line.toList = false) : between? before after line = none := by
  simp only [between?, h, Bool.false_and, Bool.false_eq_true, if_false]

namespace Field

/-- What the code of a field says. -/
def declared (field : Field) : Declaration := ⟨field.type.name, field.name, field.serializedName?⟩

theorem isComment_comment (field : Field) : isComment field.comment = true := by
  have line : field.comment = "    // " ++ ("\x7b" ++ onOneLine field.shown ++ "\x7d") ++ "" := by
    rw [comment, String.append_empty]
    simp only [← String.append_assoc]
    rfl
  rw [isComment, line, between?_around]
  rfl

/-- A name without anything to escape is read back from its line. -/
theorem readBinding_bindingLine {name : String}
    (plain : ∀ sign ∈ Lexical.literalSigns, sign ∉ name.toList) :
    readBinding (bindingLine name) = some name := by
  have inside : between? "    @SerializedName(\"" "\")" (bindingLine name) = some name :=
    between?_around _ name _
  rw [readBinding, inside]
  exact Lexical.literal?_toList plain

/-- A declaration does not look like a line that binds a name. -/
theorem readBinding_declaration (field : Field) : readBinding field.declaration = none := by
  have front : "    @SerializedName(\"".toList.isPrefixOf field.declaration.toList = false := by
    have start : ∀ rest : List Char,
        "    @SerializedName(\"".toList.isPrefixOf ("    private ".toList ++ rest) = false := by
      intro rest
      rfl
    simp only [declaration, String.toList_append, List.append_assoc]
    exact start _
  rw [readBinding, between?_eq_none front, Option.bind_none]

/-- The type and the name of a field are read back from its declaration. -/
theorem readDeclaration_declaration {field : Field}
    (made : ofProperty field.property = .ok field) (override : Option String) :
    readDeclaration override field.declaration =
      some ⟨field.type.name, field.name, override⟩ := by
  have foreign : Naming.continuesIdentifier ' ' = false := by decide
  have type : ' ' ∉ field.type.name.toList := by
    obtain ⟨category, eq⟩ := type_of_ofProperty made
    rw [eq]
    exact Naming.notMem_of_isIdentifier (isIdentifier_fieldType category) foreign
  have name : ' ' ∉ field.name.toList :=
    Naming.notMem_of_isIdentifier (isIdentifier_of_ofProperty made) foreign
  have line : field.declaration =
      "    private " ++ (field.type.name ++ " " ++ field.name) ++ ";" := by
    simp only [declaration, String.append_assoc]
  have inside : (field.type.name ++ " " ++ field.name).toList =
      field.type.name.toList ++ ' ' :: field.name.toList := by
    rw [String.toList_append, String.toList_append, List.append_assoc]
    rfl
  rw [readDeclaration, line, between?_around, Option.map_some, inside,
    Text.pieces_append_cons type, Text.pieces_of_notMem name]
  simp only [String.ofList_toList]

/-- The lines of one field, in front of further lines, are read as its declaration. -/
theorem readFields_field {field : Field} (made : ofProperty field.property = .ok field)
    (rest : List String) :
    readFields (field.comment :: field.code ++ rest) =
      (readFields rest).map (field.declared :: ·) := by
  have line := isComment_comment field
  have declares := readDeclaration_declaration made
  unfold code declared serializedName?
  by_cases same : field.name = field.property.name
  · rw [if_pos same]
    cases others : readFields rest <;>
      simp [readFields, line, readBinding_declaration, declares, others]
  · rw [if_neg same]
    have binds := readBinding_bindingLine (plain_of_ofProperty made)
    cases others : readFields rest <;>
      simp [readFields, line, binds, declares, others]

/-- The lines of fields, with the closing brace, are read as their declarations. -/
theorem readFields_fields {fields : List Field}
    (made : ∀ field ∈ fields, ofProperty field.property = .ok field) :
    readFields ((fields.flatMap fun field => field.comment :: field.code) ++ ["\x7d"]) =
      some (fields.map declared) := by
  induction fields with
  | nil => rfl
  | cons field rest ih =>
      have own := made field List.mem_cons_self
      have later := ih fun other mem => made other (List.mem_cons_of_mem field mem)
      rw [List.flatMap_cons, List.append_assoc, readFields_field own, later, Option.map_some,
        List.map_cons]

end Field

-- ========================================================= whole texts

/-- Every import is read back from its line. -/
theorem mapM_between?_imports (imports : List String) :
    (imports.map fun path => "import " ++ path ++ ";").mapM (between? "import " ";") =
      some imports := by
  induction imports with
  | nil => rfl
  | cons path rest ih =>
      rw [List.map_cons, List.mapM_cons, between?_around, ih]
      rfl

/-- The line of an import is not empty. -/
theorem import_ne_empty (path : String) : "import " ++ path ++ ";" ≠ "" := by
  intro empty
  have := congrArg String.toList empty
  rw [String.append_assoc, String.toList_append] at this
  cases this

/-- The lines of imports are those before the first empty one. -/
theorem span_imports (imports rest : List String) :
    ((imports.map fun path => "import " ++ path ++ ";") ++ "" :: rest).takeWhile (· ≠ "") =
        (imports.map fun path => "import " ++ path ++ ";") ∧
      ((imports.map fun path => "import " ++ path ++ ";") ++ "" :: rest).dropWhile (· ≠ "") =
        "" :: rest := by
  have all : ∀ line ∈ imports.map (fun path => "import " ++ path ++ ";"), line ≠ "" := by
    intro line mem
    obtain ⟨path, -, rfl⟩ := List.mem_map.1 mem
    exact import_ne_empty path
  constructor
  · rw [List.takeWhile_append_of_pos fun line mem => decide_eq_true (all line mem)]
    simp
  · rw [List.dropWhile_append_of_pos fun line mem => decide_eq_true (all line mem)]
    simp

/-- The outline of a class whose fields were made from columns is read back from its lines. -/
theorem Outline.ofLines?_layout {package name : String} {fields : List Field}
    (made : ∀ field ∈ fields, Field.ofProperty field.property = .ok field) :
    Outline.ofLines? (layout package name fields) =
      some ⟨package, importsOf fields, name, fields.map Field.declared⟩ := by
  obtain ⟨front, back⟩ := span_imports (importsOf fields) ("@Data" :: ("public class " ++ name ++ " \x7b") ::
    "" :: ((fields.flatMap fun field => field.comment :: field.code) ++ ["\x7d"]))
  have lines : layout package name fields =
      ("package " ++ package ++ ";") :: "" ::
        (((importsOf fields).map fun path => "import " ++ path ++ ";") ++ "" :: "@Data" ::
          ("public class " ++ name ++ " \x7b") :: "" ::
            ((fields.flatMap fun field => field.comment :: field.code) ++ ["\x7d"])) := by
    simp only [layout, headLines, List.append_assoc, List.cons_append, List.nil_append]
  rw [lines, Outline.ofLines?, between?_around, Option.bind_eq_bind, Option.bind_some, front,
    mapM_between?_imports, Option.bind_eq_bind, Option.bind_some, back]
  simp only [between?_around, Field.readFields_fields made, Option.bind_eq_bind,
    Option.bind_some, Option.pure_def]

/-- Lines without line ends are read back from the text they make up. -/
theorem lines?_unlines {lines : List String} (whole : ∀ line ∈ lines, '\n' ∉ line.toList) :
    lines? (unlines lines) = some lines := by
  rw [lines?, pieces_unlines whole]
  simp

/-- The outline of a rendered class is read back from its text. -/
theorem Outline.ofText?_source {entity : Entity} {package : String} {cls : Class}
    (hpackage : Naming.isPackage package = true) (rendered : Class.render entity package = .ok cls) :
    Outline.ofText? cls.source =
      some ⟨package, importsOf entity.fields, cls.name, entity.fields.map Field.declared⟩ := by
  obtain ⟨named, source⟩ := Class.source_of_render rendered
  have made : ∀ field ∈ entity.fields, Field.ofProperty field.property = .ok field :=
    fun _ mem => Entity.ofProperty_of_mem_fields mem
  have whole : ∀ line ∈ layout package cls.name entity.fields, '\n' ∉ line.toList :=
    notMem_layout hpackage named made (by decide)
  rw [Outline.ofText?, source, lines?_unlines whole, Option.bind_some, Outline.ofLines?_layout made]

end SchemaClasses
