/-
The layout of a class whatever the metadata says.

Comments repeat what the schema says about a column, keys and values to
any depth, and a schema may say anything there: line ends, the end of a
comment, a whole declaration. None of it gets out of its line. The text
has as many lines as its fields ask for, each of the shape its place
asks for, and who reads the code back reads the fields and no more.
-/
import SchemaClasses.Proofs.Class.Outline

namespace SchemaClasses

namespace Class

/-- A rendered class is cut at its line ends into the lines of its layout, and its outline can be
read back off them. This is so whatever the metadata of the columns holds. -/
theorem layout_of_render {name package : String} {definition : Value} {cls : Class}
    (hpackage : Naming.isPackage package = true)
    (rendered : render (Entity.ofDefinition name definition) package = .ok cls) :
    let fields := (Entity.ofDefinition name definition).fields
    (fields.map (·.property)).Sublist (Entity.ofDefinition name definition).properties ∧
      '\r' ∉ cls.source.toList ∧
      cls.source.toList.getLast? = some '\n' ∧
      Text.pieces '\n' cls.source.toList =
        (layout package cls.name fields).map String.toList ++ [[]] ∧
      (∀ field ∈ fields, field.comment.toList =
        "    // \x7b".toList ++ field.shown.toList.map foldBreak ++ ['\x7d']) ∧
      Outline.ofText? cls.source =
        some ⟨package, importsOf fields, cls.name, fields.map Field.declared⟩ := by
  generalize Entity.ofDefinition name definition = entity at *
  obtain ⟨named, source⟩ := source_of_render rendered
  have made : ∀ field ∈ entity.fields, Field.ofProperty field.property = .ok field :=
    fun _ mem => Entity.ofProperty_of_mem_fields mem
  have whole : ∀ c ∈ ['\n', '\r'], ∀ line ∈ layout package cls.name entity.fields,
      c ∉ line.toList :=
    fun c hc => notMem_layout hpackage named made hc
  refine ⟨Entity.sublist_fields, ?_, ?_, ?_, fun field _ => field.toList_comment,
    Outline.ofText?_source hpackage rendered⟩
  · rw [source]
    exact notMem_unlines (by decide) (whole '\r' (by decide))
  · rw [source]
    exact getLast?_unlines_concat _ _
  · rw [source]
    exact pieces_unlines (whole '\n' (by decide))

/-- A column whose metadata tries to end the comment and to declare a field of its own. -/
def forgedEntries : Entries :=
  [("_attributes", .mapping [("phpName", .string "Account")]),
    ("owner", .mapping
      [("type", .string "INTEGER"),
        ("note\r\n    private String key;\n",
          .sequence [.mapping [("deep", .string "\x7d\n\n    private String value;\n\x7d")]])])]

theorem layout_forged :
    ∃ cls, render (Entity.ofDefinition "account" (.mapping forgedEntries)) "demo.model" = .ok cls ∧
      '\r' ∉ cls.source.toList ∧
      Outline.ofText? cls.source =
        some ⟨"demo.model", ["lombok.Data"], "Account", [⟨"Integer", "owner", none⟩]⟩ := by
  have rendered : ∃ cls,
      render (Entity.ofDefinition "account" (.mapping forgedEntries)) "demo.model" = .ok cls ∧
        cls.name = "Account" :=
    ⟨_, rfl, rfl⟩
  obtain ⟨cls, rendered, named⟩ := rendered
  obtain ⟨-, noReturn, -, -, -, read⟩ := layout_of_render (by decide) rendered
  refine ⟨cls, rendered, noReturn, ?_⟩
  rw [read, named]
  rfl

end Class

end SchemaClasses
