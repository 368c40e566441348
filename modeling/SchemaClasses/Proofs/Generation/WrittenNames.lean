/-
The names in the files that a run writes.

The code of a class file gives three sorts of names: that of the class,
the parts of its package, and those of its fields. All of them have
passed the check of this library, wherever they come from: the settings,
the attributes of the entity, or a column, whose name is checked after
its camel case was made.

So what holds of a name that passes the check holds of the names in the
files too (`identifiers_of_run`). None is a word of the language. They
are identifiers of the language as far as they are regular, which the
check does not see to (`accepts_irregular`).
-/
import SchemaClasses.Proofs.Generation.Completeness
import SchemaClasses.Proofs.Lexical.Identifier

namespace SchemaClasses

open Files

-- ============================================================== classes

/-- The names that the code of a class gives. -/
def Outline.names (outline : Outline) : List String :=
  outline.name :: Naming.packageSegments outline.package ++ outline.declarations.map (·.name)

/-- The names in the text of a class have passed the check. -/
theorem Class.isIdentifier_names {entity : Entity} {package : String} {cls : Class}
    (hpackage : Naming.isPackage package = true) (rendered : render entity package = .ok cls) :
    ∃ outline, Outline.ofText? cls.source = some outline ∧
      ∀ name ∈ outline.names, Naming.isIdentifier name = true := by
  refine ⟨_, Outline.ofText?_source hpackage rendered, fun name mem => ?_⟩
  simp only [Outline.names, List.mem_cons, List.mem_append] at mem
  rcases mem with (rfl | segment) | declared
  · exact (source_of_render rendered).1
  · exact Naming.isIdentifier_of_mem_segments hpackage segment
  · obtain ⟨declaration, isDeclaration, rfl⟩ := List.mem_map.1 declared
    obtain ⟨field, isField, rfl⟩ := List.mem_map.1 isDeclaration
    exact Field.isIdentifier_of_ofProperty (Entity.ofProperty_of_mem_fields isField)

-- ================================================================ files

/-- The file at a written path has in the end the text of a class, perhaps of a later one. -/
theorem Outcome.Turns.exists_text {settings : Settings} {earlier outcomes : List Outcome}
    {tree after : Tree} {entities : List Entity} {path : String}
    (turns : Turns settings earlier tree entities outcomes after)
    (mem : path ∈ outcomes.filterMap writtenPath?) :
    ∃ entity cls, Class.render entity settings.packageName = .ok cls ∧
      after.readText path = .ok cls.source := by
  obtain ⟨outcome, isOutcome, here⟩ := List.mem_filterMap.1 mem
  cases outcome with
  | skipped => cases here
  | failed => cases here
  | written first _ previous =>
      cases here
      obtain ⟨-, rfl⟩ := turns.rendered isOutcome
      obtain ⟨front, cls, path, previous, back, rfl, named, final⟩ :=
        exists_last ⟨_, isOutcome, rfl⟩
      have same : first.path settings.outputDirectory = cls.path settings.outputDirectory := by
        rw [Class.path, Class.path, Class.fileName, Class.fileName, named]
      rw [← named] at final
      have text := turns.readText final
      obtain ⟨⟨entity, -, -, rendered⟩, rfl⟩ :=
        turns.rendered (List.mem_append_right front List.mem_cons_self)
      exact ⟨entity, cls, rendered, same ▸ text⟩

-- ============================================================== the run

/-- What passes the check is no word of the language, and an identifier of the language exactly if
it is regular. This is so of any name, and of the names in the files that a run writes. -/
theorem identifiers_of_run (name : String) (settings : Settings) (schema : Schema) (tree : Tree) :
    (Naming.isIdentifier name = true →
      name ∉ Lexical.keywords ++ Lexical.literalWords ∧
        (Lexical.IsIdentifier name ↔ Lexical.IsRegular name)) ∧
    ∀ outcomes : List Outcome,
      settings.validate = .ok settings → (run settings schema tree).result = .ok outcomes →
      ∀ path ∈ (Report.ofOutcomes outcomes).written, ∃ text outline,
        (run settings schema tree).tree.readText path = .ok text ∧
        Outline.ofText? text = some outline ∧
        ∀ name ∈ outline.names, name ∉ Lexical.keywords ++ Lexical.literalWords ∧
          (Lexical.IsIdentifier name ↔ Lexical.IsRegular name) := by
  have passes : ∀ name, Naming.isIdentifier name = true →
      name ∉ Lexical.keywords ++ Lexical.literalWords ∧
        (Lexical.IsIdentifier name ↔ Lexical.IsRegular name) :=
    fun name checked =>
      ⟨Lexical.notMem_of_isIdentifier checked, Lexical.isIdentifier_iff_isRegular checked⟩
  refine ⟨passes name, fun outcomes valid ran path written => ?_⟩
  obtain ⟨made, directories, turns⟩ := run_result_eq_ok_iff.1 ran
  obtain ⟨entity, cls, rendered, text⟩ := turns.exists_text written
  obtain ⟨outline, read, checked⟩ :=
    Class.isIdentifier_names (isPackage_of_validate valid) rendered
  exact ⟨cls.source, outline, text, read, fun name mem => passes name (checked name mem)⟩

/-- A schema whose names use letters beyond the first alphabet. -/
def widths : Schema :=
  .ofEntries [("weg", .mapping [("_attributes", .mapping [("phpName", .string "Weg")]),
    ("größe", .mapping [("type", .string "DECIMAL")])])]

/-- A file is written for it. -/
theorem run_widths :
    ∃ cls path previous, (run ⟨"schema.yml", "maße.wege", "out"⟩ widths .empty).result =
      .ok [.written cls path previous] :=
  ⟨_, _, _, rfl⟩

theorem identifiers_widths :
    Naming.isIdentifier "längeÜberAlles" = true ∧ Lexical.IsIdentifier "längeÜberAlles" ∧
      ∃ path text outline, (run ⟨"schema.yml", "maße.wege", "out"⟩ widths .empty).tree.readText
            path = .ok text ∧
          Outline.ofText? text = some outline ∧
          ∀ name ∈ outline.names, name ∉ Lexical.keywords ++ Lexical.literalWords ∧
            (Lexical.IsIdentifier name ↔ Lexical.IsRegular name) := by
  have checked : Naming.isIdentifier "längeÜberAlles" = true := by decide +kernel
  have regular : Lexical.IsRegular "längeÜberAlles" := by
    refine ⟨fun c isFirst => ?_, List.all_iff_forall_prop.1 (by decide +kernel),
      List.all_iff_forall_prop.1 (by decide +kernel)⟩
    obtain rfl : 'l' = c := Option.some.inj isFirst
    decide +kernel
  obtain ⟨cls, path, previous, ran⟩ := run_widths
  have written : path ∈ (Report.ofOutcomes [.written cls path previous]).written :=
    List.mem_singleton_self path
  obtain ⟨ofName, ofRun⟩ := identifiers_of_run "längeÜberAlles"
    ⟨"schema.yml", "maße.wege", "out"⟩ widths .empty
  exact ⟨checked, (ofName checked).2.2 regular, path,
    ofRun _ (by decide +kernel) ran path written⟩

/-- A superscript, a circled letter or a vowel sign at the start passes the check, and no name with
one of them is an identifier of the language. -/
theorem accepts_irregular :
    (Naming.isIdentifier "a²" = true ∧ ¬Lexical.IsIdentifier "a²") ∧
      (Naming.isIdentifier "Ⓐ" = true ∧ ¬Lexical.IsIdentifier "Ⓐ") ∧
      (Naming.isIdentifier "\u0903a" = true ∧ ¬Lexical.IsIdentifier "\u0903a") := by
  refine ⟨⟨by decide +kernel, fun ⟨_, continues, _, _⟩ => ?_⟩,
    ⟨by decide +kernel, fun ⟨⟨c, isFirst, starts⟩, _, _, _⟩ => ?_⟩,
    ⟨by decide +kernel, fun ⟨⟨c, isFirst, starts⟩, _, _, _⟩ => ?_⟩⟩
  · exact absurd (continues '²' (by decide)) (by decide +kernel)
  · obtain rfl : 'Ⓐ' = c := Option.some.inj isFirst
    exact absurd starts (by decide +kernel)
  · obtain rfl : '\u0903' = c := Option.some.inj isFirst
    exact absurd starts (by decide +kernel)

end SchemaClasses
