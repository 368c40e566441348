/-
What a run may touch.

A class name is whatever text the schema asks for, and it becomes the
name of a file. All that keeps a run inside its output directory is that
a class name must be an identifier: no identifier holds a character that
could lead elsewhere, so the path of a class is the path of the
directory and one name more.

Directories are made first, and only on the way to the output directory.
Then only turns change files, each at most the one of its class
(`Turns.changes`). An entity whose name begins with an underscore has
its turn and does nothing in it.
-/
import SchemaClasses.Proofs.Generation.ClassFiles

namespace SchemaClasses

open Files

variable {settings : Settings} {tree made : Tree}

/-- The place of the class file of an entity, with the text of the class. -/
def Schema.MayFill (schema : Schema) (settings : Settings) (tree : Tree) (place : Location)
    (bytes : ByteArray) : Prop :=
  ∃ entity ∈ schema.generatable, ∃ cls,
    Class.render entity settings.packageName = .ok cls ∧
    entity.outputTypeName? = some cls.name ∧ Naming.isIdentifier cls.name = true ∧
    place = tree.placeOf (cls.path settings.outputDirectory) ∧ bytes = cls.source.toUTF8

/-- Making the output directory makes directories on its way. -/
theorem changes_directories {failed : Option Fault}
    (directories : tree.makeDirectories settings.outputDirectory = (made, failed)) :
    Tree.Changes (tree.OnWay settings.outputDirectory) (fun _ _ => False) tree made := by
  have changes := Tree.changes_makeDirectories tree settings.outputDirectory
  rwa [directories] at changes

/-- A run without outcomes has not made a file, nor changed or removed one. -/
theorem changes_of_result_eq_error {schema : Schema} {error : DirectoryError}
    (failed : (run settings schema tree).result = .error error) :
    Tree.Changes (tree.OnWay settings.outputDirectory) (fun _ _ => False) tree
      (run settings schema tree).tree := by
  unfold run at failed ⊢
  cases directories : tree.makeDirectories settings.outputDirectory with
  | mk made fault =>
      rw [directories] at failed
      cases fault with
      | none => cases failed
      | some fault => exact changes_directories directories

/-- A run makes directories on the way to the output directory and fills the places of classes. -/
theorem changes_run (settings : Settings) (schema : Schema) (tree : Tree) :
    Tree.Changes (tree.OnWay settings.outputDirectory) (schema.MayFill settings tree) tree
      (run settings schema tree).tree := by
  cases result : (run settings schema tree).result with
  | error error =>
      exact (changes_of_result_eq_error result).mono (fun _ => id) fun _ _ never => never.elim
  | ok outcomes =>
      obtain ⟨made, directories, turns⟩ := run_result_eq_ok_iff.1 result
      have first := changes_directories directories
      refine (first.mono (fun _ => id) fun _ _ never => never.elim).trans
        (turns.changes.mono (fun _ never => never.elim) fun place bytes fills => ?_)
      obtain ⟨cls, path, previous, mem, here, text⟩ := fills
      obtain ⟨⟨entity, isEntity, generatable, rendered⟩, rfl⟩ := turns.rendered mem
      exact ⟨entity, List.mem_filter.2 ⟨isEntity, generatable⟩, cls, rendered,
        Class.outputTypeName?_of_render rendered, (Class.source_of_render rendered).1,
        here.trans (first.placeOf _), text⟩

/-- The turn of an entity that is bookkeeping leaves the files as they are. -/
theorem tree_eq_of_not_isGeneratable (settings : Settings) (tree : Tree) (first : List Entity)
    {entity : Entity} (bookkeeping : entity.isGeneratable = false) :
    (run settings ⟨first ++ [entity]⟩ tree).tree = (run settings ⟨first⟩ tree).tree := by
  cases directories : tree.makeDirectories settings.outputDirectory with
  | mk made failed =>
      cases failed with
      | some fault => rw [run_eq_of_fault _ directories, run_eq_of_fault _ directories]
      | none =>
          obtain ⟨outcomes, before, earlier⟩ := Outcome.exists_turns settings [] made first
          have withIt := earlier.append (.cons (.skipped bookkeeping) .nil)
          rw [run_eq_of_turns directories earlier, run_eq_of_turns directories withIt]

/-- A run that stays within its output directory. -/
structure Contained (settings : Settings) (schema : Schema) (tree : Tree) : Prop where
  /-- Nothing changes but that directories are made on the way to the output directory and that
  files of classes get their text. -/
  changes : Tree.Changes (tree.OnWay settings.outputDirectory) (schema.MayFill settings tree) tree
    (run settings schema tree).tree
  /-- The path of a class is that of the output directory and one name more. -/
  component : ∀ name, Naming.isIdentifier name = true →
    (∀ sign ∈ ['/', '.', '\x00'], sign ∉ name.toList) ∧
    Path.names (Path.join settings.outputDirectory (name ++ ".java")) =
      Path.names settings.outputDirectory ++ [name ++ ".java"] ∧
    Path.isAbsolute (Path.join settings.outputDirectory (name ++ ".java")) =
      Path.isAbsolute settings.outputDirectory ∧
    tree.placeOf (Path.join settings.outputDirectory (name ++ ".java")) =
      tree.placeOf settings.outputDirectory ++ [name ++ ".java"]
  /-- An entity whose name begins with an underscore does nothing. -/
  bookkeeping : ∀ first entity rest, schema.entities = first ++ entity :: rest →
    entity.name.toList.head? = some '_' →
    (run settings ⟨first ++ [entity]⟩ tree).tree = (run settings ⟨first⟩ tree).tree
  /-- Where the output directory could not be made, no file has changed. -/
  aborted : ∀ error, (run settings schema tree).result = .error error →
    Tree.Changes (tree.OnWay settings.outputDirectory) (fun _ _ => False) tree
      (run settings schema tree).tree

/-- Every run stays within its output directory, whatever the names in the schema are. -/
theorem contained_run (settings : Settings) (schema : Schema) (tree : Tree) :
    Contained settings schema tree := by
  refine ⟨changes_run settings schema tree, ?_, ?_, fun _ => changes_of_result_eq_error⟩
  · intro name named
    have noSlash := Class.notMem_fileName named
    refine ⟨?_, Path.names_join noSlash (Class.fileName_ne_empty name),
      Path.isAbsolute_join noSlash, Class.placeOf_join tree named⟩
    intro sign mem
    have foreign : ['/', '.', '\x00'].all (!Naming.continuesIdentifier ·) = true := by decide
    have own := List.all_eq_true.1 foreign sign mem
    rw [Bool.not_eq_true'] at own
    exact Naming.notMem_of_isIdentifier named own
  · intro first entity rest _ underscore
    refine tree_eq_of_not_isGeneratable settings tree first ?_
    unfold Entity.isGeneratable Naming.isGeneratable
    rw [underscore]
    rfl

end SchemaClasses
