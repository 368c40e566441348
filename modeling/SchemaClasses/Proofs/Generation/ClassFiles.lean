/-
Where classes go, and what turns do to the files.

The name of a class is an identifier, so it has no slash and no dot in
it, and the name of its file is one step down from the directory the
file is put into, whatever that directory's path looks like. Classes of
one name therefore go to one place and classes of two names to two.

A turn that writes fills the place of its class and changes nothing
else; one that does not write changes nothing at all. By induction on
the turns a run fills the places of its classes, and a file that a class
was written to keeps that text through all turns that write classes of
other names.
-/
import SchemaClasses.Proofs.Files.Tree
import SchemaClasses.Proofs.Generation.Turns
import SchemaClasses.Proofs.Naming.Characters

namespace SchemaClasses

open Files

namespace Class

-- ============================================================ the place

section Place

variable {name directory : String}

/-- The name of a class file has no slash. -/
theorem notMem_fileName (named : Naming.isIdentifier name = true) :
    '/' ∉ (name ++ ".java").toList := by
  have own : '/' ∉ name.toList := Naming.notMem_of_isIdentifier named (by decide)
  rw [String.toList_append, List.mem_append]
  rintro (mem | mem)
  · exact own mem
  · exact absurd mem (by decide)

/-- The name of a class file has more than five characters. -/
theorem length_fileName (name : String) : 5 ≤ (name ++ ".java").toList.length := by
  rw [String.toList_append, List.length_append]
  exact Nat.le_add_left 5 _

theorem fileName_ne_empty (name : String) : name ++ ".java" ≠ "" := by
  intro eq
  have long := length_fileName name
  rw [eq] at long
  exact absurd long (by decide)

/-- The name of a class file leads down. -/
theorem stepOf_fileName (name : String) : Path.stepOf (name ++ ".java") = .down (name ++ ".java") := by
  have other : ∀ short : String, short.toList.length < 5 → name ++ ".java" ≠ short := by
    intro short less eq
    have long := length_fileName name
    rw [eq] at long
    omega
  unfold Path.stepOf
  rw [if_neg (other "." (by decide)), if_neg (other ".." (by decide))]

/-- A class file lies right in the directory it is put into. -/
theorem placeOf_join (tree : Tree) (named : Naming.isIdentifier name = true) :
    tree.placeOf (Path.join directory (name ++ ".java")) =
      tree.placeOf directory ++ [name ++ ".java"] := by
  have noSlash := notMem_fileName named
  rw [Tree.placeOf, Tree.start, Path.isAbsolute_join noSlash,
    Path.steps_join noSlash (fileName_ne_empty name) (stepOf_fileName name), follow_append]
  rfl

/-- The files of two classes of one directory have one place only if the classes have one name. -/
theorem name_eq_of_placeOf_eq (tree : Tree) {other : String}
    (named : Naming.isIdentifier name = true) (otherNamed : Naming.isIdentifier other = true)
    (same : tree.placeOf (Path.join directory (name ++ ".java")) =
      tree.placeOf (Path.join directory (other ++ ".java"))) : name = other := by
  rw [placeOf_join tree named, placeOf_join tree otherNamed] at same
  have files : name ++ ".java" = other ++ ".java" := by simpa using same
  have chars := congrArg String.toList files
  rw [String.toList_append, String.toList_append] at chars
  exact String.toList_injective (List.append_cancel_right chars)

end Place

end Class

namespace Outcome

variable {settings : Settings} {earlier outcomes : List Outcome} {outcome : Outcome}
  {tree after : Tree} {entity : Entity} {entities : List Entity}

-- ============================================================= changes

/-- A class among the outcomes was written to the place, and this is its text. -/
def Fills (outcomes : List Outcome) (tree : Tree) (place : Location) (bytes : ByteArray) : Prop :=
  ∃ cls path previous, Outcome.written cls path previous ∈ outcomes ∧
    place = tree.placeOf path ∧ bytes = cls.source.toUTF8

theorem Fills.mono {more : List Outcome} {place : Location} {bytes : ByteArray}
    (fills : Fills outcomes tree place bytes) (among : ∀ outcome ∈ outcomes, outcome ∈ more) :
    Fills more tree place bytes := by
  obtain ⟨cls, path, previous, mem, here, text⟩ := fills
  exact ⟨cls, path, previous, among _ mem, here, text⟩

/-- A turn changes no file but that of its class. -/
theorem Turn.changes (turn : Turn settings earlier tree entity outcome after) :
    Tree.Changes (fun _ => False) (Fills [outcome] tree) tree after := by
  cases turn with
  | skipped => exact .refl tree
  | unrendered => exact .refl tree
  | unwritten => exact .refl tree
  | written _ _ written =>
      refine (Tree.changes_write written).mono (fun _ => id) (fun place bytes => ?_)
      rintro ⟨here, text⟩
      exact ⟨_, _, _, List.mem_singleton_self _, here, text⟩

/-- Turns change no files but those of their classes. -/
theorem Turns.changes (turns : Turns settings earlier tree entities outcomes after) :
    Tree.Changes (fun _ => False) (Fills outcomes tree) tree after := by
  induction turns with
  | nil => exact .refl _
  | cons turn _ ih =>
      have now := turn.changes
      refine (now.mono (fun _ => id) fun place bytes fills => ?_).trans
        (ih.mono (fun _ => id) fun place bytes fills => ?_)
      · exact fills.mono fun outcome mem => List.mem_singleton.1 mem ▸ List.mem_cons_self
      · obtain ⟨cls, path, previous, mem, here, text⟩ := fills
        exact ⟨cls, path, previous, List.mem_cons_of_mem _ mem, here.trans (now.placeOf path), text⟩

-- ============================================================= reading

/-- The file of a class has its text in the end, if no class of its name is written after it. -/
theorem Turns.readText {cls : Class} {path : String} {previous : Option String}
    {front back : List Outcome}
    (turns : Turns settings earlier tree entities (front ++ .written cls path previous :: back) after)
    (last : ∀ outcome ∈ back, outcome.className? ≠ some cls.name) :
    after.readText path = .ok cls.source := by
  obtain ⟨first, entity, rest, before, behind, rfl, -, turn, later⟩ := turns.turn_of_append
  have own := turn.rendered
  obtain ⟨-, rendered, rfl⟩ := own
  have named := (Class.source_of_render rendered).1
  have now : behind.read (cls.path settings.outputDirectory) = .ok cls.source.toUTF8 := by
    cases turn with
    | written _ _ written => exact Tree.read_of_write written
  refine Tree.readText_of_read (later.changes.read (fun contents fills => ?_) now)
  obtain ⟨other, path, previous, mem, same, -⟩ := fills
  obtain ⟨⟨_, -, -, otherRendered⟩, rfl⟩ := later.rendered mem
  refine last _ mem ?_
  have otherNamed := (Class.source_of_render otherRendered).1
  exact congrArg some (Class.name_eq_of_placeOf_eq behind named otherNamed same).symm

end Outcome

end SchemaClasses
