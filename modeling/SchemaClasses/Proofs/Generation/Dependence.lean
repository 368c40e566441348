/-
What becomes of an entity depends on directories alone.

Once the output directory is there, a turn asks two things of the files:
whether the path of its class can be followed, and whether a directory
is in the way. No turn makes a directory. So an entity fares the same
wherever its turn comes, and what its standing is can be read off the
files that the run finds, without the turns before it.

What turns leave is read off their outcomes likewise: the files they
found with the classes that were written put into them in order. The
induction is on the turns in both cases; each turn keeps the directories,
which is all the next one needs.
-/
import SchemaClasses.Proofs.Files.Directories
import SchemaClasses.Proofs.Generation.Accounting

namespace SchemaClasses

open Files

/-- The file that a class goes to, with the text of the class. -/
def Class.file (cls : Class) (settings : Settings) (tree : Tree) : Location × ByteArray :=
  (tree.placeOf (cls.path settings.outputDirectory), cls.source.toUTF8)

/-- The files of the classes that were written, in order. -/
def Standing.files (settings : Settings) (tree : Tree) (standings : List Standing) :
    List (Location × ByteArray) :=
  (standings.filterMap Standing.class?).map (·.file settings tree)

/-- Files are at the same places where the directories are the same. -/
theorem Standing.files_eq {settings : Settings} {first second : Tree}
    (same : first.SameDirectories second) (standings : List Standing) :
    files settings first standings = files settings second standings := by
  unfold files Class.file
  simp only [same.placeOf]

namespace Outcome

variable {settings : Settings} {earlier outcomes : List Outcome} {outcome : Outcome}
  {tree other after : Tree} {entity : Entity} {entities : List Entity}

-- ============================================================ one turn

theorem Turn.sameDirectories (turn : Turn settings earlier tree entity outcome after) :
    tree.SameDirectories after :=
  turn.changes.sameDirectories

/-- A class can be written into both trees, or is refused in both for one reason. -/
theorem write_eq {cls : Class} (same : tree.SameDirectories other)
    (there : tree.isDirectory settings.outputDirectory = true)
    (rendered : Class.render entity settings.packageName = .ok cls) :
    other.write (cls.path settings.outputDirectory) cls.source.toUTF8 =
      (tree.write (cls.path settings.outputDirectory) cls.source.toUTF8).map fun _ =>
        other.put (other.placeOf (cls.path settings.outputDirectory)) (.file cls.source.toUTF8) :=
  same.write_join there (Class.notMem_fileName (Class.source_of_render rendered).1)
    (Class.fileName_ne_empty cls.name) (Class.stepOf_fileName cls.name) cls.source.toUTF8

/-- With the same directories an entity has the same outcome. -/
theorem Turn.elsewhere (turn : Turn settings earlier tree entity outcome after)
    (there : tree.isDirectory settings.outputDirectory = true)
    (same : tree.SameDirectories other) :
    ∃ behind, Turn settings earlier other entity outcome behind := by
  cases turn with
  | skipped bookkeeping => exact ⟨other, .skipped bookkeeping⟩
  | unrendered generatable unrendered => exact ⟨other, .unrendered generatable unrendered⟩
  | unwritten generatable rendered unwritten =>
      refine ⟨other, .unwritten generatable rendered ?_⟩
      rw [write_eq same there rendered, unwritten]
      rfl
  | written generatable rendered written =>
      have again := write_eq same there rendered
      rw [written] at again
      exact ⟨_, .written generatable rendered again⟩

/-- A turn leaves the files it found with its class put into them, if it wrote one. -/
theorem Turn.after_eq (turn : Turn settings earlier tree entity outcome after) :
    after = tree.fill (Standing.files settings tree [outcome.standing]) := by
  cases turn with
  | skipped => rfl
  | unrendered => rfl
  | unwritten => rfl
  | written _ _ written => exact (Tree.write_eq_ok_iff.1 written).2.2

-- =========================================================== all turns

theorem Turns.sameDirectories (turns : Turns settings earlier tree entities outcomes after) :
    tree.SameDirectories after :=
  turns.changes.sameDirectories

/-- With the same directories entities have the same outcomes. -/
theorem Turns.elsewhere (turns : Turns settings earlier tree entities outcomes after)
    (there : tree.isDirectory settings.outputDirectory = true)
    (same : tree.SameDirectories other) :
    ∃ behind, Turns settings earlier other entities outcomes behind := by
  induction turns generalizing other with
  | nil => exact ⟨other, .nil⟩
  | @cons _ _ tree middle _ _ _ _ turn _ ih =>
      obtain ⟨behind, first⟩ := turn.elsewhere there same
      have kept : middle.SameDirectories behind :=
        turn.sameDirectories.symm.trans (same.trans first.sameDirectories)
      obtain ⟨last, rest⟩ := ih (turn.sameDirectories.isDirectory there) kept
      exact ⟨last, .cons first rest⟩

/-- Turns leave the files they found with the classes that were written put into them. -/
theorem Turns.after_eq (turns : Turns settings earlier tree entities outcomes after) :
    after = tree.fill (Standing.files settings tree (outcomes.map standing)) := by
  induction turns with
  | nil => rfl
  | @cons _ later tree middle after _ _ outcome turn _ ih =>
      have parts : Standing.files settings tree ((outcome :: later).map standing) =
          Standing.files settings tree [outcome.standing] ++
            Standing.files settings tree (later.map standing) := by
        rw [List.map_cons, ← List.singleton_append, Standing.files, List.filterMap_append,
          List.map_append]
        rfl
      rw [ih, ← Standing.files_eq turn.sameDirectories, parts, Tree.fill_append, ← turn.after_eq]

end Outcome

-- ============================================================ standings

variable {settings : Settings} {earlier outcomes : List Outcome} {tree other after : Tree}
  {entities : List Entity}

/-- With the same directories an entity ends alike. -/
theorem Visit.standing_eq (there : tree.isDirectory settings.outputDirectory = true)
    (same : tree.SameDirectories other) (entity : Entity) :
    Visit.standing settings ⟨entity, tree⟩ = Visit.standing settings ⟨entity, other⟩ := by
  obtain ⟨outcome, after, turn, stands⟩ := Outcome.exists_turn settings ⟨entity, tree⟩
  obtain ⟨behind, again⟩ := turn.elsewhere there same
  rw [← stands, again.standing_eq]

/-- How entities end can be told from the files that their turns start with. -/
theorem Outcome.Turns.map_standing_eq
    (turns : Outcome.Turns settings earlier tree entities outcomes after)
    (there : tree.isDirectory settings.outputDirectory = true) :
    outcomes.map Outcome.standing =
      entities.map fun entity => Visit.standing settings ⟨entity, tree⟩ := by
  induction turns with
  | nil => rfl
  | @cons _ _ tree middle _ entity entities _ turn _ ih =>
      have kept := turn.sameDirectories
      have rest : entities.map (fun other => Visit.standing settings ⟨other, middle⟩) =
          entities.map fun other => Visit.standing settings ⟨other, tree⟩ := by
        apply List.map_congr_left
        intro other _
        exact (Visit.standing_eq there kept other).symm
      rw [List.map_cons, List.map_cons, turn.standing_eq, ih (kept.isDirectory there), rest]

end SchemaClasses
