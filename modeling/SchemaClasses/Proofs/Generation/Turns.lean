/-
A run, turn by turn.

Every entity has one turn, and a turn can end in four ways. `Turn` lists
them with all that is known in each: what holds of the entity, what its
outcome is and which files it leaves. `Turns` strings them together, and
a run is the output directory followed by the turns of all entities
(`run_result_eq_ok_iff`). What is to be known of a run is proved for one turn
and then by induction on the turns; no other proof looks into the loop.

A run can be cut at any outcome. What stands before the cut is the run
of the entities before it, so the files an entity found are those that
the run of the entities before it leaves.
-/
import Mathlib.Data.List.Basic
import SchemaClasses.Generation.Run
import SchemaClasses.Proofs.Class.Source

namespace SchemaClasses

namespace Outcome

/-- The entity that an outcome is that of. -/
def entity : Outcome → String
  | .skipped entity => entity
  | .failed e => e.entity
  | .written cls _ _ => cls.entity

/-- The name of the class that was written. -/
def className? : Outcome → Option String
  | .written cls _ _ => some cls.name
  | _ => none

-- ============================================================ one turn

/-- The turn of an entity, after the outcomes `earlier`, the latest first: its outcome, and the
files it leaves. -/
inductive Turn (settings : Settings) (earlier : List Outcome) (tree : Files.Tree)
    (entity : Entity) : Outcome → Files.Tree → Prop
  | skipped (bookkeeping : entity.isGeneratable = false) :
      Turn settings earlier tree entity (.skipped entity.name) tree
  | unrendered {fault : ClassFault} (generatable : entity.isGeneratable = true)
      (unrendered : Class.render entity settings.packageName = .error fault) :
      Turn settings earlier tree entity (.failed ⟨entity.name, .noClass fault⟩) tree
  | unwritten {cls : Class} {fault : Files.Fault} (generatable : entity.isGeneratable = true)
      (rendered : Class.render entity settings.packageName = .ok cls)
      (unwritten : tree.write (cls.path settings.outputDirectory) cls.source.toUTF8 = .error fault) :
      Turn settings earlier tree entity
        (.failed ⟨cls.entity, .unwritable (cls.path settings.outputDirectory) fault⟩) tree
  | written {cls : Class} {after : Files.Tree} (generatable : entity.isGeneratable = true)
      (rendered : Class.render entity settings.packageName = .ok cls)
      (written : tree.write (cls.path settings.outputDirectory) cls.source.toUTF8 = .ok after) :
      Turn settings earlier tree entity
        (.written cls (cls.path settings.outputDirectory) (lastWriter? cls.name earlier)) after

variable {settings : Settings} {earlier outcomes : List Outcome} {outcome : Outcome}
  {tree after : Files.Tree} {entity : Entity} {entities : List Entity}

/-- A turn is what becomes of its entity. -/
theorem Turn.ofEntity_eq (turn : Turn settings earlier tree entity outcome after) :
    ofEntity settings earlier tree entity = (outcome, after) := by
  unfold ofEntity Class.emit Class.write
  cases turn with
  | skipped bookkeeping => rw [bookkeeping, if_neg Bool.false_ne_true]
  | unrendered generatable unrendered => rw [if_pos generatable, unrendered]
  | unwritten generatable rendered unwritten =>
      rw [if_pos generatable, rendered]
      dsimp only
      rw [unwritten]
      rfl
  | written generatable rendered written =>
      rw [if_pos generatable, rendered]
      dsimp only
      rw [written]
      rfl

/-- Every entity has a turn. -/
theorem turn_total (settings : Settings) (earlier : List Outcome) (tree : Files.Tree)
    (entity : Entity) : ∃ outcome after, Turn settings earlier tree entity outcome after := by
  cases generatable : entity.isGeneratable with
  | false => exact ⟨_, _, .skipped generatable⟩
  | true =>
      cases rendered : Class.render entity settings.packageName with
      | error fault => exact ⟨_, _, .unrendered generatable rendered⟩
      | ok cls =>
          cases written : tree.write (cls.path settings.outputDirectory) cls.source.toUTF8 with
          | error fault => exact ⟨_, _, .unwritten generatable rendered written⟩
          | ok middle => exact ⟨_, _, .written generatable rendered written⟩

/-- The turns are exactly what becomes of an entity. -/
theorem turn_iff :
    Turn settings earlier tree entity outcome after ↔
      ofEntity settings earlier tree entity = (outcome, after) := by
  constructor
  · exact Turn.ofEntity_eq
  · intro eq
    obtain ⟨other, there, turn⟩ := turn_total settings earlier tree entity
    cases turn.ofEntity_eq.symm.trans eq
    exact turn

/-- An outcome is that of the entity whose turn it was. -/
theorem Turn.entity_eq (turn : Turn settings earlier tree entity outcome after) :
    outcome.entity = entity.name := by
  cases turn with
  | skipped => rfl
  | unrendered => rfl
  | unwritten _ rendered => exact Class.entity_of_render rendered
  | written _ rendered => exact Class.entity_of_render rendered

/-- A turn that writes no class leaves the files as they are. -/
theorem Turn.tree_eq (turn : Turn settings earlier tree entity outcome after)
    (nothing : outcome.className? = none) : after = tree := by
  cases turn with
  | skipped => rfl
  | unrendered => rfl
  | unwritten => rfl
  | written => cases nothing

/-- A class that a turn writes is that of its entity. -/
theorem Turn.rendered {cls : Class} {path : String} {previous : Option String}
    (turn : Turn settings earlier tree entity (.written cls path previous) after) :
    entity.isGeneratable = true ∧ Class.render entity settings.packageName = .ok cls ∧
      path = cls.path settings.outputDirectory := by
  cases turn with
  | written generatable rendered => exact ⟨generatable, rendered, rfl⟩

-- =========================================================== all turns

/-- The turns of entities, one after the other. -/
inductive Turns (settings : Settings) :
    List Outcome → Files.Tree → List Entity → List Outcome → Files.Tree → Prop
  | nil {earlier : List Outcome} {tree : Files.Tree} : Turns settings earlier tree [] [] tree
  | cons {earlier later : List Outcome} {tree middle after : Files.Tree} {entity : Entity}
      {entities : List Entity} {outcome : Outcome}
      (first : Turn settings earlier tree entity outcome middle)
      (rest : Turns settings (outcome :: earlier) middle entities later after) :
      Turns settings earlier tree (entity :: entities) (outcome :: later) after

/-- The turns are exactly what becomes of entities. -/
theorem turns_iff :
    Turns settings earlier tree entities outcomes after ↔
      ofEntities settings earlier tree entities = (outcomes, after) := by
  constructor
  · intro turns
    induction turns with
    | nil => rfl
    | cons first rest ih =>
        unfold ofEntities
        rw [turn_iff.1 first]
        dsimp only
        rw [ih]
  · intro eq
    induction entities generalizing earlier tree outcomes with
    | nil =>
        cases eq
        exact .nil
    | cons entity rest ih =>
        cases eq
        exact .cons (turn_iff.2 rfl) (ih rfl)

/-- Entities always have their turns. -/
theorem exists_turns (settings : Settings) (earlier : List Outcome) (tree : Files.Tree)
    (entities : List Entity) :
    ∃ outcomes after, Turns settings earlier tree entities outcomes after :=
  ⟨_, _, turns_iff.2 rfl⟩

/-- There is one outcome for each entity, in order. -/
theorem Turns.map_entity (turns : Turns settings earlier tree entities outcomes after) :
    outcomes.map Outcome.entity = entities.map (·.name) := by
  induction turns with
  | nil => rfl
  | cons first _ ih => rw [List.map_cons, List.map_cons, ih, first.entity_eq]

/-- The turns of more entities are those of the first and then those of the others. -/
theorem Turns.append {front back : List Outcome} {entities' : List Entity} {middle : Files.Tree}
    (first : Turns settings earlier tree entities front middle)
    (rest : Turns settings (front.reverse ++ earlier) middle entities' back after) :
    Turns settings earlier tree (entities ++ entities') (front ++ back) after := by
  induction first with
  | nil => exact rest
  | cons turn _ ih =>
      refine .cons turn (ih ?_)
      rwa [List.reverse_cons, List.append_assoc] at rest

/-- Turns can be cut where their outcomes are. -/
theorem Turns.cut {front back : List Outcome}
    (turns : Turns settings earlier tree entities (front ++ back) after) :
    ∃ first rest middle, entities = first ++ rest ∧
      Turns settings earlier tree first front middle ∧
      Turns settings (front.reverse ++ earlier) middle rest back after := by
  induction front generalizing earlier tree entities with
  | nil => exact ⟨[], entities, tree, rfl, .nil, turns⟩
  | cons outcome front ih =>
      cases turns with
      | cons turn later =>
          obtain ⟨first, rest, middle, rfl, before, behind⟩ := ih later
          refine ⟨_ :: first, rest, middle, rfl, .cons turn before, ?_⟩
          rwa [List.reverse_cons, List.append_assoc]

/-- Every outcome is that of a turn, with the turns before and behind it. -/
theorem Turns.turn_of_append {front back : List Outcome}
    (turns : Turns settings earlier tree entities (front ++ outcome :: back) after) :
    ∃ first entity rest before behind, entities = first ++ entity :: rest ∧
      Turns settings earlier tree first front before ∧
      Turn settings (front.reverse ++ earlier) before entity outcome behind ∧
      Turns settings (outcome :: (front.reverse ++ earlier)) behind rest back after := by
  obtain ⟨first, others, before, rfl, turnsBefore, turnsBehind⟩ := turns.cut
  cases turnsBehind with
  | cons turn later => exact ⟨first, _, _, before, _, rfl, turnsBefore, turn, later⟩

/-- Every class that was written is that of an entity. -/
theorem Turns.rendered {cls : Class} {path : String} {previous : Option String}
    (turns : Turns settings earlier tree entities outcomes after)
    (mem : .written cls path previous ∈ outcomes) :
    (∃ entity ∈ entities, entity.isGeneratable = true ∧
      Class.render entity settings.packageName = .ok cls) ∧
      path = cls.path settings.outputDirectory := by
  obtain ⟨front, back, rfl⟩ := List.append_of_mem mem
  obtain ⟨first, entity, rest, before, behind, rfl, -, turn, -⟩ := turns.turn_of_append
  obtain ⟨generatable, rendered, path⟩ := turn.rendered
  exact ⟨⟨entity, List.mem_append_right first List.mem_cons_self, generatable, rendered⟩, path⟩

/-- Every entity has its turn, with the turns before and behind it. -/
theorem Turns.turn_of_entities {first rest : List Entity}
    (turns : Turns settings earlier tree (first ++ entity :: rest) outcomes after) :
    ∃ front outcome back before behind, outcomes = front ++ outcome :: back ∧
      Turns settings earlier tree first front before ∧
      Turn settings (front.reverse ++ earlier) before entity outcome behind ∧
      Turns settings (outcome :: (front.reverse ++ earlier)) behind rest back after := by
  induction first generalizing earlier tree outcomes with
  | nil =>
      cases turns with
      | cons turn later => exact ⟨[], _, _, tree, _, rfl, .nil, turn, later⟩
  | cons other first ih =>
      cases turns with
      | cons turn later =>
          obtain ⟨front, outcome, back, before, behind, rfl, earlier, here, others⟩ := ih later
          refine ⟨_ :: front, outcome, back, before, behind, rfl, .cons turn earlier, ?_, ?_⟩
          · rwa [List.reverse_cons, List.append_assoc]
          · rwa [List.reverse_cons, List.append_assoc]

end Outcome

-- ============================================================ the run

variable {settings : Settings} {schema : Schema} {tree made after : Files.Tree}
  {entities : List Entity} {outcomes : List Outcome}

/-- A run that has outcomes has made the output directory and taken the turns of all entities. -/
theorem run_result_eq_ok_iff :
    (run settings schema tree).result = .ok outcomes ↔
      ∃ made, tree.makeDirectories settings.outputDirectory = (made, none) ∧
        Outcome.Turns settings [] made schema.entities outcomes (run settings schema tree).tree := by
  unfold run
  obtain ⟨made, failed⟩ := tree.makeDirectories settings.outputDirectory
  cases failed with
  | some fault => simp
  | none => simp [Outcome.turns_iff, Prod.ext_iff]

/-- Turns behind the making of the output directory are those of the run. -/
theorem run_eq_of_turns
    (directories : tree.makeDirectories settings.outputDirectory = (made, none))
    (turns : Outcome.Turns settings [] made entities outcomes after) :
    run settings ⟨entities⟩ tree = ⟨.ok outcomes, after⟩ := by
  unfold run
  rw [directories]
  dsimp only
  rw [Outcome.turns_iff.1 turns]

/-- Where the output directory cannot be made, no schema has a run. -/
theorem run_eq_of_fault {fault : Files.Fault} (schema : Schema)
    (directories : tree.makeDirectories settings.outputDirectory = (made, some fault)) :
    run settings schema tree = ⟨.error ⟨settings.outputDirectory, fault⟩, made⟩ := by
  unfold run
  rw [directories]

/-- The turn of an entity leads from the files that the run of the entities before it leaves to the
files that the run with it leaves. -/
theorem turn_of_run {first : List Entity} {entity : Entity} {front : List Outcome}
    {outcome : Outcome} {before behind : Files.Tree}
    (directories : tree.makeDirectories settings.outputDirectory = (made, none))
    (earlier : Outcome.Turns settings [] made first front before)
    (turn : Outcome.Turn settings (front.reverse ++ []) before entity outcome behind) :
    Outcome.Turn settings front.reverse (run settings ⟨first⟩ tree).tree entity outcome
      (run settings ⟨first ++ [entity]⟩ tree).tree := by
  rw [run_eq_of_turns directories earlier,
    run_eq_of_turns directories (earlier.append (.cons turn .nil))]
  rwa [List.append_nil] at turn

/-- Every outcome of a run is that of an entity's turn. -/
theorem turn_of_outcome {front back : List Outcome} {outcome : Outcome}
    (ran : (run settings schema tree).result = .ok (front ++ outcome :: back)) :
    ∃ first entity rest, schema.entities = first ++ entity :: rest ∧ first.length = front.length ∧
      Outcome.Turn settings front.reverse (run settings ⟨first⟩ tree).tree entity outcome
        (run settings ⟨first ++ [entity]⟩ tree).tree := by
  obtain ⟨made, directories, turns⟩ := run_result_eq_ok_iff.1 ran
  obtain ⟨first, entity, rest, before, behind, parts, earlier, turn, -⟩ := turns.turn_of_append
  refine ⟨first, entity, rest, parts, ?_, turn_of_run directories earlier turn⟩
  simpa using (congrArg List.length earlier.map_entity).symm

end SchemaClasses
