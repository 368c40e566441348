/-
What a run without errors has done.

Without errors every entity that code can be generated for has a class,
the class has a field for every column, and it has been written. Two
entities may ask for one class name, though. The later one is then
written over the earlier, which is warned about but is no error, so the
file of a class name has the class of the last entity that asks for it.

That this is the last entity in the schema, and not only the last that
was written, is where the absence of errors comes in a second time: an
entity behind it that asks for the name would have been written too.
-/
import SchemaClasses.Proofs.Class.Binding
import SchemaClasses.Proofs.Generation.ClassFiles
import SchemaClasses.Proofs.Generation.Report
import SchemaClasses.Proofs.Generation.Writers

namespace SchemaClasses

open Files

-- ============================================================= classes

/-- The package of settings that a run can have is one. -/
theorem isPackage_of_validate {settings : Settings} (valid : settings.validate = .ok settings) :
    Naming.isPackage settings.packageName = true := by
  unfold Settings.validate at valid
  split at valid
  · cases valid
  · cases offending : Naming.offendingSegment? settings.packageName with
    | none => rw [Naming.isPackage, offending, Option.isNone_none]
    | some segment =>
        rw [offending] at valid
        cases valid

namespace Class

variable {entity : Entity} {package : String} {cls : Class}

/-- A class without errors has the field of every column. -/
theorem map_property_fields (rendered : render entity package = .ok cls)
    (complete : cls.skipped = []) : entity.fields.map (·.property) = entity.properties := by
  obtain ⟨name, named, rfl⟩ := render_eq_ok_iff.1 rendered
  refine Entity.sublist_fields.eq_of_length ?_
  have lengths := (Field.perm_ofProperties entity.name entity.properties []).length_eq
  rw [show (Field.ofProperties entity.name [] entity.properties).2 = [] from complete] at lengths
  simpa [Entity.fields] using lengths

/-- The text of a class without errors declares a field for every column. -/
theorem declares_of_render (hpackage : Naming.isPackage package = true)
    (rendered : render entity package = .ok cls) (complete : cls.skipped = []) :
    ∃ outline, Outline.ofText? cls.source = some outline ∧
      outline.declarations.map (·.boundName) = entity.properties.map (·.name) := by
  refine ⟨_, Outline.ofText?_source hpackage rendered, ?_⟩
  rw [← map_property_fields rendered complete, List.map_map, List.map_map]
  exact List.map_congr_left fun field _ => field.standsFor_declared.bound

end Class

-- =============================================================== turns

namespace Outcome

variable {settings : Settings} {earlier outcomes : List Outcome} {outcome : Outcome}
  {tree after : Tree} {entity : Entity} {entities : List Entity} {name : String}

/-- An entity that code can be generated for, and that does not fail, has its class written. -/
theorem Turn.exists_written (turn : Turn settings earlier tree entity outcome after)
    (generatable : entity.isGeneratable = true) (passes : ∀ error, outcome ≠ .failed error) :
    ∃ cls path previous, outcome = .written cls path previous := by
  cases turn with
  | skipped bookkeeping =>
      rw [bookkeeping] at generatable
      cases generatable
  | unrendered => exact absurd rfl (passes _)
  | unwritten => exact absurd rfl (passes _)
  | written => exact ⟨_, _, _, rfl⟩

/-- Where nothing fails, an entity that asks for a class name has a class of that name written. -/
theorem Turns.exists_written (turns : Turns settings earlier tree entities outcomes after)
    (passes : ∀ error, .failed error ∉ outcomes) (isEntity : entity ∈ entities)
    (generatable : entity.isGeneratable = true) :
    ∃ outcome ∈ outcomes, outcome.className? = entity.outputTypeName? := by
  obtain ⟨first, rest, rfl⟩ := List.append_of_mem isEntity
  obtain ⟨front, outcome, back, before, behind, rfl, -, turn, -⟩ := turns.turn_of_entities
  have mem : outcome ∈ front ++ outcome :: back := List.mem_append_right front List.mem_cons_self
  obtain ⟨cls, path, previous, rfl⟩ := turn.exists_written generatable
    fun error eq => passes error (eq ▸ mem)
  obtain ⟨-, rendered, -⟩ := turn.rendered
  exact ⟨_, mem, (Class.outputTypeName?_of_render rendered).symm⟩

/-- Where nothing fails, the file of a class name has the text of the last entity that asks for
it. -/
theorem Turns.exists_last_entity (turns : Turns settings earlier tree entities outcomes after)
    (passes : ∀ error, .failed error ∉ outcomes)
    (written : ∃ outcome ∈ outcomes, outcome.className? = some name) :
    ∃ between last later cls, entities = between ++ last :: later ∧ last.isGeneratable = true ∧
      last.outputTypeName? = some name ∧
      (∀ other ∈ later, other.isGeneratable = true → other.outputTypeName? ≠ some name) ∧
      Class.render last settings.packageName = .ok cls ∧
      after.readText (Path.join settings.outputDirectory (name ++ ".java")) = .ok cls.source := by
  obtain ⟨front, cls, path, previous, back, rfl, rfl, final⟩ := exists_last written
  have text := turns.readText final
  obtain ⟨between, last, later, before, behind, rfl, -, turn, others⟩ := turns.turn_of_append
  obtain ⟨generatable, rendered, rfl⟩ := turn.rendered
  refine ⟨between, last, later, cls, rfl, generatable, Class.outputTypeName?_of_render rendered, ?_,
    rendered, text⟩
  intro other isEntity otherGeneratable same
  have passesLater : ∀ error, .failed error ∉ back := fun error mem =>
    passes error (List.mem_append_right front (List.mem_cons_of_mem _ mem))
  obtain ⟨outcome, isOutcome, name⟩ := others.exists_written passesLater isEntity otherGeneratable
  exact final outcome isOutcome (name.trans same)

end Outcome

-- ============================================================ the run

/-- What has been done for an entity, with the entities `rest` behind it in the schema: its class has
a field for every column, and the file of the class has the text of the last entity that asks for
the class name. -/
def Done (settings : Settings) (after : Tree) (entity : Entity) (rest : List Entity) : Prop :=
  ∃ cls, Class.render entity settings.packageName = .ok cls ∧
    entity.outputTypeName? = some cls.name ∧
    (∃ outline, Outline.ofText? cls.source = some outline ∧
      outline.declarations.map (·.boundName) = entity.properties.map (·.name)) ∧
    ∃ between last later lastClass, entity :: rest = between ++ last :: later ∧
      last.isGeneratable = true ∧ last.outputTypeName? = some cls.name ∧
      (∀ other ∈ later, other.isGeneratable = true → other.outputTypeName? ≠ some cls.name) ∧
      Class.render last settings.packageName = .ok lastClass ∧
      after.readText (Path.join settings.outputDirectory (cls.name ++ ".java")) =
        .ok lastClass.source

variable {settings : Settings} {schema : Schema} {tree : Tree} {outcomes : List Outcome}

/-- A run without errors has done all there is to do for every entity that code can be generated
for. -/
theorem done_of_hasErrors_eq_false (valid : settings.validate = .ok settings)
    (ran : (run settings schema tree).result = .ok outcomes)
    (clean : (Report.ofOutcomes outcomes).hasErrors = false) :
    ∀ first entity rest, schema.entities = first ++ entity :: rest → entity.isGeneratable = true →
      Done settings (run settings schema tree).tree entity rest := by
  intro first entity rest parts generatable
  obtain ⟨passes, complete⟩ := Report.hasErrors_eq_false_iff.1 clean
  obtain ⟨made, directories, turns⟩ := run_result_eq_ok_iff.1 ran
  rw [parts] at turns
  obtain ⟨front, outcome, back, before, behind, rfl, -, turn, others⟩ := turns.turn_of_entities
  have isOutcome : outcome ∈ front ++ outcome :: back :=
    List.mem_append_right front List.mem_cons_self
  have passesHere : ∀ error, .failed error ∉ outcome :: back := fun error mem =>
    passes error (List.mem_append_right front mem)
  obtain ⟨cls, path, previous, rfl⟩ := turn.exists_written generatable
    fun error eq => passes error (eq ▸ isOutcome)
  obtain ⟨-, rendered, -⟩ := turn.rendered
  exact ⟨cls, rendered, Class.outputTypeName?_of_render rendered,
    Class.declares_of_render (isPackage_of_validate valid) rendered
      (complete cls path previous isOutcome),
    (Outcome.Turns.cons turn others).exists_last_entity passesHere ⟨_, List.mem_cons_self, rfl⟩⟩

/-- An entity, and a later one that asks for the same class name. -/
def oldAccount : Entity :=
  .ofDefinition "account" (.mapping [("_attributes", .mapping [("phpName", .string "Account")]),
    ("old_name", .mapping [("type", .string "VARCHAR")])])

def newAccount : Entity :=
  .ofDefinition "account_v2" (.mapping [("_attributes", .mapping [("phpName", .string "Account")]),
    ("new_name", .mapping [("type", .string "VARCHAR")])])

def renamedAccount : Schema := ⟨[oldAccount, newAccount]⟩

/-- Both entities have a class with all its fields, and both classes are written to one path. -/
theorem run_renamedAccount :
    ∃ first second path previous path' previous',
      (run ⟨"schema.yml", "demo.model", "out"⟩ renamedAccount .empty).result =
        .ok ([.written first path previous] ++ .written second path' previous' :: []) ∧
      (Report.ofOutcomes ([.written first path previous] ++
        .written second path' previous' :: [])).hasErrors = false ∧
      Class.render oldAccount "demo.model" = .ok first ∧
      Class.render newAccount "demo.model" = .ok second ∧
      path' = Path.join "out" (first.name ++ ".java") ∧ first.skipped = [] ∧ second.skipped = [] :=
  ⟨_, _, _, _, _, _, rfl, by decide, rfl, rfl, rfl, rfl, rfl⟩

theorem done_renamedAccount :
    ∃ outcomes, (run ⟨"schema.yml", "demo.model", "out"⟩ renamedAccount .empty).result =
        .ok outcomes ∧ (Report.ofOutcomes outcomes).hasErrors = false ∧
      ∀ first entity rest, renamedAccount.entities = first ++ entity :: rest →
        entity.isGeneratable = true →
        Done ⟨"schema.yml", "demo.model", "out"⟩
          (run ⟨"schema.yml", "demo.model", "out"⟩ renamedAccount .empty).tree entity rest := by
  obtain ⟨first, second, path, previous, path', previous', ran, clean, -⟩ := run_renamedAccount
  exact ⟨_, ran, clean, done_of_hasErrors_eq_false (by decide) ran clean⟩

/-- The file of the first entity does not have the text of its class. -/
theorem lost_renamedAccount :
    Settings.validate ⟨"schema.yml", "demo.model", "out"⟩ = .ok ⟨"schema.yml", "demo.model", "out"⟩ ∧
      ∃ outcomes, (run ⟨"schema.yml", "demo.model", "out"⟩ renamedAccount .empty).result =
        .ok outcomes ∧ (Report.ofOutcomes outcomes).hasErrors = false ∧
      ¬∀ entity ∈ renamedAccount.generatable, ∃ cls, Class.render entity "demo.model" = .ok cls ∧
        (run ⟨"schema.yml", "demo.model", "out"⟩ renamedAccount .empty).tree.readText
          (Path.join "out" (cls.name ++ ".java")) = .ok cls.source := by
  obtain ⟨first, second, path, previous, path', previous', ran, clean, oldRendered, newRendered,
    rfl, oldComplete, newComplete⟩ := run_renamedAccount
  refine ⟨by decide, _, ran, clean, fun complete => ?_⟩
  obtain ⟨cls, again, text⟩ := complete oldAccount List.mem_cons_self
  cases oldRendered.symm.trans again
  -- the text is that of the later class, which declares another field
  obtain ⟨made, directories, turns⟩ := run_result_eq_ok_iff.1 ran
  have overwritten := turns.readText (List.forall_mem_nil _)
  have source : first.source = second.source := Except.ok.inj (text.symm.trans overwritten)
  obtain ⟨outline, oldOutline, oldNames⟩ :=
    Class.declares_of_render (by decide) oldRendered oldComplete
  obtain ⟨outline', newOutline, newNames⟩ :=
    Class.declares_of_render (by decide) newRendered newComplete
  rw [source, newOutline] at oldOutline
  cases oldOutline
  exact absurd (oldNames.symm.trans newNames) (by decide)

end SchemaClasses
