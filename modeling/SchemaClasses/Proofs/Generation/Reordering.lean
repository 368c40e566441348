/-
Entities in another order.

Where no two entities ask for one class name, the order of a schema
decides the order of the report and nothing else. An entity fares the
same wherever its turn comes, so rearranged entities have rearranged
standings, and every list of the report is made from the standings one
by one. The classes that are written go to different places, and files
at different places may be put there in any order
(`Tree.fill_eq_of_perm`).

The columns without a field stay in order within each entity: the errors
that carry the name of an entity are those of its own class, which is
rendered without a look at the others.
-/
import SchemaClasses.Proofs.CommandLine.ExitStatus
import SchemaClasses.Proofs.Generation.Dependence
import SchemaClasses.Proofs.Generation.Removal

namespace SchemaClasses

open Files

/-- No two entities that have classes ask for one class name. -/
def Schema.Apart (schema : Schema) (package : String) : Prop :=
  schema.entities.Pairwise fun first second =>
    first.isGeneratable = true → second.isGeneratable = true →
    (Class.render first package).isOk = true → (Class.render second package).isOk = true →
    first.outputTypeName? ≠ second.outputTypeName?

instance (schema : Schema) (package : String) : Decidable (schema.Apart package) :=
  inferInstanceAs (Decidable (List.Pairwise _ _))

variable {settings : Settings} {schema other : Schema} {tree made : Tree}
  {outcomes : List Outcome}

-- =========================================================== places

/-- An entity whose class is written is one that code can be generated for. -/
theorem Visit.isGeneratable_of_standing {visit : Visit} {cls : Class}
    (written : visit.standing settings = .written cls) : visit.entity.isGeneratable = true := by
  obtain ⟨outcome, after, turn, stands⟩ := Outcome.exists_turn settings visit
  rw [written] at stands
  cases outcome with
  | skipped => cases stands
  | failed => cases stands
  | written => exact turn.rendered.1

/-- Classes of entities that are apart go to different places. -/
theorem nodup_places (apart : schema.Apart settings.packageName) (tree : Tree) :
    ((Standing.files settings tree (schema.entities.map fun entity =>
      Visit.standing settings ⟨entity, tree⟩)).map Prod.fst).Nodup := by
  unfold Standing.files
  rw [List.map_map, List.filterMap_map, List.Nodup, List.pairwise_map, List.pairwise_filterMap]
  apply apart.imp
  intro first second differ cls written cls' written' same
  simp only [Function.comp_apply, Class.file] at written written' same
  have stands := Standing.class?_eq_some_iff.1 written
  have stands' := Standing.class?_eq_some_iff.1 written'
  have rendered := Visit.render_of_standing stands
  have rendered' := Visit.render_of_standing stands'
  have named := (Class.source_of_render rendered).1
  have named' := (Class.source_of_render rendered').1
  have name := Class.name_eq_of_placeOf_eq tree named named' same
  have generatable := Visit.isGeneratable_of_standing stands
  have generatable' := Visit.isGeneratable_of_standing stands'
  have isOk := congrArg Except.isOk rendered
  have isOk' := congrArg Except.isOk rendered'
  have asked := Class.outputTypeName?_of_render rendered
  have asked' := Class.outputTypeName?_of_render rendered'
  exact differ generatable generatable' isOk isOk'
    (asked.trans ((congrArg some name).trans asked'.symm))

-- =========================================================== columns

/-- The columns without a field, for the classes that entities have in a tree. -/
def fieldErrorsOf (settings : Settings) (tree : Tree) (entities : List Entity) : List FieldError :=
  ((entities.map fun entity => Visit.standing settings ⟨entity, tree⟩).filterMap
    Standing.class?).flatMap (·.skipped)

theorem fieldErrorsOf_cons (tree : Tree) (entity : Entity) (rest : List Entity) :
    fieldErrorsOf settings tree (entity :: rest) =
      fieldErrorsOf settings tree [entity] ++ fieldErrorsOf settings tree rest := by
  unfold fieldErrorsOf
  rw [← List.flatMap_append, ← List.filterMap_append, ← List.map_append, List.singleton_append]

theorem fieldErrorsOf_eq_flatMap (tree : Tree) (entities : List Entity) :
    fieldErrorsOf settings tree entities =
      entities.flatMap fun entity => fieldErrorsOf settings tree [entity] := by
  induction entities with
  | nil => rfl
  | cons entity rest ih => rw [fieldErrorsOf_cons, List.flatMap_cons, ih]

/-- The errors of one entity carry its name. -/
theorem entity_of_mem_fieldErrorsOf {entity : Entity} {error : FieldError}
    (mem : error ∈ fieldErrorsOf settings tree [entity]) : error.entity = entity.name := by
  obtain ⟨cls, isClass, isError⟩ := List.mem_flatMap.1 mem
  obtain ⟨standing, isStanding, written⟩ := List.mem_filterMap.1 isClass
  have own : standing = Visit.standing settings ⟨entity, tree⟩ := List.mem_singleton.1 isStanding
  have stands : Visit.standing settings ⟨entity, tree⟩ = .written cls :=
    own.symm.trans (Standing.class?_eq_some_iff.1 written)
  have rendered := Visit.render_of_standing stands
  exact Class.entity_of_mem_skipped rendered isError

/-- The errors that carry a name are those of the entities of the name. -/
theorem filter_fieldErrorsOf (tree : Tree) (name : String) (entities : List Entity) :
    (fieldErrorsOf settings tree entities).filter (·.entity = name) =
      fieldErrorsOf settings tree (entities.filter (·.name = name)) := by
  induction entities with
  | nil => rfl
  | cons entity rest ih =>
      rw [fieldErrorsOf_cons, List.filter_append, ih, List.filter_cons]
      by_cases same : entity.name = name
      · rw [if_pos (decide_eq_true same), fieldErrorsOf_cons tree entity (rest.filter _)]
        congr 1
        apply List.filter_eq_self.2
        intro error mem
        exact decide_eq_true ((entity_of_mem_fieldErrorsOf mem).trans same)
      · rw [if_neg (by simpa using same)]
        have none : (fieldErrorsOf settings tree [entity]).filter (·.entity = name) = [] := by
          apply List.filter_eq_nil_iff.2
          intro error mem own
          exact same ((entity_of_mem_fieldErrorsOf mem).symm.trans (of_decide_eq_true own))
        rw [none, List.nil_append]

/-- Rearranged entities of distinct names have the same entity of a name. -/
theorem filter_name_eq_of_perm {first second : List Entity} (perm : first.Perm second)
    (distinct : (first.map (·.name)).Nodup) (name : String) :
    first.filter (·.name = name) = second.filter (·.name = name) := by
  -- among entities of one name no two can stand in any order
  have alone : ∀ entities : List Entity, (entities.map (·.name)).Nodup →
      (entities.filter (·.name = name)).Pairwise fun _ _ => False := by
    intro entities distinct
    rw [List.Nodup, List.pairwise_map] at distinct
    rw [List.pairwise_filter]
    apply distinct.imp
    intro a b differ isA isB
    exact differ ((of_decide_eq_true isA).trans (of_decide_eq_true isB).symm)
  have distinct' : (second.map (·.name)).Nodup := (perm.map _).nodup_iff.1 distinct
  exact (perm.filter _).eq_of_pairwise (fun _ _ _ _ never _ => never.elim) (alone first distinct)
    (alone second distinct')

-- ====================================================== the two runs

/-- The same but for the order. -/
structure Report.Rearranged (first second : Report) : Prop where
  written : first.written.Perm second.written
  skippedEntities : first.skippedEntities.Perm second.skippedEntities
  entityErrors : first.entityErrors.Perm second.entityErrors
  fieldErrors : first.fieldErrors.Perm second.fieldErrors

/-- The report of rearranged outcomes is the same but for the order. -/
theorem Report.rearranged_of_perm {earlier earlier' others : List Outcome}
    {before after before' after' : Tree} {entities entities' : List Entity}
    (turns : Outcome.Turns settings earlier before entities outcomes after)
    (turns' : Outcome.Turns settings earlier' before' entities' others after')
    (perm : (outcomes.map Outcome.standing).Perm (others.map Outcome.standing)) :
    (ofOutcomes outcomes).Rearranged (ofOutcomes others) := by
  refine ⟨?_, ?_, ?_, ?_⟩
  · rw [turns.written_eq, turns'.written_eq]
    exact (perm.filterMap _).map _
  · rw [skippedEntities_eq, skippedEntities_eq]
    exact perm.filterMap _
  · rw [entityErrors_eq, entityErrors_eq]
    exact perm.filterMap _
  · rw [fieldErrors_eq, fieldErrors_eq]
    exact (perm.filterMap _).flatMap_right _

/-- Two reports on the columns of the same entities: each entity has its own errors, and they stand
together and in one order wherever the entity stands. -/
structure SameColumns (schema other : Schema) (first second : List FieldError) : Prop where
  /-- Every entity brings its errors, and they carry its name. -/
  grouped : ∃ own : Entity → List FieldError,
    (∀ entity, ∀ error ∈ own entity, error.entity = entity.name) ∧
      first = schema.entities.flatMap own ∧ second = other.entities.flatMap own
  /-- The errors that carry one name stay in order. -/
  named : schema.names.Nodup → ∀ name,
    first.filter (·.entity = name) = second.filter (·.entity = name)

/-- The columns of rearranged entities are reported entity by entity. -/
theorem sameColumns_of_perm (tree : Tree) (perm : schema.entities.Perm other.entities) :
    SameColumns schema other (fieldErrorsOf settings tree schema.entities)
      (fieldErrorsOf settings tree other.entities) := by
  refine ⟨⟨fun entity => fieldErrorsOf settings tree [entity], ?_, ?_, ?_⟩, ?_⟩
  · intro entity error mem
    exact entity_of_mem_fieldErrorsOf mem
  · exact fieldErrorsOf_eq_flatMap tree schema.entities
  · exact fieldErrorsOf_eq_flatMap tree other.entities
  · intro distinct name
    rw [filter_fieldErrorsOf, filter_fieldErrorsOf, filter_name_eq_of_perm perm distinct name]

/-- Runs of two schemas that differ in the order of their reports and in nothing else. -/
structure SameButForOrder (settings : Settings) (tree : Tree) (schema other : Schema) : Prop where
  /-- Either both runs have outcomes or neither has, for one reason. -/
  aborted : ∀ error, (run settings schema tree).result = .error error ↔
    (run settings other tree).result = .error error
  /-- The files are the same in the end. -/
  files : (run settings schema tree).tree = (run settings other tree).tree
  /-- The reports have the same lists in another order. -/
  reports : ∀ outcomes, (run settings schema tree).result = .ok outcomes →
    ∃ others, (run settings other tree).result = .ok others ∧
      (Report.ofOutcomes outcomes).Rearranged (Report.ofOutcomes others) ∧
      SameColumns schema other (Report.ofOutcomes outcomes).fieldErrors
        (Report.ofOutcomes others).fieldErrors

/-- Runs that find no output directory and can make none differ in nothing. -/
theorem sameButForOrder_of_fault {fault : Fault}
    (directories : tree.makeDirectories settings.outputDirectory = (made, some fault)) :
    SameButForOrder settings tree schema other := by
  have first := run_eq_of_fault schema directories
  have second := run_eq_of_fault other directories
  refine ⟨?_, ?_, ?_⟩
  · intro error
    rw [first, second]
  · rw [first, second]
  · intro outcomes ran
    rw [first] at ran
    cases ran

/-- Without shared class names the order of the entities is that of the report and nothing else. -/
theorem sameButForOrder_of_perm (valid : settings.validate = .ok settings)
    (perm : schema.entities.Perm other.entities) (apart : schema.Apart settings.packageName) :
    SameButForOrder settings tree schema other := by
  cases directories : tree.makeDirectories settings.outputDirectory with
  | mk made failed =>
      cases failed with
      | some fault => exact sameButForOrder_of_fault directories
      | none =>
          have there : made.isDirectory settings.outputDirectory = true :=
            Tree.isDirectory_of_makeDirectories (Settings.outputDirectory_ne_empty valid)
              directories
          obtain ⟨outcomes, after, turns⟩ := Outcome.exists_turns settings [] made schema.entities
          obtain ⟨others, after', turns'⟩ := Outcome.exists_turns settings [] made other.entities
          have first : run settings schema tree = ⟨.ok outcomes, after⟩ :=
            run_eq_of_turns directories turns
          have second : run settings other tree = ⟨.ok others, after'⟩ :=
            run_eq_of_turns directories turns'
          have standings := turns.map_standing_eq there
          have standings' := turns'.map_standing_eq there
          have rearranged : (outcomes.map Outcome.standing).Perm (others.map Outcome.standing) := by
            rw [standings, standings']
            exact perm.map _
          refine ⟨?_, ?_, ?_⟩
          · intro error
            rw [first, second]
            exact ⟨nofun, nofun⟩
          · rw [first, second]
            show after = after'
            have places := nodup_places apart made
            rw [← standings] at places
            rw [turns.after_eq, turns'.after_eq]
            exact Tree.fill_eq_of_perm made ((rearranged.filterMap _).map _) places
          · intro own ran
            rw [first] at ran
            cases ran
            refine ⟨others, by rw [second], Report.rearranged_of_perm turns turns' rearranged, ?_⟩
            rw [Report.fieldErrors_eq, Report.fieldErrors_eq, standings, standings']
            exact sameColumns_of_perm made perm

/-- The entities of `unevenSchema` and one more whose class can be written. -/
def mixedSchema : Schema :=
  ⟨unevenSchema.entities ++ [Entity.ofDefinition "visit" (.mapping [
    ("_attributes", .mapping [("phpName", .string "Visit")]),
    ("place", .mapping [("type", .string "POINT")]),
    ("day", .mapping [("type", .string "DATE")])])]⟩

def outSettings : Settings := ⟨"schema.yml", "demo.model", "out"⟩

/-- Classes are written, refused and not made in both orders, and bookkeeping is passed over. -/
theorem sameButForOrder_mixedSchema :
    outSettings.validate = .ok outSettings ∧ mixedSchema.Apart outSettings.packageName ∧
      (run outSettings mixedSchema blockedTree).result.toOption.map
        (fun outcomes => (Report.ofOutcomes outcomes).written) =
          some ["out/Account.java", "out/Visit.java"] ∧
      (run outSettings ⟨mixedSchema.entities.reverse⟩ blockedTree).result.toOption.map
        (fun outcomes => (Report.ofOutcomes outcomes).written) =
          some ["out/Visit.java", "out/Account.java"] ∧
      SameButForOrder outSettings blockedTree mixedSchema ⟨mixedSchema.entities.reverse⟩ := by
  have valid : outSettings.validate = .ok outSettings := by decide +kernel
  have apart : mixedSchema.Apart outSettings.packageName := by decide +kernel
  have perm : mixedSchema.entities.Perm mixedSchema.entities.reverse :=
    (List.reverse_perm mixedSchema.entities).symm
  refine ⟨valid, apart, ?_, ?_, sameButForOrder_of_perm valid perm apart⟩
  · decide +kernel
  · decide +kernel

end SchemaClasses
