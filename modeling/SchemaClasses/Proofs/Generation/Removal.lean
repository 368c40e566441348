/-
Bad parts contribute nothing.

A run leaves out what it cannot use and goes on: bookkeeping, entities
that fail and columns without a field. Here all of these are taken out
of the schema beforehand, and the run of what is left does the same
work: the same classes in the same order, and in the end the same files.

A column without a field leaves no trace in its class, because it is not
among the fields that later columns are compared with
(`Field.ofProperties_filter`). An entity without a class leaves none in
the run, because it is not among the writers that later classes are
written over (`lastWriter?_clean`), and its turn does not touch the
files. So the turns that write, taken for themselves, are the turns of
the cleaned schema.
-/
import Mathlib.Data.List.Nodup
import SchemaClasses.Proofs.Generation.Report
import SchemaClasses.Proofs.Generation.Turns
import SchemaClasses.Proofs.Schema.Distinct

namespace SchemaClasses

open Files

-- ============================================================= removal

/-- The entity without the columns that are to be dropped. -/
def Entity.without (entity : Entity) (drop : String → Bool) : Entity :=
  { entity with properties := entity.properties.filter fun property => !drop property.name }

namespace Report

/-- Whether the entity is neither bookkeeping nor reported to have failed. -/
def keeps (report : Report) (entity : Entity) : Bool :=
  entity.isGeneratable && !report.entityErrors.any (·.entity == entity.name)

/-- Whether a column of an entity is reported to have no field. -/
def drops (report : Report) (entity property : String) : Bool :=
  report.fieldErrors.any fun error => error.entity == entity && error.property == property

end Report

/-- The schema without bookkeeping and without what is reported to be left out. -/
def Schema.without (schema : Schema) (report : Report) : Schema :=
  ⟨(schema.entities.filter report.keeps).map fun entity => entity.without (report.drops entity.name)⟩

-- ============================================================= columns

namespace Class

variable {entity : Entity} {package : String} {cls : Class}

/-- The errors of a class carry the name of its entity. -/
theorem entity_of_mem_skipped {error : FieldError} (rendered : render entity package = .ok cls)
    (mem : error ∈ cls.skipped) : error.entity = entity.name := by
  obtain ⟨name, named, rfl⟩ := render_eq_ok_iff.1 rendered
  exact Field.entity_of_mem_ofProperties mem

/-- Without columns that have no field, the class is the same but for the errors of these. -/
theorem render_without {drop : String → Bool}
    (distinct : (entity.properties.map (·.name)).Nodup)
    (rendered : render entity package = .ok cls)
    (skipped : ∀ property ∈ entity.properties, drop property.name = true →
      property.name ∈ cls.skipped.map (·.property)) :
    render (entity.without drop) package =
      .ok { cls with skipped := cls.skipped.filter fun error => !drop error.property } := by
  obtain ⟨name, named, rfl⟩ := render_eq_ok_iff.1 rendered
  -- a column has a field or an error and not both, since no two columns have one name
  have apart := (Field.perm_ofProperties entity.name entity.properties []).nodup_iff.2 distinct
  have kept : ∀ field ∈ entity.fields, drop field.property.name = false := by
    intro field mem
    refine Bool.eq_false_iff.2 fun away => ?_
    have column : field.property ∈ entity.properties :=
      Entity.sublist_fields.subset (List.mem_map_of_mem mem)
    exact (List.disjoint_of_nodup_append apart) (List.mem_map_of_mem mem)
      (skipped field.property column away)
  have same := Field.ofProperties_filter entity.name drop entity.properties [] kept
  have fields : (entity.without drop).fields = entity.fields := by
    show (Field.ofProperties entity.name [] (entity.properties.filter _)).1 = _
    rw [same]
    rfl
  have errors : (Field.ofProperties entity.name [] (entity.without drop).properties).2 =
      (Field.ofProperties entity.name [] entity.properties).2.filter fun error =>
        !drop error.property := by
    show (Field.ofProperties entity.name [] (entity.properties.filter _)).2 = _
    rw [same]
  refine render_eq_ok_iff.2 ⟨name, named, ?_⟩
  rw [fields]
  exact congrArg (Class.mk name entity.name _) errors.symm

end Class

-- =============================================================== turns

namespace Outcome

variable {settings : Settings} {earlier outcomes : List Outcome} {outcome : Outcome}
  {tree after : Tree} {entity : Entity} {entities : List Entity}

/-- The outcome that is left of an outcome when nothing bad is in the schema. -/
def clean? : Outcome → Option Outcome
  | .written cls path previous => some (.written { cls with skipped := [] } path previous)
  | _ => none

/-- Nothing is left of an outcome without a class. -/
theorem clean?_eq_none (nothing : outcome.className? = none) : outcome.clean? = none := by
  cases outcome with
  | skipped => rfl
  | failed => rfl
  | written => cases nothing

/-- Outcomes that write no class are no writers of anything. -/
theorem lastWriter?_clean (name : String) (earlier : List Outcome) :
    lastWriter? name (earlier.filterMap clean?) = lastWriter? name earlier := by
  induction earlier with
  | nil => rfl
  | cons outcome rest ih =>
      cases outcome with
      | skipped => exact ih
      | failed => exact ih
      | written cls path previous =>
          show (if cls.name = name then some cls.entity else lastWriter? name (rest.filterMap clean?))
            = if cls.name = name then some cls.entity else lastWriter? name rest
          rw [ih]

/-- An entity with the same class, less its errors, has the same turn. -/
theorem Turn.clean {cls : Class} {path : String} {previous : Option String} {kept : Entity}
    (turn : Turn settings earlier tree entity (.written cls path previous) after)
    (generatable : kept.isGeneratable = true)
    (rendered : Class.render kept settings.packageName = .ok { cls with skipped := [] }) :
    Turn settings (earlier.filterMap clean?) tree kept
      (.written { cls with skipped := [] } path previous) after := by
  cases turn with
  | written _ _ written =>
      rw [← lastWriter?_clean]
      exact .written generatable rendered written

/-- The turns that write are the turns of the entities that are kept, if these have the same classes
less the errors. -/
theorem Turns.clean {keeps : Entity → Bool} {change : Entity → Entity}
    (turns : Turns settings earlier tree entities outcomes after)
    (left : ∀ {earlier before entity outcome behind},
      Turn settings earlier before entity outcome behind → entity ∈ entities → outcome ∈ outcomes →
        outcome.className? = none ∧ keeps entity = false ∨
        ∃ cls path previous, outcome = .written cls path previous ∧ keeps entity = true ∧
          (change entity).isGeneratable = true ∧
          Class.render (change entity) settings.packageName = .ok { cls with skipped := [] }) :
    Turns settings (earlier.filterMap clean?) tree ((entities.filter keeps).map change)
      (outcomes.filterMap clean?) after := by
  induction turns with
  | nil => exact .nil
  | cons turn _ ih =>
      have rest := ih fun turn isEntity isOutcome =>
        left turn (List.mem_cons_of_mem _ isEntity) (List.mem_cons_of_mem _ isOutcome)
      rcases left turn List.mem_cons_self List.mem_cons_self with
        ⟨nothing, dropped⟩ | ⟨cls, path, previous, rfl, kept, generatable, rendered⟩
      · have none := clean?_eq_none nothing
        rw [List.filter_cons_of_neg (by simp [dropped]), List.filterMap_cons_none none]
        rwa [List.filterMap_cons_none none, turn.tree_eq nothing] at rest
      · rw [List.filter_cons_of_pos kept]
        exact .cons (turn.clean generatable rendered) rest

end Outcome

-- ============================================================ the run

section Clean

variable {settings : Settings} {schema : Schema} {tree made : Tree} {outcomes : List Outcome}

/-- The report of cleaned outcomes lists the same classes and nothing else. -/
theorem Report.ofOutcomes_clean (outcomes : List Outcome) :
    (ofOutcomes (outcomes.filterMap Outcome.clean?)).written = (ofOutcomes outcomes).written ∧
      (ofOutcomes (outcomes.filterMap Outcome.clean?)).skippedEntities = [] ∧
      (ofOutcomes (outcomes.filterMap Outcome.clean?)).hasErrors = false := by
  have onlyClean : ∀ outcome ∈ outcomes.filterMap Outcome.clean?,
      ∃ cls path previous, outcome = .written cls path previous ∧ cls.skipped = [] := by
    intro outcome mem
    obtain ⟨other, -, cleaned⟩ := List.mem_filterMap.1 mem
    cases other with
    | skipped => cases cleaned
    | failed => cases cleaned
    | written cls path previous =>
        cases cleaned
        exact ⟨_, path, previous, rfl, rfl⟩
  refine ⟨?_, ?_, ?_⟩
  · show (outcomes.filterMap Outcome.clean?).filterMap Outcome.writtenPath? = _
    rw [List.filterMap_filterMap]
    refine List.filterMap_congr fun outcome _ => ?_
    cases outcome with
    | skipped => rfl
    | failed => rfl
    | written => rfl
  · refine List.filterMap_eq_nil_iff.2 fun outcome mem => ?_
    obtain ⟨cls, path, previous, rfl, -⟩ := onlyClean outcome mem
    rfl
  · refine Report.hasErrors_eq_false_iff.2 ⟨fun error mem => ?_, fun cls path previous mem => ?_⟩
    · obtain ⟨cls, path, previous, eq, -⟩ := onlyClean _ mem
      cases eq
    · obtain ⟨cls, path, previous, eq, clean⟩ := onlyClean _ mem
      cases eq
      exact clean

variable {after : Tree} {cls : Class} {path : String} {previous : Option String}

/-- No two outcomes of a run are those of one entity. -/
theorem outcome_eq_of_entity_eq (distinct : schema.Distinct)
    (turns : Outcome.Turns settings [] made schema.entities outcomes after)
    {first second : Outcome} (isFirst : first ∈ outcomes) (isSecond : second ∈ outcomes)
    (same : first.entity = second.entity) : first = second := by
  have names : (outcomes.map Outcome.entity).Nodup := by
    rw [turns.map_entity]
    exact distinct.entities
  exact List.inj_on_of_nodup_map names isFirst isSecond same

/-- The report keeps an entity whose class was written. -/
theorem keeps_of_written {entity : Entity} (distinct : schema.Distinct)
    (turns : Outcome.Turns settings [] made schema.entities outcomes after)
    (isOutcome : .written cls path previous ∈ outcomes) (own : cls.entity = entity.name)
    (generatable : entity.isGeneratable = true) :
    (Report.ofOutcomes outcomes).keeps entity = true := by
  unfold Report.keeps
  rw [generatable, Bool.true_and, Bool.not_eq_true', List.any_eq_false]
  intro error mem same
  have failed := Report.mem_entityErrors.1 mem
  have other := outcome_eq_of_entity_eq distinct turns failed isOutcome
    ((beq_iff_eq.1 same).trans own.symm)
  cases other

/-- The columns of a class that the report drops are those without a field. -/
theorem drops_iff_of_written (distinct : schema.Distinct)
    (turns : Outcome.Turns settings [] made schema.entities outcomes after)
    (isOutcome : .written cls path previous ∈ outcomes) (property : String) :
    (Report.ofOutcomes outcomes).drops cls.entity property = true ↔
      property ∈ cls.skipped.map (·.property) := by
  -- an error carries the name of the entity whose class it was found in
  have entity_eq : ∀ {cls path previous}, .written cls path previous ∈ outcomes →
      ∀ error ∈ cls.skipped, error.entity = cls.entity := by
    intro cls path previous mem error isError
    obtain ⟨⟨entity, -, -, rendered⟩, -⟩ := turns.rendered mem
    rw [Class.entity_of_mem_skipped rendered isError, Class.entity_of_render rendered]
  unfold Report.drops
  rw [List.any_eq_true, List.mem_map]
  constructor
  · rintro ⟨error, mem, same⟩
    rw [Bool.and_eq_true, beq_iff_eq, beq_iff_eq] at same
    obtain ⟨other, path', previous', isOther, isError⟩ := Report.mem_fieldErrors.1 mem
    have one := outcome_eq_of_entity_eq distinct turns isOther isOutcome
      ((entity_eq isOther error isError).symm.trans same.1)
    cases one
    exact ⟨error, isError, same.2⟩
  · rintro ⟨error, isError, rfl⟩
    refine ⟨error, Report.mem_fieldErrors.2 ⟨cls, path, previous, isOutcome, isError⟩, ?_⟩
    rw [entity_eq isOutcome error isError, beq_self_eq_true, beq_self_eq_true]
    rfl

/-- What is kept of an entity whose class was written has the same class without errors. -/
theorem render_of_written {entity : Entity} (distinct : schema.Distinct)
    (turns : Outcome.Turns settings [] made schema.entities outcomes after)
    (isEntity : entity ∈ schema.entities) (isOutcome : .written cls path previous ∈ outcomes)
    (rendered : Class.render entity settings.packageName = .ok cls) :
    Class.render (entity.without ((Report.ofOutcomes outcomes).drops entity.name))
      settings.packageName = .ok { cls with skipped := [] } := by
  have drops := drops_iff_of_written distinct turns isOutcome
  rw [Class.entity_of_render rendered] at drops
  have cleaned := Class.render_without (distinct.properties entity isEntity) rendered
    fun property _ dropped => (drops property.name).1 dropped
  have none : (cls.skipped.filter fun error =>
      !(Report.ofOutcomes outcomes).drops entity.name error.property) = [] := by
    rw [List.filter_eq_nil_iff]
    intro error isError
    rw [(drops error.property).2 (List.mem_map_of_mem isError)]
    exact Bool.false_ne_true
  rwa [none] at cleaned

/-- Either an entity has no class and is not kept, or its class is written and what is kept of the
entity has the same class without errors. -/
theorem left_of_turn {earlier : List Outcome} {before behind : Tree} {entity : Entity}
    {outcome : Outcome} (distinct : schema.Distinct)
    (turns : Outcome.Turns settings [] made schema.entities outcomes after)
    (turn : Outcome.Turn settings earlier before entity outcome behind)
    (isEntity : entity ∈ schema.entities) (isOutcome : outcome ∈ outcomes) :
    outcome.className? = none ∧ (Report.ofOutcomes outcomes).keeps entity = false ∨
      ∃ cls path previous, outcome = .written cls path previous ∧
        (Report.ofOutcomes outcomes).keeps entity = true ∧
        (entity.without ((Report.ofOutcomes outcomes).drops entity.name)).isGeneratable = true ∧
        Class.render (entity.without ((Report.ofOutcomes outcomes).drops entity.name))
          settings.packageName = .ok { cls with skipped := [] } := by
  have own := turn.entity_eq
  cases outcome with
  | skipped =>
      cases turn with
      | skipped bookkeeping =>
          refine Or.inl ⟨rfl, ?_⟩
          rw [Report.keeps, bookkeeping, Bool.false_and]
  | failed error =>
      refine Or.inl ⟨rfl, ?_⟩
      have reported : (Report.ofOutcomes outcomes).entityErrors.any (·.entity == entity.name) = true :=
        List.any_eq_true.2 ⟨error, Report.mem_entityErrors.2 isOutcome, beq_iff_eq.2 own⟩
      rw [Report.keeps, reported, Bool.not_true, Bool.and_false]
  | written cls path previous =>
      obtain ⟨generatable, rendered, -⟩ := turn.rendered
      exact Or.inr ⟨cls, path, previous, rfl,
        keeps_of_written distinct turns isOutcome own generatable, generatable,
        render_of_written distinct turns isEntity isOutcome rendered⟩

end Clean

-- ======================================================= the two runs

/-- A run of the schema without all that is bad in it does what the run of the schema does. -/
structure CleanRun (settings : Settings) (schema : Schema) (tree : Tree) (outcomes : List Outcome) :
    Prop where
  /-- There are outcomes, and in them the same classes and nothing else. -/
  report : ∃ clean,
    (run settings (schema.without (Report.ofOutcomes outcomes)) tree).result = .ok clean ∧
      (Report.ofOutcomes clean).written = (Report.ofOutcomes outcomes).written ∧
      (Report.ofOutcomes clean).skippedEntities = [] ∧
      (Report.ofOutcomes clean).hasErrors = false
  /-- The files are the same in the end. -/
  files : (run settings (schema.without (Report.ofOutcomes outcomes)) tree).tree =
    (run settings schema tree).tree
  /-- Of every entity: without any of the columns that have no field, the class is the same but for
  their errors. -/
  columns : ∀ (entity : Entity) (package : String) (cls : Class),
    (entity.properties.map (·.name)).Nodup → Class.render entity package = .ok cls →
    ∀ drop : String → Bool, (∀ property ∈ entity.properties, drop property.name = true →
      property.name ∈ cls.skipped.map (·.property)) →
    Class.render (entity.without drop) package =
      .ok { cls with skipped := cls.skipped.filter fun error => !drop error.property }

/-- What a run leaves out of a schema may as well be taken out of it beforehand. -/
theorem cleanRun_of_run {settings : Settings} {schema : Schema} {tree : Tree}
    {outcomes : List Outcome} (distinct : schema.Distinct)
    (ran : (run settings schema tree).result = .ok outcomes) :
    CleanRun settings schema tree outcomes := by
  obtain ⟨made, directories, turns⟩ := run_result_eq_ok_iff.1 ran
  have clean := turns.clean fun turn => left_of_turn distinct turns turn
  have again := run_eq_of_turns directories clean
  refine ⟨?_, ?_, ?_⟩
  · refine ⟨outcomes.filterMap Outcome.clean?, ?_, Report.ofOutcomes_clean outcomes⟩
    rw [Schema.without, again]
  · rw [Schema.without, again]
  · intro entity package cls names rendered drop skipped
    exact Class.render_without names rendered skipped

/-- A schema with bookkeeping, an entity without a class, and two columns without a field. -/
def partlyBad : Schema :=
  .ofEntries [
    ("_attributes", .mapping [("package", .string "demo")]),
    ("broken", .mapping [("id", .mapping [("type", .string "INTEGER")])]),
    ("account", .mapping [("_attributes", .mapping [("phpName", .string "Account")]),
      ("shape", .mapping [("type", .string "POLYGON")]),
      ("first_name", .mapping [("type", .string "VARCHAR")]),
      ("firstName", .mapping [("type", .string "VARCHAR")])])]

theorem cleanRun_partlyBad :
    partlyBad.Distinct ∧
      ∃ outcomes, (run ⟨"schema.yml", "demo.model", "out"⟩ partlyBad .empty).result = .ok outcomes ∧
        (partlyBad.without (Report.ofOutcomes outcomes)).entities.map
          (fun entity => (entity.name, entity.properties.map (·.name))) =
            [("account", ["first_name"])] ∧
        CleanRun ⟨"schema.yml", "demo.model", "out"⟩ partlyBad .empty outcomes := by
  have distinct : partlyBad.Distinct := Schema.distinct_ofEntries (by decide) (by decide)
  have ran : ∃ outcomes,
      (run ⟨"schema.yml", "demo.model", "out"⟩ partlyBad .empty).result = .ok outcomes ∧
        (partlyBad.without (Report.ofOutcomes outcomes)).entities.map
          (fun entity => (entity.name, entity.properties.map (·.name))) =
            [("account", ["first_name"])] := ⟨_, rfl, by decide⟩
  obtain ⟨outcomes, ran, left⟩ := ran
  exact ⟨distinct, outcomes, ran, left, cleanRun_of_run distinct ran⟩

end SchemaClasses
