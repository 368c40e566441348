/-
The log and the report tell one story.

A run that is told as it goes keeps four things at once: the lists of a
report, the events so far, the last writer of every class name, and the
files. Each entity adds to them in one of three places (`Journal.note`),
and none of the four is made from another. That they agree with the
outcomes of the run, which is where its report and its log come from, is
proved for one turn (`Journal.Keeps.note`) and by induction for all
(`Journal.Keeps.foldl_note`).

What the log shows of an entity is a part of it that belongs to the
entity alone (`Tells`), and the parts stand in the order of the schema.
A part has one message for each list of the report that the entity is
in, so the entries of one message are a list of the report.
-/
import SchemaClasses.Proofs.CommandLine.ExitStatus
import SchemaClasses.Proofs.Generation.Accounting

namespace SchemaClasses

open Files

-- ============================================================= entries

/-- What the log shows of an event. -/
structure Entry where
  level : Level
  message : String
  fields : List (String × FieldValue)

def Event.entry (event : Event) : Entry := ⟨event.level, event.message, event.fields⟩

namespace Entry

def bookkeeping (entity : String) : Entry :=
  ⟨.debug, "Skipping metadata entry", [("entity", .name entity)]⟩

def failed (entity error : String) : Entry :=
  ⟨.error, "Entity not generated", [("entity", .name entity), ("error", .text error)]⟩

def withoutField (error : FieldError) : Entry :=
  ⟨.warning, "Property skipped",
    [("entity", .name error.entity), ("property", .name error.property),
      ("error", .text error.message)]⟩

def overwritten (entity previous className : String) : Entry :=
  ⟨.warning, "Output type name generated twice, earlier file overwritten",
    [("entity", .name entity), ("previous", .text previous), ("class", .text className)]⟩

def generated (entity path : String) : Entry :=
  ⟨.info, "Generated", [("entity", .name entity), ("path", .text path)]⟩

/-- The last entry: how much a report lists as written and as left out. -/
def finished (report : Report) : Entry :=
  ⟨.info, "Generation finished",
    [("written", .count report.written.length),
      ("skipped_properties", .count report.fieldErrors.length),
      ("failed_entities", .count report.entityErrors.length)]⟩

end Entry

/-- What the log shows of an entity, by how the entity ends. -/
inductive Tells (settings : Settings) (visit : Visit) : List Entry → Prop
  | bookkeeping {entity : String} (stands : visit.standing settings = .bookkeeping entity) :
      Tells settings visit [.bookkeeping visit.entity.name]
  | failed {error : EntityError} (stands : visit.standing settings = .failed error) :
      Tells settings visit [.failed visit.entity.name error.message]
  | written {cls : Class} (previous : Option String)
      (stands : visit.standing settings = .written cls) :
      Tells settings visit
        (cls.skipped.map Entry.withoutField ++
          (previous.map fun previous =>
            Entry.overwritten visit.entity.name previous cls.name).toList ++
          [.generated visit.entity.name (cls.path settings.outputDirectory)])

namespace Outcome

variable {settings : Settings} {earlier : List Outcome} {outcome : Outcome} {before after : Tree}
  {entity : Entity}

/-- A class that was written shows its columns without a field, perhaps that it was written over
another, and where it is. -/
theorem map_entry_written (cls : Class) (path : String) (previous : Option String) :
    (events (.written cls path previous)).map Event.entry =
      cls.skipped.map Entry.withoutField ++
        (previous.map fun previous => Entry.overwritten cls.entity previous cls.name).toList ++
        [.generated cls.entity path] := by
  have columns : (cls.skipped.map Event.propertySkipped).map Event.entry =
      cls.skipped.map Entry.withoutField := by
    rw [List.map_map]
    rfl
  unfold events
  rw [List.map_append, List.map_append, columns]
  cases previous <;> rfl

/-- The events of an outcome show how the entity ends. -/
theorem Turn.tells (turn : Turn settings earlier before entity outcome after) :
    Tells settings ⟨entity, before⟩ (outcome.events.map Event.entry) := by
  have stands := turn.standing_eq.symm
  have named := turn.entity_eq
  cases outcome with
  | skipped name =>
      have told := Tells.bookkeeping stands
      rw [← named] at told
      exact told
  | failed error =>
      have told := Tells.failed stands
      rw [← named] at told
      exact told
  | written cls path previous =>
      obtain ⟨-, -, rfl⟩ := turn.rendered
      have told := Tells.written previous stands
      rw [← named] at told
      rw [map_entry_written]
      exact told

end Outcome

-- ============================================================ journals

/-- A run that is told as it goes. -/
structure Journal where
  report : Report
  events : List Event
  /-- The entity that each class name was written for last, the latest first. -/
  owners : List (String × String)
  tree : Tree

/-- Nothing is told yet. -/
def Journal.start (tree : Tree) : Journal := ⟨⟨[], [], [], []⟩, [], [], tree⟩

/-- Tells what becomes of an entity. -/
def Journal.note (settings : Settings) (journal : Journal) (entity : Entity) : Journal :=
  if entity.isGeneratable then
    match Class.emit entity settings.packageName settings.outputDirectory journal.tree with
    | .ok (cls, tree) =>
      let path := cls.path settings.outputDirectory
      let warnings := cls.skipped.map Event.propertySkipped
      let overwritten := (journal.owners.lookup cls.name).map fun previous =>
        Event.overwritten entity.name previous cls.name
      { report := { journal.report with
          written := journal.report.written ++ [path]
          fieldErrors := journal.report.fieldErrors ++ cls.skipped }
        events := journal.events ++ warnings ++ overwritten.toList ++ [.generated entity.name path]
        owners := (cls.name, entity.name) :: journal.owners
        tree := tree }
    | .error error =>
      { journal with
        report := { journal.report with
          entityErrors := journal.report.entityErrors ++ [error] }
        events := journal.events ++ [.entityFailed error] }
  else
    { journal with
      report := { journal.report with
        skippedEntities := journal.report.skippedEntities ++ [entity.name] }
      events := journal.events ++ [.entitySkipped entity.name] }

/-- What is told of a run: its report, if there is one, its events, and the files it leaves. -/
structure Told where
  report : Except DirectoryError Report
  events : List Event
  tree : Tree

/-- Tells a run as it goes. -/
def tell (settings : Settings) (schema : Schema) (tree : Tree) : Told :=
  match tree.makeDirectories settings.outputDirectory with
  | (tree, some fault) => ⟨.error ⟨settings.outputDirectory, fault⟩, [], tree⟩
  | (tree, none) =>
    let journal := schema.entities.foldl (Journal.note settings) (Journal.start tree)
    ⟨.ok journal.report, journal.events ++ [journal.report.finished], journal.tree⟩

/-- Reports on one part of the outcomes and on the rest make one report. -/
instance : Append Report where
  append first second :=
    { written := first.written ++ second.written
      skippedEntities := first.skippedEntities ++ second.skippedEntities
      fieldErrors := first.fieldErrors ++ second.fieldErrors
      entityErrors := first.entityErrors ++ second.entityErrors }

theorem Report.append_def (first second : Report) :
    first ++ second =
      ⟨first.written ++ second.written, first.skippedEntities ++ second.skippedEntities,
        first.fieldErrors ++ second.fieldErrors, first.entityErrors ++ second.entityErrors⟩ :=
  rfl

theorem Report.ofOutcomes_append (front back : List Outcome) :
    ofOutcomes (front ++ back) = ofOutcomes front ++ ofOutcomes back := by
  unfold ofOutcomes
  rw [List.filterMap_append, List.filterMap_append, List.flatMap_append, List.filterMap_append]
  rfl

@[simp] theorem Report.ofOutcomes_skipped (entity : String) :
    ofOutcomes [.skipped entity] = ⟨[], [entity], [], []⟩ := rfl

@[simp] theorem Report.ofOutcomes_failed (error : EntityError) :
    ofOutcomes [.failed error] = ⟨[], [], [], [error]⟩ := rfl

@[simp] theorem Report.ofOutcomes_written (cls : Class) (path : String) (previous : Option String) :
    ofOutcomes [.written cls path previous] = ⟨[path], [], cls.skipped, []⟩ := by
  simp [ofOutcomes, Outcome.writtenPath?, Outcome.skippedEntity?, Outcome.fieldErrors,
    Outcome.entityError?]

/-- The class name that an outcome is the last writer of, with its entity. -/
def Outcome.owner? : Outcome → Option (String × String)
  | .written cls _ _ => some (cls.name, cls.entity)
  | _ => none

namespace Journal

variable {settings : Settings} {journal : Journal} {earlier outcomes : List Outcome}
  {outcome : Outcome} {tree after : Tree} {entity : Entity} {entities : List Entity}

/-- What a journal notes of an entity is what the outcome of its turn brings. -/
theorem note_eq (owners : ∀ name, journal.owners.lookup name = lastWriter? name earlier)
    (turn : Outcome.Turn settings earlier journal.tree entity outcome after) :
    journal.note settings entity =
      ⟨journal.report ++ .ofOutcomes [outcome], journal.events ++ outcome.events,
        outcome.owner?.toList ++ journal.owners, after⟩ := by
  unfold note Class.emit Class.write
  rw [Report.append_def]
  cases turn with
  | skipped bookkeeping =>
      rw [bookkeeping, if_neg Bool.false_ne_true]
      simp [Outcome.events, Outcome.owner?]
  | unrendered generatable unrendered =>
      rw [if_pos generatable, unrendered]
      simp [Outcome.events, Outcome.owner?]
  | unwritten generatable rendered unwritten =>
      rw [if_pos generatable, rendered]
      dsimp only
      rw [unwritten]
      simp [Outcome.events, Outcome.owner?, Except.map]
  | written generatable rendered written =>
      rw [if_pos generatable, rendered]
      dsimp only
      rw [written]
      have named := Class.entity_of_render rendered
      simp [Outcome.events, Outcome.owner?, Except.map, owners, named]

/-- A journal agrees with the outcomes so far, the latest first, and with the files. -/
structure Keeps (journal : Journal) (earlier : List Outcome) (tree : Tree) : Prop where
  report : journal.report = Report.ofOutcomes earlier.reverse
  events : journal.events = earlier.reverse.flatMap Outcome.events
  owners : ∀ name, journal.owners.lookup name = lastWriter? name earlier
  tree : journal.tree = tree

theorem keeps_start (tree : Tree) : (start tree).Keeps [] tree :=
  ⟨rfl, rfl, fun _ => rfl, rfl⟩

/-- The last writer of a name is the one of the last outcome or one before it. -/
theorem lookup_owner (owners : ∀ name, journal.owners.lookup name = lastWriter? name earlier)
    (name : String) :
    (outcome.owner?.toList ++ journal.owners).lookup name =
      lastWriter? name (outcome :: earlier) := by
  cases outcome with
  | skipped => exact owners name
  | failed => exact owners name
  | written cls path previous =>
      show ((cls.name, cls.entity) :: journal.owners).lookup name = _
      unfold lastWriter?
      by_cases same : cls.name = name
      · rw [if_pos same, ← same, List.lookup_cons_self]
      · have differs : (name == cls.name) = false := beq_eq_false_iff_ne.2 (Ne.symm same)
        rw [if_neg same, List.lookup_cons, differs]
        exact owners name

/-- A journal that notes the entity whose turn it is agrees with the outcome of the turn. -/
theorem Keeps.note (keeps : journal.Keeps earlier tree)
    (turn : Outcome.Turn settings earlier tree entity outcome after) :
    (journal.note settings entity).Keeps (outcome :: earlier) after := by
  obtain ⟨report, events, owners, rfl⟩ := keeps
  rw [note_eq owners turn]
  refine ⟨?_, ?_, lookup_owner owners, rfl⟩
  · rw [List.reverse_cons, Report.ofOutcomes_append, ← report]
  · rw [List.reverse_cons, List.flatMap_append, ← events, List.flatMap_singleton]

/-- A journal that notes entities agrees with the outcomes of their turns. -/
theorem Keeps.foldl_note (keeps : journal.Keeps earlier tree)
    (turns : Outcome.Turns settings earlier tree entities outcomes after) :
    (entities.foldl (Journal.note settings) journal).Keeps (outcomes.reverse ++ earlier) after := by
  induction turns generalizing journal with
  | nil => exact keeps
  | cons turn _ ih =>
      rw [List.foldl_cons, List.reverse_cons, List.append_assoc]
      exact ih (keeps.note turn)

end Journal

/-- The events of a run: without outcomes there are none. -/
def Run.events (run : Run) : List Event :=
  match run.result with
  | .error _ => []
  | .ok outcomes => Outcome.log outcomes

variable {settings : Settings} {schema : Schema} {tree : Tree} {outcomes : List Outcome}

/-- A run that is told as it goes has the report, the events and the files of the run. -/
theorem tell_eq (settings : Settings) (schema : Schema) (tree : Tree) :
    tell settings schema tree =
      ⟨(run settings schema tree).result.map Report.ofOutcomes, (run settings schema tree).events,
        (run settings schema tree).tree⟩ := by
  unfold tell
  cases directories : tree.makeDirectories settings.outputDirectory with
  | mk made failed =>
      cases failed with
      | some fault =>
          rw [run_eq_of_fault schema directories]
          rfl
      | none =>
          obtain ⟨outcomes, after, turns⟩ := Outcome.exists_turns settings [] made schema.entities
          obtain ⟨report, events, -, files⟩ := (Journal.keeps_start made).foldl_note turns
          rw [List.append_nil, List.reverse_reverse] at report events
          have ran : run settings schema tree = ⟨.ok outcomes, after⟩ :=
            run_eq_of_turns directories turns
          rw [ran]
          dsimp only
          rw [report, events, files]
          rfl

-- ============================================================= the log

/-- The entries of the log are those of the outcomes and a last one. -/
theorem Outcome.map_entry_log (outcomes : List Outcome) :
    (log outcomes).map Event.entry =
      outcomes.flatMap (fun outcome => outcome.events.map Event.entry) ++
        [.finished (Report.ofOutcomes outcomes)] := by
  unfold log
  rw [List.map_append, List.map_flatMap]
  rfl

/-- Entries of one message are all there under it, and not under another. -/
theorem filter_message {entries : List Entry} {own : String}
    (all : ∀ entry ∈ entries, entry.message = own) (message : String) :
    entries.filter (·.message = message) = if own = message then entries else [] := by
  by_cases same : own = message
  · rw [if_pos same]
    apply List.filter_eq_self.2
    intro entry mem
    exact decide_eq_true ((all entry mem).trans same)
  · rw [if_neg same]
    apply List.filter_eq_nil_iff.2
    intro entry mem found
    exact same ((all entry mem).symm.trans (of_decide_eq_true found))

/-- Where every outcome shows the items of a list by entries of one message, the entries of the
message show the items of all outcomes. -/
theorem Outcome.filter_log {α : Type} {message : String} (items : Outcome → List α)
    (shown : α → Entry)
    (each : ∀ outcome : Outcome, (outcome.events.map Event.entry).filter (·.message = message) =
      (items outcome).map shown)
    (notLast : "Generation finished" ≠ message) (outcomes : List Outcome) :
    ((log outcomes).map Event.entry).filter (·.message = message) =
      (outcomes.flatMap items).map shown := by
  have last : ∀ entry ∈ [Entry.finished (Report.ofOutcomes outcomes)],
      entry.message = "Generation finished" := by
    intro entry mem
    rw [List.mem_singleton.1 mem]
    rfl
  rw [map_entry_log, List.filter_append, filter_message last, if_neg notLast, List.append_nil,
    List.filter_flatMap, List.map_flatMap]
  simp only [each]

/-- The same for a list with at most one item for each outcome. -/
theorem Outcome.filter_log_toList {α : Type} {message : String} (item? : Outcome → Option α)
    (shown : α → Entry)
    (each : ∀ outcome : Outcome, (outcome.events.map Event.entry).filter (·.message = message) =
      (item? outcome).toList.map shown)
    (notLast : "Generation finished" ≠ message) (outcomes : List Outcome) :
    ((log outcomes).map Event.entry).filter (·.message = message) =
      (outcomes.filterMap item?).map shown := by
  rw [filter_log _ _ each notLast, List.filterMap_eq_flatMap_toList]

/-- What a class that was written shows under a message. -/
theorem Outcome.filter_written (message : String) (cls : Class) (path : String)
    (previous : Option String) :
    ((events (.written cls path previous)).map Event.entry).filter (·.message = message) =
      (if "Property skipped" = message then cls.skipped.map Entry.withoutField else []) ++
        (if "Output type name generated twice, earlier file overwritten" = message then
          (previous.map fun previous => Entry.overwritten cls.entity previous cls.name).toList
        else []) ++
        (if "Generated" = message then [.generated cls.entity path] else []) := by
  have columns : ∀ entry ∈ cls.skipped.map Entry.withoutField,
      entry.message = "Property skipped" := by
    intro entry mem
    obtain ⟨error, -, rfl⟩ := List.mem_map.1 mem
    rfl
  have overwritten : ∀ entry ∈ (previous.map fun previous =>
      Entry.overwritten cls.entity previous cls.name).toList,
        entry.message = "Output type name generated twice, earlier file overwritten" := by
    intro entry mem
    obtain ⟨previous, -, rfl⟩ := Option.map_eq_some_iff.1 (Option.mem_toList.1 mem)
    rfl
  have generated : ∀ entry ∈ [Entry.generated cls.entity path], entry.message = "Generated" := by
    intro entry mem
    rw [List.mem_singleton.1 mem]
    rfl
  rw [map_entry_written, List.filter_append, List.filter_append, filter_message columns,
    filter_message overwritten, filter_message generated]

/-- The metadata entries in the log are the entities that the report lists as skipped. -/
theorem filter_bookkeeping (outcomes : List Outcome) :
    ((Outcome.log outcomes).map Event.entry).filter (·.message = "Skipping metadata entry") =
      (Report.ofOutcomes outcomes).skippedEntities.map Entry.bookkeeping := by
  apply Outcome.filter_log_toList Outcome.skippedEntity? Entry.bookkeeping _ (by decide)
  intro outcome
  cases outcome with
  | skipped => rfl
  | failed => rfl
  | written cls path previous =>
      simp [Outcome.filter_written, Outcome.skippedEntity?]

/-- The failures in the log are the entity errors. -/
theorem filter_failed (outcomes : List Outcome) :
    ((Outcome.log outcomes).map Event.entry).filter (·.message = "Entity not generated") =
      (Report.ofOutcomes outcomes).entityErrors.map fun error =>
        Entry.failed error.entity error.message := by
  apply Outcome.filter_log_toList Outcome.entityError? _ _ (by decide)
  intro outcome
  cases outcome with
  | skipped => rfl
  | failed => rfl
  | written cls path previous =>
      simp [Outcome.filter_written, Outcome.entityError?]

/-- The columns in the log are the field errors. -/
theorem filter_withoutField (outcomes : List Outcome) :
    ((Outcome.log outcomes).map Event.entry).filter (·.message = "Property skipped") =
      (Report.ofOutcomes outcomes).fieldErrors.map Entry.withoutField := by
  apply Outcome.filter_log Outcome.fieldErrors Entry.withoutField _ (by decide)
  intro outcome
  cases outcome with
  | skipped => rfl
  | failed => rfl
  | written cls path previous =>
      simp [Outcome.filter_written, Outcome.fieldErrors]

/-- The class that an outcome shows as written: its entity, and its path. -/
def Outcome.generated? : Outcome → Option (String × String)
  | .written cls path _ => some (cls.entity, path)
  | _ => none

/-- The paths in the log are those written to. -/
theorem filter_generated (outcomes : List Outcome) :
    (((Outcome.log outcomes).map Event.entry).filter (·.message = "Generated")).map
        (·.fields.lookup "path") =
      (Report.ofOutcomes outcomes).written.map fun path => some (.text path) := by
  have shown : ((Outcome.log outcomes).map Event.entry).filter (·.message = "Generated") =
      (outcomes.filterMap Outcome.generated?).map fun written =>
        Entry.generated written.1 written.2 := by
    apply Outcome.filter_log_toList Outcome.generated? _ _ (by decide)
    intro outcome
    cases outcome with
    | skipped => rfl
    | failed => rfl
    | written cls path previous =>
        simp [Outcome.filter_written, Outcome.generated?]
  have paths : (outcomes.filterMap Outcome.generated?).map Prod.snd =
      outcomes.filterMap Outcome.writtenPath? := by
    rw [List.map_filterMap]
    refine List.filterMap_congr fun outcome _ => ?_
    cases outcome <;> rfl
  rw [shown, List.map_map]
  show _ = (outcomes.filterMap Outcome.writtenPath?).map _
  rw [← paths, List.map_map]
  rfl

-- =========================================================== the story

/-- A log that tells what a report lists. -/
structure Story (settings : Settings) (schema : Schema) (tree : Tree) (report : Report)
    (entries : List Entry) : Prop where
  /-- Every entity has one visit, in the order of the schema. -/
  visited : (visits settings schema tree).map (·.entity) = schema.entities
  /-- The parts of the entities stand in that order, and behind them the counts of the report. -/
  parts : ∃ parts, List.Forall₂ (Tells settings) (visits settings schema tree) parts ∧
    entries = parts.flatten ++ [.finished report]
  skippedEntities : entries.filter (·.message = "Skipping metadata entry") =
    report.skippedEntities.map Entry.bookkeeping
  entityErrors : entries.filter (·.message = "Entity not generated") =
    report.entityErrors.map fun error => .failed error.entity error.message
  fieldErrors : entries.filter (·.message = "Property skipped") =
    report.fieldErrors.map Entry.withoutField
  written : (entries.filter (·.message = "Generated")).map (·.fields.lookup "path") =
    report.written.map fun path => some (.text path)
  /-- A column is told of only where the class was written. -/
  columns : ∀ entry ∈ entries, entry.message = "Property skipped" →
    ∃ visit ∈ visits settings schema tree, ∃ cls, visit.standing settings = .written cls ∧
      ∃ error ∈ cls.skipped, entry = .withoutField error

/-- The log of a run that has outcomes tells what its report lists. -/
theorem story_of_run (ran : (run settings schema tree).result = .ok outcomes) :
    Story settings schema tree (Report.ofOutcomes outcomes)
      ((Outcome.log outcomes).map Event.entry) := by
  obtain ⟨made, directories, turns⟩ := run_result_eq_ok_iff.1 ran
  have fieldErrors := filter_withoutField outcomes
  refine ⟨map_entity_visitsAfter settings tree [] schema.entities,
    ⟨outcomes.map fun outcome => outcome.events.map Event.entry, ?_, ?_⟩,
    filter_bookkeeping outcomes, filter_failed outcomes, fieldErrors, filter_generated outcomes, ?_⟩
  · have told :=
      Outcome.Turns.forall₂_visits (fun _ _ _ _ turn => turn.tells) directories .nil turns
    exact List.forall₂_map_right_iff.2 told
  · rw [Outcome.map_entry_log, List.flatMap_def]
  · intro entry mem column
    have shown : entry ∈ ((Outcome.log outcomes).map Event.entry).filter
        (·.message = "Property skipped") := List.mem_filter.2 ⟨mem, decide_eq_true column⟩
    rw [fieldErrors] at shown
    obtain ⟨error, isError, rfl⟩ := List.mem_map.1 shown
    -- the errors that are reported are those of the classes of visits
    rw [Report.fieldErrors_eq, Outcome.Turns.map_standing directories .nil turns] at isError
    obtain ⟨cls, isClass, isSkipped⟩ := List.mem_flatMap.1 isError
    obtain ⟨standing, isStanding, written⟩ := List.mem_filterMap.1 isClass
    obtain ⟨visit, isVisit, rfl⟩ := List.mem_map.1 isStanding
    exact ⟨visit, isVisit, cls, Standing.class?_eq_some_iff.1 written, error, isSkipped, rfl⟩

/-- A run whose log and whose report tell one story. -/
structure TellsOneStory (settings : Settings) (schema : Schema) (tree : Tree) : Prop where
  /-- Told as it goes, the run has the same report, events and files. -/
  told : tell settings schema tree =
    ⟨(run settings schema tree).result.map Report.ofOutcomes, (run settings schema tree).events,
      (run settings schema tree).tree⟩
  story : ∀ outcomes, (run settings schema tree).result = .ok outcomes →
    Story settings schema tree (Report.ofOutcomes outcomes)
      ((run settings schema tree).events.map Event.entry)
  /-- Without an output directory there is no event, and the program only says so. -/
  aborted : ∀ error, (run settings schema tree).result = .error error →
    (run settings schema tree).events = [] ∧
      (settings.validate = .ok settings → Schema.load tree settings.schemaPath = .ok schema →
        ∀ strict, (CommandLine.attempt settings tree).events strict =
          [.aborted (CommandLine.Abort.directory error).reason])

/-- The log and the report of every run tell one story. -/
theorem tellsOneStory (settings : Settings) (schema : Schema) (tree : Tree) :
    TellsOneStory settings schema tree := by
  refine ⟨tell_eq settings schema tree, ?_, ?_⟩
  · intro outcomes ran
    unfold Run.events
    rw [ran]
    exact story_of_run ran
  · intro error failed
    refine ⟨?_, ?_⟩
    · unfold Run.events
      rw [failed]
    · intro valid loaded strict
      rw [CommandLine.attempt_of_loaded valid loaded, failed]
      rfl

/-- Each way an entity can end, and what the log says of it. -/
example : (run ⟨"schema.yml", "demo.model", "out"⟩ unevenSchema blockedTree).events.map
    Event.message =
      ["Skipping metadata entry", "Entity not generated", "Entity not generated",
        "Property skipped", "Property skipped", "Generated", "Generation finished"] := by
  decide +kernel

end SchemaClasses
