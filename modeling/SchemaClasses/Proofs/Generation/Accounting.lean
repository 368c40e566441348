/-
Every entity accounted for.

An entity can end in one of three ways: it is bookkeeping, its class
could not be made, or its class was written. Which one it is (`Standing`)
is decided by its name and by what becomes of its class in the files it
finds (`Visit`), so it can be said without the outcomes of a run. The
lists of a report are read off the standings, taken in the order of the
schema: each list has one item for every entity it is about and none for
the others, and the columns without a field are those of the classes
that were written.

By induction on the turns the standings of the visits are the outcomes
of the run (`map_standing_visits`); the lists of the report follow, since
a report looks at nothing but what an outcome has in common with a
standing.
-/
import Mathlib.Data.List.Nodup
import SchemaClasses.Proofs.Generation.Completeness

namespace SchemaClasses

open Files

-- ============================================================ standings

/-- How an entity ends. -/
inductive Standing where
  /-- Its name says that it is bookkeeping. -/
  | bookkeeping (entity : String)
  /-- Its class could not be rendered or not be written. -/
  | failed (error : EntityError)
  /-- Its class was written. -/
  | written (cls : Class)

namespace Standing

def bookkeeping? : Standing → Option String
  | .bookkeeping entity => some entity
  | _ => none

def error? : Standing → Option EntityError
  | .failed error => some error
  | _ => none

def class? : Standing → Option Class
  | .written cls => some cls
  | _ => none

theorem class?_eq_some_iff {standing : Standing} {cls : Class} :
    standing.class? = some cls ↔ standing = .written cls := by
  cases standing <;> simp [class?]

/-- Every standing is of one of the three kinds. -/
theorem length_filterMap (standings : List Standing) :
    (standings.filterMap class?).length + (standings.filterMap bookkeeping?).length +
      (standings.filterMap error?).length = standings.length := by
  induction standings with
  | nil => rfl
  | cons standing rest ih =>
      rw [List.filterMap_cons, List.filterMap_cons, List.filterMap_cons, List.length_cons]
      cases standing with
      | bookkeeping entity =>
          show _ + (_ + 1) + (rest.filterMap error?).length = _
          dsimp only [class?]
          omega
      | failed error =>
          show _ + _ + (_ + 1) = _
          dsimp only [class?, bookkeeping?]
          omega
      | written cls =>
          show _ + 1 + _ + _ = _
          dsimp only [bookkeeping?, error?]
          omega

end Standing

-- =============================================================== visits

/-- An entity, and the files it finds when its turn comes. -/
structure Visit where
  entity : Entity
  before : Tree

/-- How the entity ends: bookkeeping is told by the underscore, all else by what becomes of the
class. -/
def Visit.standing (settings : Settings) (visit : Visit) : Standing :=
  if visit.entity.name.toList.head? = some '_' then .bookkeeping visit.entity.name
  else
    match Class.emit visit.entity settings.packageName settings.outputDirectory visit.before with
    | .error error => .failed error
    | .ok (cls, _) => .written cls

/-- The visits of entities that come behind the entities `first`: each finds the files that the run of
those before it leaves. -/
def visitsAfter (settings : Settings) (tree : Tree) (first : List Entity) :
    List Entity → List Visit
  | [] => []
  | entity :: rest =>
    ⟨entity, (run settings ⟨first⟩ tree).tree⟩ :: visitsAfter settings tree (first ++ [entity]) rest

/-- The visits of the entities of a schema, in order. -/
def visits (settings : Settings) (schema : Schema) (tree : Tree) : List Visit :=
  visitsAfter settings tree [] schema.entities

theorem map_entity_visitsAfter (settings : Settings) (tree : Tree) (first rest : List Entity) :
    (visitsAfter settings tree first rest).map (·.entity) = rest := by
  induction rest generalizing first with
  | nil => rfl
  | cons entity rest ih => rw [visitsAfter, List.map_cons, ih]

theorem Entity.isGeneratable_eq_false_iff {entity : Entity} :
    entity.isGeneratable = false ↔ entity.name.toList.head? = some '_' := by
  unfold isGeneratable Naming.isGeneratable
  rw [bne_eq_false_iff_eq]

-- ================================================== standing and outcome

/-- The standing that an outcome tells of. -/
def Outcome.standing : Outcome → Standing
  | .skipped entity => .bookkeeping entity
  | .failed error => .failed error
  | .written cls _ _ => .written cls

namespace Outcome

variable {settings : Settings} {earlier front outcomes : List Outcome} {outcome : Outcome}
  {tree made before after : Tree} {entity : Entity} {first rest : List Entity}

/-- The outcome of a turn tells how the entity ends. -/
theorem Turn.standing_eq (turn : Turn settings earlier before entity outcome after) :
    outcome.standing = Visit.standing settings ⟨entity, before⟩ := by
  have named : entity.isGeneratable = true → ¬entity.name.toList.head? = some '_' := by
    intro generatable underscore
    rw [Entity.isGeneratable_eq_false_iff.2 underscore] at generatable
    cases generatable
  unfold Visit.standing Class.emit Class.write
  cases turn with
  | skipped bookkeeping =>
      rw [if_pos (Entity.isGeneratable_eq_false_iff.1 bookkeeping)]
      rfl
  | unrendered generatable unrendered =>
      rw [if_neg (named generatable), unrendered]
      rfl
  | unwritten generatable rendered unwritten =>
      rw [if_neg (named generatable), rendered]
      dsimp only
      rw [unwritten]
      rfl
  | written generatable rendered written =>
      rw [if_neg (named generatable), rendered]
      dsimp only
      rw [written]
      rfl

/-- Every visit has a turn whose outcome tells how the entity ends. -/
theorem exists_turn (settings : Settings) (visit : Visit) :
    ∃ outcome after, Turn settings [] visit.before visit.entity outcome after ∧
      outcome.standing = visit.standing settings := by
  have turn := turn_iff.2 (rfl : ofEntity settings [] visit.before visit.entity = _)
  exact ⟨_, _, turn, turn.standing_eq⟩

/-- What every turn makes true of its visit and its outcome is true of the visits and the outcomes,
one by one. -/
theorem Turns.forall₂_visits {claim : Visit → Outcome → Prop}
    (each : ∀ earlier visit outcome after,
      Turn settings earlier visit.before visit.entity outcome after → claim visit outcome)
    (directories : tree.makeDirectories settings.outputDirectory = (made, none))
    (earlier : Turns settings [] made first front before)
    (turns : Turns settings (front.reverse ++ []) before rest outcomes after) :
    List.Forall₂ claim (visitsAfter settings tree first rest) outcomes := by
  induction rest generalizing first front before outcomes with
  | nil =>
      cases turns
      exact .nil
  | cons entity rest ih =>
      cases turns with
      | cons turn later =>
          have found : (run settings ⟨first⟩ tree).tree = before := by
            rw [run_eq_of_turns directories earlier]
          have further := earlier.append (.cons turn .nil)
          rw [visitsAfter, found]
          refine .cons (each _ ⟨entity, before⟩ _ _ turn) (ih further ?_)
          rwa [List.reverse_append, List.append_assoc]

/-- The outcomes of turns tell how the entities end. -/
theorem Turns.map_standing
    (directories : tree.makeDirectories settings.outputDirectory = (made, none))
    (earlier : Turns settings [] made first front before)
    (turns : Turns settings (front.reverse ++ []) before rest outcomes after) :
    outcomes.map standing = (visitsAfter settings tree first rest).map (·.standing settings) := by
  have each : List.Forall₂ (fun visit outcome => visit.standing settings = outcome.standing)
      (visitsAfter settings tree first rest) outcomes :=
    forall₂_visits (fun _ _ _ _ turn => turn.standing_eq.symm) directories earlier turns
  rw [← List.forall₂_map_right_iff, ← List.forall₂_map_left_iff, List.forall₂_eq_eq_eq] at each
  exact each.symm

/-- The classes that were written stand where their outcomes do, each with its path. -/
theorem Turns.written_eq (turns : Turns settings earlier before rest outcomes after) :
    (Report.ofOutcomes outcomes).written =
      ((outcomes.map standing).filterMap Standing.class?).map (·.path settings.outputDirectory) := by
  show outcomes.filterMap writtenPath? = _
  rw [List.filterMap_map, List.map_filterMap]
  refine List.filterMap_congr fun outcome mem => ?_
  cases outcome with
  | skipped => rfl
  | failed => rfl
  | written cls path previous =>
      obtain ⟨-, rfl⟩ := turns.rendered mem
      rfl

end Outcome

section
variable {settings : Settings} {visit : Visit}

/-- A class that is written is that of its entity. -/
theorem Visit.render_of_standing {cls : Class} (written : visit.standing settings = .written cls) :
    Class.render visit.entity settings.packageName = .ok cls := by
  obtain ⟨outcome, after, turn, stands⟩ := Outcome.exists_turn settings visit
  rw [written] at stands
  cases outcome with
  | skipped => cases stands
  | failed => cases stands
  | written =>
      cases stands
      exact turn.rendered.2.1

/-- The error of an entity that fails carries its name. -/
theorem Visit.entity_of_standing {error : EntityError}
    (failed : visit.standing settings = .failed error) : error.entity = visit.entity.name := by
  obtain ⟨outcome, after, turn, stands⟩ := Outcome.exists_turn settings visit
  rw [failed] at stands
  cases outcome with
  | skipped => cases stands
  | failed =>
      cases stands
      exact turn.entity_eq
  | written => cases stands

end

namespace Report

variable (outcomes : List Outcome)

theorem skippedEntities_eq :
    (ofOutcomes outcomes).skippedEntities =
      (outcomes.map Outcome.standing).filterMap Standing.bookkeeping? := by
  show outcomes.filterMap Outcome.skippedEntity? = _
  rw [List.filterMap_map]
  refine List.filterMap_congr fun outcome _ => ?_
  cases outcome <;> rfl

theorem entityErrors_eq :
    (ofOutcomes outcomes).entityErrors =
      (outcomes.map Outcome.standing).filterMap Standing.error? := by
  show outcomes.filterMap Outcome.entityError? = _
  rw [List.filterMap_map]
  refine List.filterMap_congr fun outcome _ => ?_
  cases outcome <;> rfl

/-- The columns without a field are those of the classes that were written, class by class. -/
theorem fieldErrors_eq :
    (ofOutcomes outcomes).fieldErrors =
      ((outcomes.map Outcome.standing).filterMap Standing.class?).flatMap (·.skipped) := by
  show outcomes.flatMap Outcome.fieldErrors = _
  induction outcomes with
  | nil => rfl
  | cons outcome rest ih =>
      rw [List.flatMap_cons, ih, List.map_cons, List.filterMap_cons]
      cases outcome <;> rfl

end Report

-- ========================================================== accounting

/-- What is told of a column without a field: its entity, its name, and what kept it from being a
field behind the columns before it. -/
def FieldError.ComesFrom (error : FieldError) (entity : Entity) : Prop :=
  error.entity = entity.name ∧
    ∃ front property back, entity.properties = front ++ property :: back ∧
      error.property = property.name ∧
      Field.ofPropertyAfter (Field.ofProperties entity.name [] front).1 property = .error error.fault

/-- A report that accounts for every entity of a schema, and for every column of the classes that
were written. -/
structure Accounting (settings : Settings) (schema : Schema) (tree : Tree) (report : Report) :
    Prop where
  /-- Every entity has one visit, in the order of the schema. -/
  visited : (visits settings schema tree).map (·.entity) = schema.entities
  skippedEntities : report.skippedEntities =
    ((visits settings schema tree).map (·.standing settings)).filterMap Standing.bookkeeping?
  entityErrors : report.entityErrors =
    ((visits settings schema tree).map (·.standing settings)).filterMap Standing.error?
  written : report.written =
    (((visits settings schema tree).map (·.standing settings)).filterMap Standing.class?).map
      (·.path settings.outputDirectory)
  fieldErrors : report.fieldErrors =
    (((visits settings schema tree).map (·.standing settings)).filterMap Standing.class?).flatMap
      (·.skipped)
  /-- No entity is in two of the lists or in none. -/
  total : report.written.length + report.skippedEntities.length + report.entityErrors.length =
    schema.entities.length
  /-- An entity that failed is the one its error names. -/
  failed : ∀ visit ∈ visits settings schema tree, ∀ error,
    visit.standing settings = .failed error → error.entity = visit.entity.name
  /-- The class of an entity has an error for every column that it declares no field for. -/
  columns : ∀ visit ∈ visits settings schema tree, ∀ cls,
    visit.standing settings = .written cls →
      (∀ error ∈ cls.skipped, error.ComesFrom visit.entity) ∧
      ∃ outline, Outline.ofText? cls.source = some outline ∧
        outline.declarations.length + cls.skipped.length = visit.entity.properties.length
  /-- No column is reported of an entity whose class was not written. -/
  others : schema.names.Nodup → ∀ visit ∈ visits settings schema tree,
    (visit.standing settings).class? = none →
      ∀ error ∈ report.fieldErrors, error.entity ≠ visit.entity.name

namespace Class

variable {entity : Entity} {package : String} {cls : Class}

/-- Every error of a class comes from a column of its entity. -/
theorem comesFrom_of_render (rendered : render entity package = .ok cls) :
    ∀ error ∈ cls.skipped, error.ComesFrom entity := by
  intro error mem
  obtain ⟨name, named, rfl⟩ := render_eq_ok_iff.1 rendered
  obtain ⟨front, property, back, fault, parts, found, rfl⟩ := Field.mem_ofProperties_iff.1 mem
  exact ⟨rfl, front, property, back, parts, rfl, found⟩

/-- Every column has a declaration or an error. -/
theorem length_declarations_of_render (hpackage : Naming.isPackage package = true)
    (rendered : render entity package = .ok cls) :
    ∃ outline, Outline.ofText? cls.source = some outline ∧
      outline.declarations.length + cls.skipped.length = entity.properties.length := by
  refine ⟨_, Outline.ofText?_source hpackage rendered, ?_⟩
  obtain ⟨name, named, rfl⟩ := render_eq_ok_iff.1 rendered
  have counted := (Field.perm_ofProperties entity.name entity.properties []).length_eq
  simpa [Entity.fields] using counted

end Class

variable {settings : Settings} {schema : Schema} {tree : Tree} {outcomes : List Outcome}

/-- The report of a run accounts for every entity. -/
theorem accounting_of_run (valid : settings.validate = .ok settings)
    (ran : (run settings schema tree).result = .ok outcomes) :
    Accounting settings schema tree (Report.ofOutcomes outcomes) := by
  obtain ⟨made, directories, turns⟩ := run_result_eq_ok_iff.1 ran
  have visited : (visits settings schema tree).map (·.entity) = schema.entities :=
    map_entity_visitsAfter settings tree [] schema.entities
  have standings : outcomes.map Outcome.standing =
      (visits settings schema tree).map (·.standing settings) :=
    Outcome.Turns.map_standing directories .nil turns
  have skippedEntities := Report.skippedEntities_eq outcomes
  have entityErrors := Report.entityErrors_eq outcomes
  have fieldErrors := Report.fieldErrors_eq outcomes
  have written := turns.written_eq
  rw [standings] at skippedEntities entityErrors fieldErrors written
  refine ⟨visited, skippedEntities, entityErrors, written, fieldErrors, ?_, ?_, ?_, ?_⟩
  · rw [skippedEntities, entityErrors, written, List.length_map, Standing.length_filterMap,
      List.length_map, ← visited, List.length_map]
  · exact fun visit _ error failed => Visit.entity_of_standing failed
  · intro visit _ cls stands
    have rendered := Visit.render_of_standing stands
    exact ⟨Class.comesFrom_of_render rendered,
      Class.length_declarations_of_render (isPackage_of_validate valid) rendered⟩
  · intro distinct visit isVisit notWritten error mem same
    rw [fieldErrors] at mem
    obtain ⟨cls, isClass, isError⟩ := List.mem_flatMap.1 mem
    obtain ⟨standing, isStanding, written⟩ := List.mem_filterMap.1 isClass
    obtain ⟨other, isOther, rfl⟩ := List.mem_map.1 isStanding
    have stands : other.standing settings = .written cls := Standing.class?_eq_some_iff.1 written
    have own := (Class.comesFrom_of_render (Visit.render_of_standing stands) error isError).1
    have names : ((visits settings schema tree).map (·.entity.name)).Nodup := by
      rw [Schema.names, ← visited, List.map_map] at distinct
      exact distinct
    have one := List.inj_on_of_nodup_map names isOther isVisit (own.symm.trans same)
    rw [← one, written] at notWritten
    cases notWritten

/-- A schema with bookkeeping, an entity without a class, one whose class cannot be written where a
directory has the name of its file, and one whose class is written without two of its columns. -/
def unevenSchema : Schema :=
  .ofEntries [
    ("_meta", .mapping [("version", .number (.whole 2))]),
    ("broken", .mapping [("id", .mapping [("type", .string "INTEGER")])]),
    ("blocked", .mapping [("_attributes", .mapping [("phpName", .string "Blocked")]),
      ("shape", .mapping [("type", .string "POLYGON")])]),
    ("account", .mapping [("_attributes", .mapping [("phpName", .string "Account")]),
      ("shape", .mapping [("type", .string "POLYGON")]),
      ("first_name", .mapping [("type", .string "VARCHAR")]),
      ("firstName", .mapping [("type", .string "VARCHAR")])])]

def blockedTree : Tree :=
  (Tree.empty.put ["out"] .directory).put ["out", "Blocked.java"] .directory

theorem accounting_unevenSchema :
    Settings.validate ⟨"schema.yml", "demo.model", "out"⟩ = .ok ⟨"schema.yml", "demo.model", "out"⟩ ∧
      ∃ outcomes, (run ⟨"schema.yml", "demo.model", "out"⟩ unevenSchema blockedTree).result =
          .ok outcomes ∧
        (Report.ofOutcomes outcomes).skippedEntities = ["_meta"] ∧
        (Report.ofOutcomes outcomes).entityErrors.map (·.entity) = ["broken", "blocked"] ∧
        (Report.ofOutcomes outcomes).written = ["out/Account.java"] ∧
        (Report.ofOutcomes outcomes).fieldErrors.map (fun error => (error.entity, error.property)) =
          [("account", "shape"), ("account", "firstName")] ∧
        Accounting ⟨"schema.yml", "demo.model", "out"⟩ unevenSchema blockedTree
          (Report.ofOutcomes outcomes) := by
  have ran : ∃ outcomes,
      (run ⟨"schema.yml", "demo.model", "out"⟩ unevenSchema blockedTree).result = .ok outcomes ∧
        (Report.ofOutcomes outcomes).skippedEntities = ["_meta"] ∧
        (Report.ofOutcomes outcomes).entityErrors.map (·.entity) = ["broken", "blocked"] ∧
        (Report.ofOutcomes outcomes).written = ["out/Account.java"] ∧
        (Report.ofOutcomes outcomes).fieldErrors.map (fun error => (error.entity, error.property)) =
          [("account", "shape"), ("account", "firstName")] :=
    ⟨_, rfl, by decide, by decide, by decide, by decide⟩
  obtain ⟨outcomes, ran, bookkeeping, failed, written, columns⟩ := ran
  exact ⟨by decide, outcomes, ran, bookkeeping, failed, written, columns,
    accounting_of_run (by decide) ran⟩

end SchemaClasses
