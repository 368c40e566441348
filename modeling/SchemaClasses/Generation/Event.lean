/-
The events of a run.

Every outcome leaves its events, in the order of the schema, and a last
event counts them. An event has a level, a message that is always the
same, and fields that tell what it is about.
-/
import SchemaClasses.Generation.Report

namespace SchemaClasses

/-- How important an event is. -/
inductive Level where
  | error
  | warning
  | info
  | debug
deriving DecidableEq, Repr

def Level.name : Level → String
  | .error => "ERROR"
  | .warning => "WARN"
  | .info => "INFO"
  | .debug => "DEBUG"

/-- Something that happened. -/
inductive Event where
  /-- An entity is bookkeeping. -/
  | entitySkipped (entity : String)
  /-- No class was written for an entity. -/
  | entityFailed (error : EntityError)
  /-- A column has no field. -/
  | propertySkipped (error : FieldError)
  /-- A class was written over that of an earlier entity. -/
  | overwritten (entity previous className : String)
  /-- A class was written. -/
  | generated (entity path : String)
  /-- All entities have their outcomes. -/
  | finished (written skippedProperties failedEntities : Nat)
  /-- The run counts as failed because of what was left out. -/
  | failedForErrors (errors : Nat)
  /-- There was no run. -/
  | aborted (reason : String)

/-- The value of a field. -/
inductive FieldValue where
  /-- A name, which is quoted where values stand beside each other. -/
  | name (text : String)
  /-- Any other text. -/
  | text (text : String)
  | count (n : Nat)

namespace Event

def level : Event → Level
  | .entitySkipped _ => .debug
  | .entityFailed _ => .error
  | .propertySkipped _ => .warning
  | .overwritten _ _ _ => .warning
  | .generated _ _ => .info
  | .finished _ _ _ => .info
  | .failedForErrors _ => .error
  | .aborted _ => .error

def message : Event → String
  | .entitySkipped _ => "Skipping metadata entry"
  | .entityFailed _ => "Entity not generated"
  | .propertySkipped _ => "Property skipped"
  | .overwritten _ _ _ => "Output type name generated twice, earlier file overwritten"
  | .generated _ _ => "Generated"
  | .finished _ _ _ => "Generation finished"
  | .failedForErrors _ => "Generation finished with errors"
  | .aborted reason => reason

/-- The fields of an event, in order. -/
def fields : Event → List (String × FieldValue)
  | .entitySkipped entity => [("entity", .name entity)]
  | .entityFailed e => [("entity", .name e.entity), ("error", .text e.message)]
  | .propertySkipped e =>
    [("entity", .name e.entity), ("property", .name e.property), ("error", .text e.message)]
  | .overwritten entity previous className =>
    [("entity", .name entity), ("previous", .text previous), ("class", .text className)]
  | .generated entity path => [("entity", .name entity), ("path", .text path)]
  | .finished written skippedProperties failedEntities =>
    [("written", .count written), ("skipped_properties", .count skippedProperties),
      ("failed_entities", .count failedEntities)]
  | .failedForErrors errors => [("errors", .count errors)]
  | .aborted _ => []

end Event

/-- The events that an outcome leaves. -/
def Outcome.events : Outcome → List Event
  | .skipped entity => [.entitySkipped entity]
  | .failed e => [.entityFailed e]
  | .written cls path previous =>
    cls.skipped.map Event.propertySkipped ++
    (previous.map fun previous => Event.overwritten cls.entity previous cls.name).toList ++
    [.generated cls.entity path]

/-- The event that counts what a report lists. -/
def Report.finished (report : Report) : Event :=
  .finished report.written.length report.fieldErrors.length report.entityErrors.length

/-- The events of a run with these outcomes. -/
def Outcome.log (outcomes : List Outcome) : List Event :=
  outcomes.flatMap events ++ [(Report.ofOutcomes outcomes).finished]

end SchemaClasses
