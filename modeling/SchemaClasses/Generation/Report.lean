/-
The report on a run.

A report sorts the outcomes of a run into what was written, what was
skipped and what went wrong, each in the order of the schema.
-/
import SchemaClasses.Generation.Run

namespace SchemaClasses

/-- What a run did and did not. -/
structure Report where
  /-- The paths written to. -/
  written : List String
  /-- The entities that are bookkeeping. -/
  skippedEntities : List String
  /-- The columns without a field, of the classes that were written. -/
  fieldErrors : List FieldError
  /-- The entities for which no class was written. -/
  entityErrors : List EntityError
deriving DecidableEq

namespace Outcome

def writtenPath? : Outcome → Option String
  | .written _ path _ => some path
  | _ => none

def skippedEntity? : Outcome → Option String
  | .skipped entity => some entity
  | _ => none

def fieldErrors : Outcome → List FieldError
  | .written cls _ _ => cls.skipped
  | _ => []

def entityError? : Outcome → Option EntityError
  | .failed e => some e
  | _ => none

end Outcome

namespace Report

def ofOutcomes (outcomes : List Outcome) : Report where
  written := outcomes.filterMap Outcome.writtenPath?
  skippedEntities := outcomes.filterMap Outcome.skippedEntity?
  fieldErrors := outcomes.flatMap Outcome.fieldErrors
  entityErrors := outcomes.filterMap Outcome.entityError?

/-- How many columns and entities were left out. -/
def errorCount (report : Report) : Nat :=
  report.fieldErrors.length + report.entityErrors.length

def hasErrors (report : Report) : Bool := 0 < report.errorCount

end Report

end SchemaClasses
