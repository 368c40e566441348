/-
What a report lists, in terms of the outcomes.

A report sorts the outcomes of a run by kind. Each of its lists is read
back here to the outcomes it is made of, so that nothing else has to
look into how they are sorted.
-/
import Mathlib.Data.List.Basic
import SchemaClasses.Generation.Report

namespace SchemaClasses

namespace Report

variable {outcomes : List Outcome}

/-- The entity errors are those of the outcomes that failed. -/
theorem mem_entityErrors {error : EntityError} :
    error ∈ (ofOutcomes outcomes).entityErrors ↔ .failed error ∈ outcomes := by
  constructor
  · intro mem
    obtain ⟨outcome, isOutcome, isError⟩ := List.mem_filterMap.1 mem
    cases outcome with
    | skipped => cases isError
    | failed other =>
        cases isError
        exact isOutcome
    | written => cases isError
  · intro isOutcome
    exact List.mem_filterMap.2 ⟨_, isOutcome, rfl⟩

/-- The field errors are those of the classes that were written. -/
theorem mem_fieldErrors {error : FieldError} :
    error ∈ (ofOutcomes outcomes).fieldErrors ↔
      ∃ cls path previous, .written cls path previous ∈ outcomes ∧ error ∈ cls.skipped := by
  constructor
  · intro mem
    obtain ⟨outcome, isOutcome, isError⟩ := List.mem_flatMap.1 mem
    cases outcome with
    | skipped => cases isError
    | failed => cases isError
    | written cls path previous => exact ⟨cls, path, previous, isOutcome, isError⟩
  · rintro ⟨cls, path, previous, isOutcome, isError⟩
    exact List.mem_flatMap.2 ⟨_, isOutcome, isError⟩

/-- A run has errors exactly if an entity failed or a column of a class has no field. -/
theorem hasErrors_eq_false_iff :
    (ofOutcomes outcomes).hasErrors = false ↔
      (∀ error, .failed error ∉ outcomes) ∧
        ∀ cls path previous, .written cls path previous ∈ outcomes → cls.skipped = [] := by
  have none : (ofOutcomes outcomes).hasErrors = false ↔
      (ofOutcomes outcomes).fieldErrors = [] ∧ (ofOutcomes outcomes).entityErrors = [] := by
    rw [hasErrors, decide_eq_false_iff_not, errorCount, Nat.not_lt, Nat.le_zero_eq,
      Nat.add_eq_zero_iff, List.length_eq_zero_iff, List.length_eq_zero_iff]
  rw [none, List.eq_nil_iff_forall_not_mem, List.eq_nil_iff_forall_not_mem]
  constructor
  · rintro ⟨fields, entities⟩
    refine ⟨fun error isOutcome => entities error (mem_entityErrors.2 isOutcome), ?_⟩
    intro cls path previous isOutcome
    rw [List.eq_nil_iff_forall_not_mem]
    exact fun error mem => fields error (mem_fieldErrors.2 ⟨cls, path, previous, isOutcome, mem⟩)
  · rintro ⟨entities, fields⟩
    refine ⟨fun error mem => ?_, fun error mem => entities error (mem_entityErrors.1 mem)⟩
    obtain ⟨cls, path, previous, isOutcome, isError⟩ := mem_fieldErrors.1 mem
    rw [fields cls path previous isOutcome] at isError
    cases isError

end Report

end SchemaClasses
