/-
What a class imports.

The imports are put in one by one, each where it ascends, so they ascend
and none is there twice. Imported are the annotation of the class, that
of the fields where one is bound to another name than its own, and the
types of the fields.
-/
import SchemaClasses.Proofs.Class.Source
import SchemaClasses.Proofs.Value.Keyed

namespace SchemaClasses

/-- A name among ascending ones is put where it ascends. -/
theorem pairwise_insertAscending {name : String} {names : List String}
    (ascending : names.Pairwise (· < ·)) : (insertAscending name names).Pairwise (· < ·) := by
  induction names with
  | nil => exact List.pairwise_singleton _ _
  | cons other rest ih =>
      obtain ⟨first, later⟩ := List.pairwise_cons.1 ascending
      unfold insertAscending
      by_cases before : name < other
      · rw [if_pos before]
        refine List.pairwise_cons.2 ⟨fun x mem => ?_, ascending⟩
        rcases List.mem_cons.1 mem with rfl | inRest
        · exact before
        · exact String.lt_trans before (first x inRest)
      · rw [if_neg before]
        by_cases same : name = other
        · rw [if_pos same]
          exact ascending
        · rw [if_neg same]
          refine List.pairwise_cons.2 ⟨fun x mem => ?_, ih later⟩
          rcases mem_insertAscending.1 mem with rfl | inRest
          · exact lt_of_not_lt_of_ne before (Ne.symm same)
          · exact first x inRest

/-- The imports of a class ascend. -/
theorem pairwise_importsOf (fields : List Field) : (importsOf fields).Pairwise (· < ·) := by
  have ascending : ∀ names : List String,
      (names.foldr insertAscending []).Pairwise (· < ·) := by
    intro names
    induction names with
    | nil => exact List.Pairwise.nil
    | cons name rest ih => exact pairwise_insertAscending ih
  exact ascending _

/-- No import of a class occurs twice. -/
theorem nodup_importsOf (fields : List Field) : (importsOf fields).Nodup :=
  (pairwise_importsOf fields).imp fun before => String.ne_of_lt before

/-- A class imports one annotation for itself, one for its fields where these need it, and the types
of its fields. -/
theorem mem_importsOf_iff {fields : List Field} {path : String} :
    path ∈ importsOf fields ↔
      path = "lombok.Data" ∨
        path = "com.google.gson.annotations.SerializedName" ∧
          fields.any (·.serializedName?.isSome) = true ∨
        ∃ field ∈ fields, field.type.importName = some path := by
  unfold importsOf
  simp only [mem_foldr_insertAscending, List.mem_append, List.mem_cons, List.mem_filterMap,
    or_assoc]
  refine or_congr Iff.rfl (or_congr ?_ Iff.rfl)
  split
  next renamed => simp [renamed]
  next notRenamed => simp [notRenamed]

end SchemaClasses
