/-
A run repeated.

The files that a run leaves are not the ones it found: directories have
been made, and classes written, some of them over others. None of this
makes a difference to a second run with the same settings and schema.
The output directory is there by now, and no other directory has come or
gone since the first run had made it, so every entity has the outcome it
had (`Turns.elsewhere`), what could not be written included. And the
classes are put where they are already, in the order they were put in
before: that leaves the last one at every place, which is what was there
(`Tree.fill_fill`).
-/
import SchemaClasses.Proofs.CommandLine.ExitStatus
import SchemaClasses.Proofs.Generation.Dependence

namespace SchemaClasses

open Files

variable {settings : Settings} {schema : Schema} {tree made after : Tree}
  {entities : List Entity} {outcomes : List Outcome}

/-- Turns taken once more have the same outcomes, and leave the files as they are. -/
theorem Outcome.Turns.again (turns : Outcome.Turns settings [] made entities outcomes after)
    (there : made.isDirectory settings.outputDirectory = true) :
    Outcome.Turns settings [] after entities outcomes after := by
  have same := turns.sameDirectories
  obtain ⟨last, repeated⟩ := turns.elsewhere there same
  have unchanged : last = after := by
    rw [repeated.after_eq, ← Standing.files_eq same, turns.after_eq, Tree.fill_fill]
  rw [unchanged] at repeated
  exact repeated

/-- A run repeated on the files it left has the same outcomes, and so the same report and the same
log, and it leaves the files as they are. -/
theorem run_again (valid : settings.validate = .ok settings)
    (ran : (run settings schema tree).result = .ok outcomes) :
    (run settings schema (run settings schema tree).tree).result = .ok outcomes ∧
      (run settings schema (run settings schema tree).tree).tree =
        (run settings schema tree).tree := by
  obtain ⟨made, directories, turns⟩ := run_result_eq_ok_iff.1 ran
  have there : made.isDirectory settings.outputDirectory = true :=
    Tree.isDirectory_of_makeDirectories (Settings.outputDirectory_ne_empty valid) directories
  have thereAfter := turns.sameDirectories.isDirectory there
  have again := run_eq_of_turns (Tree.makeDirectories_of_isDirectory thereAfter) (turns.again there)
  rw [again]
  exact ⟨rfl, rfl⟩

/-- A schema in which two entities ask for one class name, and in between stands one whose class
cannot be written where a directory has the name of its file. -/
def contestedSchema : Schema :=
  .ofEntries [
    ("account", .mapping [("_attributes", .mapping [("phpName", .string "Account")]),
      ("old_name", .mapping [("type", .string "VARCHAR")])]),
    ("blocked", .mapping [("_attributes", .mapping [("phpName", .string "Blocked")])]),
    ("account_v2", .mapping [("_attributes", .mapping [("phpName", .string "Account")]),
      ("shape", .mapping [("type", .string "POLYGON")])])]

/-- Settings whose output directory is reached through one that has to be made. -/
def detourSettings : Settings := ⟨"schema.yml", "demo.model", "out/model/.."⟩

/-- The first run makes a directory, writes over its own file and is refused another. -/
theorem run_again_contestedSchema :
    detourSettings.validate = .ok detourSettings ∧
      ∃ outcomes, (run detourSettings contestedSchema blockedTree).result = .ok outcomes ∧
        (Report.ofOutcomes outcomes).written =
          ["out/model/../Account.java", "out/model/../Account.java"] ∧
        (Report.ofOutcomes outcomes).entityErrors.map (·.entity) = ["blocked"] ∧
        (run detourSettings contestedSchema
          (run detourSettings contestedSchema blockedTree).tree).result = .ok outcomes ∧
        (run detourSettings contestedSchema
          (run detourSettings contestedSchema blockedTree).tree).tree =
          (run detourSettings contestedSchema blockedTree).tree := by
  have valid : detourSettings.validate = .ok detourSettings := by decide +kernel
  have reported : (run detourSettings contestedSchema blockedTree).result.toOption.map
      (fun outcomes => ((Report.ofOutcomes outcomes).written,
        (Report.ofOutcomes outcomes).entityErrors.map (·.entity))) =
      some (["out/model/../Account.java", "out/model/../Account.java"], ["blocked"]) := by
    decide +kernel
  cases ran : (run detourSettings contestedSchema blockedTree).result with
  | error error =>
      rw [ran] at reported
      cases reported
  | ok outcomes =>
      rw [ran] at reported
      obtain ⟨written, failed⟩ := Prod.mk.inj (Option.some.inj reported)
      exact ⟨valid, outcomes, rfl, written, failed, run_again valid ran⟩

end SchemaClasses
