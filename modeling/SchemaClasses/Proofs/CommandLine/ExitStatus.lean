/-
How the program ends.

A command to generate passes four gates in this order: the settings, the
schema, the output directory, and, if the program is told to be strict,
the errors of the report. The exit status is zero exactly if all four are
open. The first two are passed before anything is written, so where one
of them is shut the files are as they were; the fourth is looked at when
everything has been written, so it decides the status and nothing else.

All this is read off a description of the attempt for each way it can go:
it ends at one of the first two gates (`attempt_of_invalid`,
`attempt_of_unread`), or with all it needs it is the run of the schema
(`attempt_of_ready`), and no other attempt comes to outcomes
(`ready_of_attempt`).
-/
import SchemaClasses.CommandLine.Program
import SchemaClasses.Proofs.Files.Tree
import SchemaClasses.Proofs.Generation.Turns

namespace SchemaClasses

open Files

/-- Settings that pass are handed on as they are. -/
theorem Settings.eq_of_validate {settings other : Settings} (h : settings.validate = .ok other) :
    other = settings := by
  unfold validate at h
  split at h
  · cases h
  · split at h
    · cases h
    · split at h
      · cases h
      · cases h
        rfl

/-- Settings that pass name a directory. -/
theorem Settings.outputDirectory_ne_empty {settings other : Settings}
    (h : settings.validate = .ok other) : settings.outputDirectory ≠ "" := by
  unfold validate at h
  split at h
  · cases h
  · split at h
    · cases h
    · split at h
      · cases h
      next named => exact named

namespace CommandLine

variable {settings : Settings} {schema : Schema} {tree : Tree} {strict : Bool}

-- ============================================================ attempts

/-- Settings that a run cannot have end an attempt before anything is read. -/
theorem attempt_of_invalid {error : SettingsError} (invalid : settings.validate = .error error) :
    attempt settings tree = ⟨.error (.settings error), tree⟩ := by
  unfold attempt
  rw [invalid]

/-- A schema that cannot be loaded ends an attempt before anything is written. -/
theorem attempt_of_unread {error : ReadError} (valid : settings.validate = .ok settings)
    (unread : Schema.load tree settings.schemaPath = .error error) :
    attempt settings tree = ⟨.error (.schema settings.schemaPath error), tree⟩ := by
  unfold attempt
  rw [valid]
  dsimp only
  rw [unread]

/-- Past both gates an attempt is the run of the schema, whether it has outcomes or not. -/
theorem attempt_of_loaded (valid : settings.validate = .ok settings)
    (loaded : Schema.load tree settings.schemaPath = .ok schema) :
    attempt settings tree =
      ⟨(run settings schema tree).result.mapError .directory, (run settings schema tree).tree⟩ := by
  unfold attempt
  rw [valid]
  dsimp only
  rw [loaded]
  dsimp only
  cases run settings schema tree with
  | mk result after => cases result <;> rfl

/-- All that a command to generate needs: settings that a run can have, a schema, and a directory to
put the classes into. -/
structure Ready (settings : Settings) (tree : Tree) (schema : Schema) : Prop where
  valid : settings.validate = .ok settings
  loaded : Schema.load tree settings.schemaPath = .ok schema
  /-- The output directory is there, or it is once directories have been made. -/
  directory : tree.isDirectory settings.outputDirectory = true ∨
    ∃ made, tree.makeDirectories settings.outputDirectory = (made, none) ∧
      made.isDirectory settings.outputDirectory = true

/-- With all it needs, an attempt is the run of the schema. -/
theorem attempt_of_ready (ready : Ready settings tree schema) :
    ∃ outcomes, (run settings schema tree).result = .ok outcomes ∧
      attempt settings tree = ⟨.ok outcomes, (run settings schema tree).tree⟩ := by
  obtain ⟨valid, loaded, directory⟩ := ready
  have directories : ∃ made, tree.makeDirectories settings.outputDirectory = (made, none) := by
    rcases directory with there | ⟨made, directories, -⟩
    · exact ⟨tree, Tree.makeDirectories_of_isDirectory there⟩
    · exact ⟨made, directories⟩
  obtain ⟨made, directories⟩ := directories
  obtain ⟨outcomes, after, turns⟩ := Outcome.exists_turns settings [] made schema.entities
  have ran : run settings schema tree = ⟨.ok outcomes, after⟩ := run_eq_of_turns directories turns
  rw [attempt_of_loaded valid loaded, ran]
  exact ⟨outcomes, rfl, rfl⟩

/-- An attempt that comes to outcomes had all it needs. -/
theorem ready_of_attempt {outcomes : List Outcome}
    (came : (attempt settings tree).result = .ok outcomes) :
    ∃ schema, Ready settings tree schema := by
  cases validated : settings.validate with
  | error error =>
      rw [attempt_of_invalid validated] at came
      cases came
  | ok other =>
      obtain rfl := Settings.eq_of_validate validated
      cases loaded : Schema.load tree other.schemaPath with
      | error error =>
          rw [attempt_of_unread validated loaded] at came
          cases came
      | ok schema =>
          refine ⟨schema, validated, loaded, .inr ?_⟩
          cases directories : tree.makeDirectories other.outputDirectory with
          | mk made failed =>
              cases failed with
              | none =>
                  exact ⟨made, rfl, Tree.isDirectory_of_makeDirectories
                    (Settings.outputDirectory_ne_empty validated) directories⟩
              | some fault =>
                  rw [attempt_of_loaded validated loaded,
                    run_eq_of_fault schema directories] at came
                  cases came

-- ========================================================= exit status

theorem Attempt.status_eq (a : Attempt) : a.status strict = 0 ∨ a.status strict = 1 := by
  unfold status
  split
  · exact .inr rfl
  · split
    · exact .inr rfl
    · exact .inl rfl

/-- The status is zero where there are outcomes and, if that matters, no errors. -/
theorem Attempt.status_eq_zero_iff {a : Attempt} :
    a.status strict = 0 ↔ ∃ outcomes, a.result = .ok outcomes ∧
      (strict = true → (Report.ofOutcomes outcomes).hasErrors = false) := by
  unfold status failsFor
  cases a.result with
  | error abort => simp
  | ok outcomes => cases strict <;> simp

/-- The status of an attempt is zero exactly if it had all it needs and, if that matters, there are
no errors. -/
theorem status_attempt_eq_zero_iff :
    (attempt settings tree).status strict = 0 ↔
      ∃ schema, Ready settings tree schema ∧
        (strict = true → ∀ outcomes, (run settings schema tree).result = .ok outcomes →
          (Report.ofOutcomes outcomes).hasErrors = false) := by
  rw [Attempt.status_eq_zero_iff]
  constructor
  · rintro ⟨outcomes, came, clean⟩
    obtain ⟨schema, ready⟩ := ready_of_attempt came
    refine ⟨schema, ready, fun isStrict other ran => ?_⟩
    obtain ⟨own, ranOwn, eq⟩ := attempt_of_ready ready
    rw [eq] at came
    cases came
    cases ran.symm.trans ranOwn
    exact clean isStrict
  · rintro ⟨schema, ready, clean⟩
    obtain ⟨outcomes, ran, eq⟩ := attempt_of_ready ready
    rw [eq]
    exact ⟨outcomes, rfl, fun isStrict => clean isStrict outcomes ran⟩

-- ========================================================= the program

/-- How the program ends, whatever its arguments, the variable for the log and the files. -/
structure Ends (arguments : List String) (environment : Option String) (tree : Tree) : Prop where
  /-- Arguments that are rejected leave the files as they are. -/
  rejected : Command.ofArguments? arguments = none →
    (execute arguments environment tree).status = 2 ∧
      (execute arguments environment tree).tree = tree
  /-- The status is zero exactly if nothing is missing and, where that matters, there are no
  errors. -/
  status : ∀ settings strict verbose,
    Command.ofArguments? arguments = some (.generate settings strict verbose) →
      ((execute arguments environment tree).status = 0 ↔
        ∃ schema, Ready settings tree schema ∧
          (strict = true → ∀ outcomes, (run settings schema tree).result = .ok outcomes →
            (Report.ofOutcomes outcomes).hasErrors = false)) ∧
      ((execute arguments environment tree).status ≠ 0 →
        (execute arguments environment tree).status = 1)
  /-- With nothing missing there is a run, and the files it leaves are the ones that are left. -/
  ready : ∀ settings strict verbose,
    Command.ofArguments? arguments = some (.generate settings strict verbose) →
      ∀ schema, Ready settings tree schema →
        (∃ outcomes, (run settings schema tree).result = .ok outcomes) ∧
          (execute arguments environment tree).tree = (run settings schema tree).tree
  /-- Settings that a run cannot have leave the files as they are, and they are what is reported,
  also with any other files. -/
  invalid : ∀ settings strict verbose,
    Command.ofArguments? arguments = some (.generate settings strict verbose) →
      ∀ error, settings.validate = .error error →
        (execute arguments environment tree).tree = tree ∧
        ∀ other, (execute arguments environment other).events =
          logged (threshold environment verbose) [.aborted (Abort.settings error).reason]
  /-- A schema that cannot be loaded leaves the files as they are. -/
  unread : ∀ settings strict verbose,
    Command.ofArguments? arguments = some (.generate settings strict verbose) →
      ∀ error, Schema.load tree settings.schemaPath = .error error →
        (execute arguments environment tree).tree = tree
  /-- The same command, strict or not, leaves the same files. -/
  lenient : ∀ settings strict verbose,
    Command.ofArguments? arguments = some (.generate settings strict verbose) →
      ∀ others, Command.ofArguments? others = some (.generate settings false verbose) →
        (execute others environment tree).tree = (execute arguments environment tree).tree

/-- What the program does on a command to generate. -/
theorem execute_generate {arguments : List String} {verbose : Bool} (environment : Option String)
    (tree : Tree)
    (command : Command.ofArguments? arguments = some (.generate settings strict verbose)) :
    execute arguments environment tree =
      ⟨(attempt settings tree).status strict, "",
        logged (threshold environment verbose) ((attempt settings tree).events strict),
        (attempt settings tree).tree⟩ := by
  unfold execute
  rw [command]

/-- The program ends with a status that tells whether all went well, and it writes nothing before it
knows that it can. -/
theorem ends_of_execute (arguments : List String) (environment : Option String) (tree : Tree) :
    Ends arguments environment tree := by
  refine ⟨?_, ?_, ?_, ?_, ?_, ?_⟩
  · intro rejected
    unfold execute
    rw [rejected]
    exact ⟨rfl, rfl⟩
  · intro settings strict verbose command
    rw [execute_generate environment tree command]
    exact ⟨status_attempt_eq_zero_iff, fun failed =>
      (Attempt.status_eq _).resolve_left failed⟩
  · intro settings strict verbose command schema ready
    rw [execute_generate environment tree command]
    obtain ⟨outcomes, ran, eq⟩ := attempt_of_ready ready
    exact ⟨⟨outcomes, ran⟩, congrArg Attempt.tree eq⟩
  · intro settings strict verbose command error invalid
    refine ⟨?_, fun other => ?_⟩
    · rw [execute_generate environment tree command, attempt_of_invalid invalid]
    · rw [execute_generate environment other command, attempt_of_invalid invalid]
      rfl
  · intro settings strict verbose command error unread
    rw [execute_generate environment tree command]
    cases validated : settings.validate with
    | error error => rw [attempt_of_invalid validated]
    | ok other =>
        obtain rfl := Settings.eq_of_validate validated
        rw [attempt_of_unread validated unread]
  · intro settings strict verbose command others lenient
    rw [execute_generate environment tree command, execute_generate environment tree lenient]

/-- A schema with a column that has no field. -/
def shapeTree : Tree :=
  Tree.empty.put ["schema.yml"] (.file
    "propel: \x7baccount: \x7b_attributes: \x7bphpName: Account\x7d, shape: \x7btype: POLYGON\x7d\x7d\x7d\n".toUTF8)

/-- Only the strict command fails, and it leaves the same files. -/
theorem ends_shapeTree :
    (execute ["-s", "schema.yml", "-p", "demo", "-o", "out", "--strict"] none shapeTree).status = 1 ∧
    (execute ["-s", "schema.yml", "-p", "demo", "-o", "out"] none shapeTree).status = 0 ∧
    (∃ schema, Ready ⟨"schema.yml", "demo", "out"⟩ shapeTree schema) ∧
    (execute ["-s", "schema.yml", "-p", "demo", "-o", "out"] none shapeTree).tree =
      (execute ["-s", "schema.yml", "-p", "demo", "-o", "out", "--strict"] none shapeTree).tree := by
  have strict := ends_of_execute ["-s", "schema.yml", "-p", "demo", "-o", "out", "--strict"] none
    shapeTree
  have lenient := ends_of_execute ["-s", "schema.yml", "-p", "demo", "-o", "out"] none shapeTree
  have passes :
      (execute ["-s", "schema.yml", "-p", "demo", "-o", "out"] none shapeTree).status = 0 := by
    decide +kernel
  obtain ⟨schema, ready, -⟩ := (lenient.status _ _ _ rfl).1.1 passes
  exact ⟨by decide +kernel, passes, ⟨schema, ready⟩, strict.lenient _ _ _ rfl _ rfl⟩

end CommandLine

end SchemaClasses
