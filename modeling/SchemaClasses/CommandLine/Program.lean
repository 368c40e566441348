/-
The program, from its arguments to its exit status.

Everything the program reads and changes is a tree of files, and all it
says is a text and a log. The settings are looked at before the schema,
the schema before anything is written.
-/
import SchemaClasses.CommandLine.Arguments
import SchemaClasses.CommandLine.Log
import SchemaClasses.Schema.Document

namespace SchemaClasses.CommandLine

-- =============================================================== texts

def helpText : String :=
  "Generate Java classes from a Propel schema

Usage: propelgen [OPTIONS] --schema <SCHEMA> --package <PACKAGE> --output <OUTPUT>

Options:
  -s, --schema <SCHEMA>    Path to the Propel schema (YAML, JSON or TOML)
  -p, --package <PACKAGE>  Java package of the generated classes
  -o, --output <OUTPUT>    Output directory for generated code
      --strict             Exit with a failure status if any entity or property was skipped
  -v, --verbose            Log debug output (overridden by PROPELGEN_LOG)
  -h, --help               Print help
  -V, --version            Print version

Example: propelgen -s schema.yml -p co.nstant.in -o /tmp/
"

def versionText : String := "propelgen 0.3.0\n"

def Notice.text : Notice → String
  | .help => helpText
  | .version => versionText

-- ============================================================ failures

/-- Why a run did not come about. -/
inductive Abort where
  | settings (error : SettingsError)
  | schema (path : String) (error : ReadError)
  | directory (error : DirectoryError)

/-- What lies behind a failed reading, said once more. -/
def causeOf : ReadError → String
  | .unreadable _ fault => ": " ++ fault.message
  | _ => ""

/-- The reason as the log gives it: each cause after what it led to. -/
def Abort.reason : Abort → String
  | .settings e => s!"Invalid settings: {e.message}"
  | .schema path e => s!"Failed to load schema {Text.quoted path}: {e.message}{causeOf e}"
  | .directory e => s!"{e.message}: {e.fault.message}"

-- ============================================================= running

/-- What came of a command to generate. -/
structure Attempt where
  result : Except Abort (List Outcome)
  tree : Files.Tree

/-- Generates the classes that settings ask for. -/
def attempt (settings : Settings) (tree : Files.Tree) : Attempt :=
  match settings.validate with
  | .error e => ⟨.error (.settings e), tree⟩
  | .ok settings =>
    match Schema.load tree settings.schemaPath with
    | .error e => ⟨.error (.schema settings.schemaPath e), tree⟩
    | .ok schema =>
      match run settings schema tree with
      | ⟨.error e, tree⟩ => ⟨.error (.directory e), tree⟩
      | ⟨.ok outcomes, tree⟩ => ⟨.ok outcomes, tree⟩

/-- The run counts as failed: what was left out matters, and something was. -/
def failsFor (strict : Bool) (outcomes : List Outcome) : Bool :=
  strict && (Report.ofOutcomes outcomes).hasErrors

/-- All events of an attempt, in order. -/
def Attempt.events (strict : Bool) (a : Attempt) : List Event :=
  match a.result with
  | .error abort => [.aborted abort.reason]
  | .ok outcomes =>
    Outcome.log outcomes ++
      if failsFor strict outcomes then
        [.failedForErrors (Report.ofOutcomes outcomes).errorCount]
      else []

/-- The exit status after an attempt. -/
def Attempt.status (strict : Bool) (a : Attempt) : Nat :=
  match a.result with
  | .error _ => 1
  | .ok outcomes => if failsFor strict outcomes then 1 else 0

/-- The exit status when the arguments are rejected. -/
def usageStatus : Nat := 2

/-- What the program did. -/
structure Effect where
  status : Nat
  output : String
  events : List Event
  tree : Files.Tree

/-- The lines of the log. -/
def Effect.log (e : Effect) : List String := e.events.flatMap Event.lines

/-- Runs the program; `environment` is what the variable for the log holds, if it is set. -/
def execute (arguments : List String) (environment : Option String) (tree : Files.Tree) : Effect :=
  match Command.ofArguments? arguments with
  | none => ⟨usageStatus, "", [], tree⟩
  | some (.show notice) => ⟨0, notice.text, [], tree⟩
  | some (.generate settings strict verbose) =>
    let a := attempt settings tree
    { status := a.status strict
      output := ""
      events := logged (threshold environment verbose) (a.events strict)
      tree := a.tree }

end SchemaClasses.CommandLine
