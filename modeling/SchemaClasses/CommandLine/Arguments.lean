/-
The arguments of the program.

Three options take a value, two flags take none, and two more arguments
ask for a text and end the reading. Each option and flag may be given
once. Arguments are read from left to right, and the first that is wrong
has them all rejected.
-/
import SchemaClasses.Generation.Settings

namespace SchemaClasses.CommandLine

/-- The options that take a value. -/
inductive ValueOption where
  | schema
  | package
  | output
deriving DecidableEq

/-- The flags. -/
inductive Flag where
  | strict
  | verbose
deriving DecidableEq

/-- The texts that can be asked for. -/
inductive Notice where
  | help
  | version
deriving DecidableEq

/-- What an argument is. -/
inductive Argument where
  | option (o : ValueOption)
  | flag (f : Flag)
  | notice (n : Notice)

/-- The argument of a long name. -/
def Argument.ofLong? : String → Option Argument
  | "schema" => some (.option .schema)
  | "package" => some (.option .package)
  | "output" => some (.option .output)
  | "strict" => some (.flag .strict)
  | "verbose" => some (.flag .verbose)
  | "help" => some (.notice .help)
  | "version" => some (.notice .version)
  | _ => none

/-- The argument of a short name. -/
def Argument.ofShort? : Char → Option Argument
  | 's' => some (.option .schema)
  | 'p' => some (.option .package)
  | 'o' => some (.option .output)
  | 'v' => some (.flag .verbose)
  | 'h' => some (.notice .help)
  | 'V' => some (.notice .version)
  | _ => none

/-- What the arguments ask for. -/
inductive Command where
  | show (notice : Notice)
  | generate (settings : Settings) (strict verbose : Bool)

-- ============================================================== values

/-- What has been given so far. -/
structure Given where
  schema : Option String := none
  package : Option String := none
  output : Option String := none
  strict : Bool := false
  verbose : Bool := false

namespace Given

/-- Gives an option its value. A path may not be empty. -/
def setValue (given : Given) (value : String) : ValueOption → Option Given
  | .schema =>
    if given.schema.isSome ∨ value = "" then none else some { given with schema := some value }
  | .package => if given.package.isSome then none else some { given with package := some value }
  | .output =>
    if given.output.isSome ∨ value = "" then none else some { given with output := some value }

/-- Sets a flag. -/
def setFlag (given : Given) : Flag → Option Given
  | .strict => if given.strict then none else some { given with strict := true }
  | .verbose => if given.verbose then none else some { given with verbose := true }

/-- The command, if no option is missing. -/
def command? (given : Given) : Option Command := do
  return .generate ⟨← given.schema, ← given.package, ← given.output⟩ given.strict given.verbose

end Given

-- ============================================================= reading

/-- What an argument leads to. -/
inductive Progress where
  /-- The next argument may come. -/
  | ready (given : Given)
  /-- The next argument must be the value of an option. -/
  | owed (option : ValueOption) (given : Given)
  /-- A text was asked for. -/
  | done (notice : Notice)

/-- Short names in a row. The value of an option may follow its name, with or without a sign. -/
def readShort (given : Given) : List Char → Option Progress
  | [] => some (.ready given)
  | c :: rest =>
    match Argument.ofShort? c, rest with
    | none, _ => none
    | some (.notice notice), _ => some (.done notice)
    | some (.flag flag), _ => do readShort (← given.setFlag flag) rest
    | some (.option o), [] => some (.owed o given)
    | some (.option o), '=' :: value => (given.setValue (String.ofList value) o).map .ready
    | some (.option o), value => (given.setValue (String.ofList value) o).map .ready

/-- A long name. Only the value of an option may follow an equals sign. -/
def readLong (given : Given) (text : List Char) : Option Progress :=
  match Argument.ofLong? (String.ofList (text.takeWhile (· ≠ '='))), text.dropWhile (· ≠ '=') with
  | some (.notice notice), [] => some (.done notice)
  | some (.flag flag), [] => (given.setFlag flag).map .ready
  | some (.option o), [] => some (.owed o given)
  | some (.option o), _ :: value => (given.setValue (String.ofList value) o).map .ready
  | _, _ => none

/-- An argument that starts with a dash. -/
def readNamed (given : Given) (argument : String) : Option Progress :=
  match argument.toList with
  | '-' :: '-' :: name => readLong given name
  | '-' :: c :: names => readShort given (c :: names)
  | _ => none

/-- The argument may be the value of an option: it starts with no dash, or is one. -/
def isValue (argument : String) : Bool :=
  argument.toList.head? != some '-' || argument == "-"

/-- Reads arguments. Two dashes may stand at the end. -/
def readAll (given : Given) : List String → Option Command
  | [] => given.command?
  | ["--"] => given.command?
  | argument :: rest =>
    match readNamed given argument with
    | none => none
    | some (.done notice) => some (.show notice)
    | some (.ready given) => readAll given rest
    | some (.owed option given) =>
      match rest with
      | [] => none
      | value :: rest =>
        if isValue value then
          match given.setValue value option with
          | none => none
          | some given => readAll given rest
        else none

/-- What arguments ask for, unless they are rejected. -/
def Command.ofArguments? (arguments : List String) : Option Command := readAll {} arguments

end SchemaClasses.CommandLine
