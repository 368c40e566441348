/-
Flags that only talk.

Two flags and a variable decide how much the program says, and whether
what was left out counts as a failure. The files come from the settings
alone (`execute_generate`). Being strict is looked at when all has been
written and adds one event behind all others (`Attempt.madeStrict`);
being verbose and the variable set the limit up to which events are
logged (`threshold_eq`), and a limit only takes events out.

A flag can be given to every command that lacks it. What has been read
of the arguments is kept in one place with the flags beside the values,
and no step looks at a flag but the one that sets it. So each step that
ends without the flag goes the same way with it, from one option up to
all arguments; the last induction is along the reading itself.
-/
import Mathlib.Data.List.Basic
import SchemaClasses.Proofs.CommandLine.ExitStatus

namespace SchemaClasses.CommandLine

open Files

-- ========================================================= more flags

namespace Given

/-- Whether a flag has been given. -/
def has (given : Given) : Flag → Bool
  | .strict => given.strict
  | .verbose => given.verbose

/-- The same with a flag. -/
def mark (given : Given) : Flag → Given
  | .strict => { given with strict := true }
  | .verbose => { given with verbose := true }

end Given

/-- The argument that gives a flag. -/
def Flag.long : Flag → String
  | .strict => "--strict"
  | .verbose => "--verbose"

/-- The flag has not been given, and the reading goes on. -/
def Progress.Lacks (flag : Flag) : Progress → Prop
  | .ready given => given.has flag = false
  | .owed _ given => given.has flag = false
  | .done _ => False

def Progress.mark (flag : Flag) : Progress → Progress
  | .ready given => .ready (given.mark flag)
  | .owed option given => .owed option (given.mark flag)
  | .done notice => .done notice

variable {given next : Given} {flag : Flag}

/-- A flag that leaves another one open can be set behind it. -/
theorem Given.setFlag_mark {other : Flag} (set : given.setFlag other = some next)
    (lacks : next.has flag = false) :
    given.has flag = false ∧ (given.mark flag).setFlag other = some (next.mark flag) := by
  cases other with
  | strict =>
      simp only [setFlag, Option.ite_none_left_eq_some, Option.some.injEq] at set
      obtain ⟨fresh, rfl⟩ := set
      cases flag with
      | strict => cases lacks
      | verbose => exact ⟨lacks, if_neg fresh⟩
  | verbose =>
      simp only [setFlag, Option.ite_none_left_eq_some, Option.some.injEq] at set
      obtain ⟨fresh, rfl⟩ := set
      cases flag with
      | strict => exact ⟨lacks, if_neg fresh⟩
      | verbose => cases lacks

/-- A value can be given behind a flag. -/
theorem Given.setValue_mark {value : String} {option : ValueOption}
    (set : given.setValue value option = some next) (lacks : next.has flag = false) :
    given.has flag = false ∧ (given.mark flag).setValue value option = some (next.mark flag) := by
  cases option with
  | schema =>
      simp only [setValue, Option.ite_none_left_eq_some, Option.some.injEq] at set
      obtain ⟨fresh, rfl⟩ := set
      cases flag <;> exact ⟨lacks, if_neg fresh⟩
  | package =>
      simp only [setValue, Option.ite_none_left_eq_some, Option.some.injEq] at set
      obtain ⟨fresh, rfl⟩ := set
      cases flag <;> exact ⟨lacks, if_neg fresh⟩
  | output =>
      simp only [setValue, Option.ite_none_left_eq_some, Option.some.injEq] at set
      obtain ⟨fresh, rfl⟩ := set
      cases flag <;> exact ⟨lacks, if_neg fresh⟩

theorem ready_setValue_mark {value : String} {option : ValueOption} {progress : Progress}
    (read : (given.setValue value option).map .ready = some progress)
    (lacks : progress.Lacks flag) :
    given.has flag = false ∧
      ((given.mark flag).setValue value option).map .ready = some (progress.mark flag) := by
  obtain ⟨next, set, rfl⟩ := Option.map_eq_some_iff.1 read
  obtain ⟨free, marked⟩ := Given.setValue_mark set lacks
  rw [marked]
  exact ⟨free, rfl⟩

theorem readShort_mark {names : List Char} {progress : Progress}
    (read : readShort given names = some progress) (lacks : progress.Lacks flag) :
    given.has flag = false ∧ readShort (given.mark flag) names = some (progress.mark flag) := by
  induction names generalizing given with
  | nil =>
      cases read
      exact ⟨lacks, rfl⟩
  | cons c rest ih =>
      unfold readShort at read ⊢
      -- no name, a text, a flag, and an option without a value, behind a sign or with one at once
      split at read
      · cases read
      · cases read
        cases lacks
      next other _ =>
          obtain ⟨next, set, more⟩ := Option.bind_eq_some_iff.1 read
          obtain ⟨free, marked⟩ := ih more
          obtain ⟨first, set'⟩ := Given.setFlag_mark set free
          refine ⟨first, ?_⟩
          show ((given.mark flag).setFlag other).bind (readShort · _) = _
          rw [set']
          exact marked
      · cases read
        exact ⟨lacks, rfl⟩
      · exact ready_setValue_mark read lacks
      · exact ready_setValue_mark read lacks

theorem readLong_mark {text : List Char} {progress : Progress}
    (read : readLong given text = some progress) (lacks : progress.Lacks flag) :
    given.has flag = false ∧ readLong (given.mark flag) text = some (progress.mark flag) := by
  unfold readLong at read ⊢
  -- a text, a flag, an option without a value and with one, and all that is wrong
  split at read
  · cases read
    cases lacks
  · obtain ⟨next, set, rfl⟩ := Option.map_eq_some_iff.1 read
    obtain ⟨free, marked⟩ := Given.setFlag_mark set lacks
    rw [marked]
    exact ⟨free, rfl⟩
  · cases read
    exact ⟨lacks, rfl⟩
  · exact ready_setValue_mark read lacks
  · cases read

theorem readNamed_mark {argument : String} {progress : Progress}
    (read : readNamed given argument = some progress) (lacks : progress.Lacks flag) :
    given.has flag = false ∧ readNamed (given.mark flag) argument = some (progress.mark flag) := by
  unfold readNamed at read ⊢
  split at read
  · exact readLong_mark read lacks
  · exact readShort_mark read lacks
  · cases read

/-- The command with a flag more. -/
def Command.mark (flag : Flag) : Command → Command
  | .show notice => .show notice
  | .generate settings strict verbose =>
    match flag with
    | .strict => .generate settings true verbose
    | .verbose => .generate settings strict true

/-- The command is to generate, and not with this flag. -/
def Command.Lacks (flag : Flag) : Command → Prop
  | .show _ => False
  | .generate _ strict verbose =>
    match flag with
    | .strict => strict = false
    | .verbose => verbose = false

/-- What has been given makes the same command with a flag more. -/
theorem Given.command?_mark {command : Command} (found : given.command? = some command)
    (lacks : command.Lacks flag) :
    given.has flag = false ∧ (given.mark flag).command? = some (command.mark flag) := by
  obtain ⟨schema, package, output, strict, verbose⟩ := given
  obtain ⟨path, isSchema, found⟩ := Option.bind_eq_some_iff.1 found
  obtain ⟨name, isPackage, found⟩ := Option.bind_eq_some_iff.1 found
  obtain ⟨directory, isOutput, found⟩ := Option.bind_eq_some_iff.1 found
  cases isSchema
  cases isPackage
  cases isOutput
  cases found
  cases flag with
  | strict => exact ⟨lacks, rfl⟩
  | verbose => exact ⟨lacks, rfl⟩

/-- Arguments that are read as a command without a flag are read as the same with it where it has
been given before. -/
theorem readAll_mark {arguments : List String} {command : Command}
    (read : readAll given arguments = some command) (lacks : command.Lacks flag) :
    given.has flag = false ∧ readAll (given.mark flag) arguments = some (command.mark flag) := by
  fun_induction readAll given arguments with
  | case1 => exact Given.command?_mark read lacks
  | case2 => exact Given.command?_mark read lacks
  | case3 => cases read
  | case4 =>
      cases read
      cases lacks
  | case5 given argument rest notLast next ready ih =>
      obtain ⟨free, marked⟩ := ih read
      obtain ⟨first, ready'⟩ := readNamed_mark ready free
      refine ⟨first, ?_⟩
      rw [readAll, ready']
      · exact marked
      · exact notLast
  | case6 => cases read
  | case7 => cases read
  | case8 given argument option owing owed value rest isValue next set notLast ih =>
      obtain ⟨free, marked⟩ := ih read
      obtain ⟨second, set'⟩ := Given.setValue_mark set free
      obtain ⟨first, owed'⟩ := readNamed_mark owed second
      refine ⟨first, ?_⟩
      rw [readAll, owed']
      · dsimp only [Progress.mark]
        rw [if_pos isValue, set']
        exact marked
      · exact notLast
  | case9 => cases read

/-- A flag that a command lacks can be given before all other arguments. -/
theorem ofArguments?_cons {arguments : List String} {command : Command}
    (accepted : Command.ofArguments? arguments = some command) (lacks : command.Lacks flag) :
    Command.ofArguments? (flag.long :: arguments) = some (command.mark flag) := by
  obtain ⟨-, marked⟩ := readAll_mark accepted lacks
  unfold Command.ofArguments?
  cases flag with
  | strict => exact marked
  | verbose => exact marked

-- ============================================================ the log

/-- All events of a command, in order, whether they are logged or not. -/
def Command.events (tree : Tree) : Command → List Event
  | .show _ => []
  | .generate settings strict _ => (attempt settings tree).events strict

/-- How much is logged where the variable for the log asks for nothing. -/
def Command.limit : Command → Nat
  | .generate _ _ true => Level.debug.rank
  | _ => Level.info.rank

/-- How much is logged: the levels up to the one that the variable names, all or none of them, or
what the command says where the variable is not set or is empty. -/
inductive Limit (command : Command) : Option String → Nat → Prop
  | unset : Limit command none command.limit
  | empty : Limit command (some "") command.limit
  | level {name : String} (level : Level) (named : name.toLower = level.name.toLower) :
      Limit command (some name) level.rank
  | none {name : String} (named : name.toLower = "off") : Limit command (some name) 0
  | all {name : String} (named : name.toLower = "trace") :
      Limit command (some name) (Level.debug.rank + 1)

/-- Commands that differ in their flags and in nothing else. -/
inductive Command.SameButForFlags : Command → Command → Prop
  | show (notice : Notice) : SameButForFlags (.show notice) (.show notice)
  | generate (settings : Settings) (strict verbose strict' verbose' : Bool) :
      SameButForFlags (.generate settings strict verbose) (.generate settings strict' verbose')

variable {settings : Settings} {tree : Tree} {command : Command} {strict verbose : Bool}
  {environment : Option String} {limit : Nat}

/-- Levels are named in any case of letters. -/
theorem rankOfName?_congr {name other : String} (same : name.toLower = other.toLower) :
    rankOfName? name = rankOfName? other := by
  unfold rankOfName?
  rw [same]

theorem rankOfName?_name (level : Level) : rankOfName? level.name = some level.rank := by
  cases level <;> decide +kernel

theorem rankOfName?_empty : rankOfName? "" = none := by decide +kernel

/-- The threshold of the program is what the command and the variable ask for. -/
theorem threshold_eq (asks : Limit (.generate settings strict verbose) environment limit) :
    threshold environment verbose = limit := by
  unfold threshold
  cases asks with
  | unset => cases verbose <;> rfl
  | empty =>
      rw [Option.bind_some, rankOfName?_empty]
      cases verbose <;> rfl
  | level level named =>
      rw [Option.bind_some, rankOfName?_congr named, rankOfName?_name, Option.getD_some]
  | none named =>
      unfold rankOfName?
      rw [Option.bind_some, named]
      rfl
  | all named =>
      unfold rankOfName?
      rw [Option.bind_some, named]
      rfl

/-- What is logged of a command is what the limit lets through, in order. -/
theorem events_execute {arguments : List String}
    (accepted : Command.ofArguments? arguments = some command)
    (asks : Limit command environment limit) :
    (execute arguments environment tree).events =
      (command.events tree).filter (·.level.rank ≤ limit) := by
  cases command with
  | «show» notice =>
      unfold execute
      rw [accepted]
      rfl
  | generate settings strict verbose =>
      rw [execute_generate environment tree accepted, threshold_eq asks]
      rfl

/-- A greater limit lets through what a smaller one does. -/
theorem sublist_filter_rank {limit' : Nat} (le : limit ≤ limit') (events : List Event) :
    (events.filter (·.level.rank ≤ limit)).Sublist (events.filter (·.level.rank ≤ limit')) := by
  apply List.monotone_filter_right
  intro event within
  rw [decide_eq_true_eq] at within ⊢
  omega

-- ============================================================= strict

/-- What comes of being strict: a status of failure and one more event where there are errors, and
nothing where there are none. -/
structure MadeStrict (result : Except Abort (List Outcome)) (status status' : Nat)
    (events events' : List Event) : Prop where
  errors : ∀ outcomes, result = .ok outcomes → (Report.ofOutcomes outcomes).hasErrors = true →
    status = 0 ∧ status' = 1 ∧
      ∃ last, events' = events ++ [last] ∧ last.level = .error ∧
        last.message = "Generation finished with errors" ∧
        last.fields = [("errors", .count (Report.ofOutcomes outcomes).errorCount)]
  clean : (∀ outcomes, result = .ok outcomes → (Report.ofOutcomes outcomes).hasErrors = false) →
    status' = status ∧ events' = events

/-- Every attempt can be made strict. -/
theorem Attempt.madeStrict (a : Attempt) :
    MadeStrict a.result (a.status false) (a.status true) (a.events false) (a.events true) := by
  unfold status events
  cases a.result with
  | error abort => exact ⟨nofun, fun _ => ⟨rfl, rfl⟩⟩
  | ok outcomes =>
      have lenient : failsFor false outcomes = false := rfl
      dsimp only
      rw [lenient, if_neg Bool.false_ne_true, if_neg Bool.false_ne_true, List.append_nil]
      refine ⟨?_, ?_⟩
      · intro own same errors
        cases same
        have fails : failsFor true outcomes = true := errors
        rw [if_pos fails, if_pos fails]
        exact ⟨rfl, rfl, _, rfl, rfl, rfl, rfl⟩
      · intro clean
        have passes : failsFor true outcomes = false := clean outcomes rfl
        rw [passes, if_neg Bool.false_ne_true, if_neg Bool.false_ne_true, List.append_nil]
        exact ⟨rfl, rfl⟩

-- ========================================================= the program

/-- The flags and the variable for the log decide what the program says, and not what it does. -/
structure OnlyTalk (arguments : List String) (environment : Option String) (tree : Tree) :
    Prop where
  /-- Whatever the variable holds, the status, the output and the files are the same. -/
  unheard : ∀ other,
    (execute arguments other tree).status = (execute arguments environment tree).status ∧
    (execute arguments other tree).output = (execute arguments environment tree).output ∧
    (execute arguments other tree).tree = (execute arguments environment tree).tree
  /-- A flag that a command lacks can be given before all other arguments. -/
  given : ∀ command, Command.ofArguments? arguments = some command →
    ∀ flag, command.Lacks flag →
      Command.ofArguments? (flag.long :: arguments) = some (command.mark flag)
  /-- With other flags the files and the output are the same. -/
  acts : ∀ command, Command.ofArguments? arguments = some command →
    ∀ others command', Command.ofArguments? others = some command' →
      command.SameButForFlags command' → ∀ other,
        (execute others other tree).tree = (execute arguments environment tree).tree ∧
        (execute others other tree).output = (execute arguments environment tree).output
  /-- Verbose or not, the status is the same, and more is said only where more is asked for. -/
  verbose : ∀ settings strict verbose,
    Command.ofArguments? arguments = some (.generate settings strict verbose) →
    ∀ others verbose', Command.ofArguments? others = some (.generate settings strict verbose') →
      ∀ other, (execute others other tree).status = (execute arguments environment tree).status ∧
        ∀ limit limit', Limit (.generate settings strict verbose) environment limit →
          Limit (.generate settings strict verbose') other limit' → limit ≤ limit' →
          (execute arguments environment tree).events.Sublist (execute others other tree).events
  /-- Strict or not matters only where there are errors. -/
  strict : ∀ settings verbose,
    Command.ofArguments? arguments = some (.generate settings false verbose) →
    ∀ others verbose', Command.ofArguments? others = some (.generate settings true verbose') →
      ∀ other, MadeStrict (attempt settings tree).result
        (execute arguments environment tree).status (execute others other tree).status
        (Command.events tree (.generate settings false verbose))
        (Command.events tree (.generate settings true verbose'))
  /-- Of all events those are logged that the limit lets through, in order. -/
  logged : ∀ command, Command.ofArguments? arguments = some command →
    ∀ limit, Limit command environment limit →
      (execute arguments environment tree).events =
        (command.events tree).filter (·.level.rank ≤ limit)

/-- The flags and the variable for the log have no part in what the program does. -/
theorem onlyTalk_of_execute (arguments : List String) (environment : Option String) (tree : Tree) :
    OnlyTalk arguments environment tree := by
  refine ⟨?_, ?_, ?_, ?_, ?_, ?_⟩
  · intro other
    unfold execute
    cases Command.ofArguments? arguments with
    | none => exact ⟨rfl, rfl, rfl⟩
    | some command => cases command <;> exact ⟨rfl, rfl, rfl⟩
  · intro command accepted flag lacks
    exact ofArguments?_cons accepted lacks
  · intro command accepted others command' accepted' same other
    cases same with
    | «show» notice =>
        unfold execute
        rw [accepted, accepted']
        exact ⟨rfl, rfl⟩
    | generate =>
        rw [execute_generate environment tree accepted, execute_generate other tree accepted']
        exact ⟨rfl, rfl⟩
  · intro settings strict verbose accepted others verbose' accepted' other
    refine ⟨?_, ?_⟩
    · rw [execute_generate environment tree accepted, execute_generate other tree accepted']
    · intro limit limit' asks asks' le
      rw [events_execute accepted asks, events_execute accepted' asks']
      exact sublist_filter_rank le _
  · intro settings verbose accepted others verbose' accepted' other
    rw [execute_generate environment tree accepted, execute_generate other tree accepted']
    exact (attempt settings tree).madeStrict
  · intro command accepted limit asks
    exact events_execute accepted asks

/-- With a column left out, a strict command fails and has one thing more to say. -/
example :
    ((execute ["-s", "schema.yml", "-p", "demo", "-o", "out"] (some "warn")
      shapeTree).events.map Event.message,
    (execute ["--strict", "-s", "schema.yml", "-p", "demo", "-o", "out"] (some "warn")
      shapeTree).events.map Event.message) =
    (["Property skipped"], ["Property skipped", "Generation finished with errors"]) := by
  decide +kernel

end SchemaClasses.CommandLine
