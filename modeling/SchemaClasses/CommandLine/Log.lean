/-
The log of the program.

Every event that is important enough is a line: the level, the message,
and the fields by name. Names are quoted. In the message, the characters
by which a terminal could be told something are spelled out.
-/
import SchemaClasses.Generation.Event

namespace SchemaClasses

/-- How much is logged: the greatest rank of a level that is. -/
def Level.rank : Level → Nat
  | .error => 1
  | .warning => 2
  | .info => 3
  | .debug => 4

/-- The level that a name stands for, in any case of letters; `off` and the level below all are two more. -/
def rankOfName? (name : String) : Option Nat :=
  match name.toLower with
  | "off" => some 0
  | "error" => some Level.error.rank
  | "warn" => some Level.warning.rank
  | "info" => some Level.info.rank
  | "debug" => some Level.debug.rank
  | "trace" => some (Level.debug.rank + 1)
  | _ => none

/-- How much is logged: what the environment says, or else more if `verbose`. -/
def threshold (environment : Option String) (verbose : Bool) : Nat :=
  (environment.bind rankOfName?).getD (if verbose then Level.debug.rank else Level.info.rank)

/-- A character of a message. -/
def messageChar (c : Char) : String :=
  let spelled := fun (digits : String) => "\\x" ++ digits
  if c = '\x1B' then spelled "1b"
  else if c = '\x07' then spelled "07"
  else if c = '\x08' then spelled "08"
  else if c = '\x0C' then spelled "0c"
  else if c = '\x7F' then spelled "7f"
  else if '\x80' ≤ c ∧ c ≤ '\x9F' then "\\u\x7b" ++ Text.hexadecimal c ++ "\x7d"
  else c.toString

/-- The text of a value in a line. -/
def FieldValue.shown : FieldValue → String
  | .name s => Text.quoted s
  | .text s => s
  | .count n => toString n

namespace Event

/-- The level in a line, at the right of five columns. -/
def levelColumn (level : Level) : String :=
  String.ofList (List.replicate (5 - level.name.length) ' ') ++ level.name

/-- The text of an event. -/
def text (e : Event) : String :=
  levelColumn e.level ++ " " ++ String.join (e.message.toList.map messageChar) ++
    String.join (e.fields.map fun (name, value) => s!" {name}={value.shown}")

/-- The lines of an event: one, unless a field or the message brings in a break. -/
def lines (e : Event) : List String :=
  (Text.pieces '\n' e.text.toList).map String.ofList

end Event

/-- The events that are logged. -/
def logged (threshold : Nat) (events : List Event) : List Event :=
  events.filter fun e => e.level.rank ≤ threshold

end SchemaClasses
