/-
Schema documents.

A schema is written as a YAML, JSON or TOML document, and the extension
of its file tells which. Whatever the format, the entities are the
entries of one mapping that the document's root binds to a fixed key. A
document without it describes no schema.
-/
import SchemaClasses.Files.Tree
import SchemaClasses.Json.Value
import SchemaClasses.Schema.Basic
import SchemaClasses.Text.Quoted
import SchemaClasses.Toml.Value
import SchemaClasses.Yaml.Value

namespace SchemaClasses

/-- The formats a schema can be written in. -/
inductive Format where
  | yaml
  | json
  | toml
deriving DecidableEq, Repr, Inhabited

namespace Format

def name : Format → String
  | .yaml => "YAML"
  | .json => "JSON"
  | .toml => "TOML"

/-- The format of the file at a path. An extension that says nothing stands for YAML. -/
def ofPath (path : String) : Format :=
  match (Files.Path.extension? path).map String.toLower with
  | some "json" => .json
  | some "toml" => .toml
  | _ => .yaml

end Format

/-- The key of a document's root that the entities are listed under. -/
def containerKey : String := "propel"

/-- Why no schema could be read. -/
inductive ReadError where
  /-- There is no text at the path. -/
  | unreadable (path : String) (fault : Files.Fault)
  /-- The text is no document of its format, or not one of the right shape. -/
  | illFormed (format : Format)
  /-- The document lists no entities. -/
  | missingContainer
deriving DecidableEq

def ReadError.message : ReadError → String
  | .unreadable path fault => s!"failed to read schema {Text.quoted path}: {fault.message}"
  | .illFormed format => s!"invalid {format.name} schema"
  | .missingContainer => s!"schema has no `{containerKey}` entity container"

/-- The entries a document lists: none if it is ill formed, `some none` if it lists nothing. -/
def Format.entries? : Format → String → Option (Option Entries)
  | .yaml => Yaml.entries? containerKey
  | .json => Json.entries? containerKey
  | .toml => Toml.entries? containerKey

namespace Schema

/-- The schema that a text describes. -/
def ofText (format : Format) (text : String) : Except ReadError Schema :=
  match format.entries? text with
  | none => .error (.illFormed format)
  | some none => .error .missingContainer
  | some (some entries) => .ok (ofEntries entries)

/-- The schema in the file at a path. -/
def load (tree : Files.Tree) (path : String) : Except ReadError Schema :=
  match tree.readText path with
  | .error fault => .error (.unreadable path fault)
  | .ok text => ofText (Format.ofPath path) text

end Schema

end SchemaClasses
