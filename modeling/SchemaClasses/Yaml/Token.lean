/-
The tokens of YAML.

Indentation shows here as tokens of its own: a block collection has a
token where it opens and one where it closes, and a key has one in front
of it, whether the text marks it or not.
-/

namespace SchemaClasses.Yaml

inductive Token where
  /-- A directive that names the version of the language. -/
  | version (major minor : Nat)
  /-- A directive that says what a tag handle stands for. -/
  | tagPrefix (handle meaning : String)
  | documentStart
  | documentEnd
  | openBlockSequence
  | openBlockMapping
  | closeBlock
  | openFlowSequence
  | closeFlowSequence
  | openFlowMapping
  | closeFlowMapping
  /-- The dash before an item. -/
  | entry
  /-- A key follows. -/
  | key
  /-- A value follows. -/
  | value
  | comma
  | alias (name : String)
  | anchor (name : String)
  | tag (handle suffix : String)
  | scalar (plain : Bool) (text : String)

end SchemaClasses.Yaml
