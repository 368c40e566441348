/-
The leading underscore: names that describe the schema itself.

At every level of a schema a name with a leading underscore belongs to
the schema's bookkeeping and yields no code; any other name can.
-/

namespace SchemaClasses.Naming

/-- A name that code can be generated for. -/
def isGeneratable (name : String) : Bool :=
  name.toList.head? != some '_'

end SchemaClasses.Naming
