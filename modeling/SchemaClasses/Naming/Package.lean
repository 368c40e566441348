/-
Package names: identifiers joined by dots.
-/
import SchemaClasses.Naming.Identifier
import SchemaClasses.Text.Pieces

namespace SchemaClasses.Naming

/-- The parts of a package name between its dots. -/
def packageSegments (name : String) : List String :=
  (Text.pieces '.' name.toList).map String.ofList

/-- The first part of a package name that is no identifier. -/
def offendingSegment? (name : String) : Option String :=
  (packageSegments name).find? (!isIdentifier ·)

/-- The names a package may have. -/
def isPackage (name : String) : Bool :=
  (offendingSegment? name).isNone

end SchemaClasses.Naming
