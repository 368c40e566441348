/-
The settings of a run.
-/
import SchemaClasses.Naming.Package

namespace SchemaClasses

/-- What a run is told. -/
structure Settings where
  /-- The file the schema is in. -/
  schemaPath : String
  /-- The package of the classes. -/
  packageName : String
  /-- The directory the classes are written into. -/
  outputDirectory : String
deriving DecidableEq

/-- Why a run cannot have these settings. -/
inductive SettingsError where
  | emptyPackageName
  /-- A part of the package name is no identifier. -/
  | invalidPackageName (package segment : String)
  | emptyOutputDirectory
deriving DecidableEq

def SettingsError.message : SettingsError → String
  | .emptyPackageName => "package name cannot be empty"
  | .invalidPackageName package segment =>
    s!"invalid package name `{package}`: `{segment}` is not a Java identifier"
  | .emptyOutputDirectory => "output directory cannot be empty"

/-- Settings as they are, if a run can have them. The package is looked at first. -/
def Settings.validate (settings : Settings) : Except SettingsError Settings :=
  if settings.packageName = "" then .error .emptyPackageName
  else
    match Naming.offendingSegment? settings.packageName with
    | some segment => .error (.invalidPackageName settings.packageName segment)
    | none =>
      if settings.outputDirectory = "" then .error .emptyOutputDirectory else .ok settings

end SchemaClasses
