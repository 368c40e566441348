/-
A run: classes written for the entities of a schema.

Entities are taken in the order of the schema, and each has one outcome.
What goes wrong with an entity is its outcome and stops nothing; only
where the output directory cannot be made is there no run at all. An
entity that fails leaves the files as they are.
-/
import SchemaClasses.Class.Basic
import SchemaClasses.Files.Tree
import SchemaClasses.Generation.Settings
import SchemaClasses.Text.Quoted

namespace SchemaClasses

-- ============================================================ failures

/-- Why no class was written for an entity. -/
inductive EntityFault where
  /-- The entity has no class. -/
  | noClass (fault : ClassFault)
  /-- The class could not be written to the path. -/
  | unwritable (path : String) (fault : Files.Fault)
deriving DecidableEq

/-- An entity for which no class was written. -/
structure EntityError where
  entity : String
  fault : EntityFault
deriving DecidableEq

def EntityError.message (e : EntityError) : String :=
  match e.fault with
  | .noClass fault => fault.message e.entity
  | .unwritable path fault =>
    s!"failed to write {Text.quoted path} for entity `{e.entity}`: {fault.message}"

/-- The output directory could not be made. -/
structure DirectoryError where
  path : String
  fault : Files.Fault
deriving DecidableEq

def DirectoryError.message (e : DirectoryError) : String :=
  s!"failed to create output directory {Text.quoted e.path}: {e.fault.message}"

-- ============================================================= writing

namespace Class

/-- The path of a class in a directory. -/
def path (cls : Class) (directory : String) : String :=
  Files.Path.join directory cls.fileName

/-- Writes a class into a directory, over a file that is there. -/
def write (cls : Class) (directory : String) (tree : Files.Tree) :
    Except EntityError Files.Tree :=
  match tree.write (cls.path directory) cls.source.toUTF8 with
  | .ok written => .ok written
  | .error fault => .error ⟨cls.entity, .unwritable (cls.path directory) fault⟩

/-- Renders the class of an entity and writes it into a directory. -/
def emit (entity : Entity) (package directory : String) (tree : Files.Tree) :
    Except EntityError (Class × Files.Tree) :=
  match render entity package with
  | .error fault => .error ⟨entity.name, .noClass fault⟩
  | .ok cls => (cls.write directory tree).map fun tree => (cls, tree)

end Class

-- ============================================================ outcomes

/-- What became of an entity. -/
inductive Outcome where
  /-- The entity is bookkeeping. -/
  | skipped (entity : String)
  | failed (error : EntityError)
  /-- The class was written to the path, perhaps over that of an earlier entity. -/
  | written (cls : Class) (path : String) (previous : Option String)

/-- The entity a class of this name was written for last, the latest outcome first. -/
def lastWriter? (name : String) : List Outcome → Option String
  | [] => none
  | .written cls _ _ :: earlier =>
    if cls.name = name then some cls.entity else lastWriter? name earlier
  | _ :: earlier => lastWriter? name earlier

/-- What becomes of an entity, after the outcomes `earlier`, the latest first. -/
def Outcome.ofEntity (settings : Settings) (earlier : List Outcome) (tree : Files.Tree)
    (entity : Entity) : Outcome × Files.Tree :=
  if entity.isGeneratable then
    match Class.emit entity settings.packageName settings.outputDirectory tree with
    | .error e => (.failed e, tree)
    | .ok (cls, tree) =>
      (.written cls (cls.path settings.outputDirectory) (lastWriter? cls.name earlier), tree)
  else (.skipped entity.name, tree)

/-- What becomes of entities, one after the other. -/
def Outcome.ofEntities (settings : Settings) (earlier : List Outcome) (tree : Files.Tree) :
    List Entity → List Outcome × Files.Tree
  | [] => ([], tree)
  | entity :: rest =>
    let (outcome, tree) := ofEntity settings earlier tree entity
    let (outcomes, tree) := ofEntities settings (outcome :: earlier) tree rest
    (outcome :: outcomes, tree)

/-- A run that has come to its end: what it found out, and the files it leaves. -/
structure Run where
  /-- One outcome for each entity, in order; or else there was no run. -/
  result : Except DirectoryError (List Outcome)
  tree : Files.Tree

/-- Writes the classes of a schema. -/
def run (settings : Settings) (schema : Schema) (tree : Files.Tree) : Run :=
  match tree.makeDirectories settings.outputDirectory with
  | (tree, some fault) => ⟨.error ⟨settings.outputDirectory, fault⟩, tree⟩
  | (tree, none) =>
    let (outcomes, tree) := Outcome.ofEntities settings [] tree schema.entities
    ⟨.ok outcomes, tree⟩

end SchemaClasses
