/-
The program as it is run.

What the program does is computed on a tree of files. So the part of the
file system that the arguments lead to is looked at first, and in the
end the differences are carried out.
-/
import SchemaClasses.CommandLine.Program

namespace SchemaClasses.CommandLine

/-- The locations that steps lead through, from a directory on. -/
def waypoints (place : Files.Location) : List Files.Step → List Files.Location
  | [] => []
  | .stay :: rest => waypoints place rest
  | .up :: rest => waypoints place.dropLast rest
  | .down name :: rest => (place ++ [name]) :: waypoints (place ++ [name]) rest

/-- The path of a location from the top. -/
def pathFromTop (place : Files.Location) : String := "/" ++ Files.Tree.pathOf place

/-- Puts what is at a location into a tree; what a file holds matters only if it is `wanted`. -/
def observe (wanted : Bool) (tree : Files.Tree) (place : Files.Location) : IO Files.Tree := do
  let path := (← IO.currentDir) / pathFromTop place
  if ← path.isDir then
    return tree.put place .directory
  else if ← path.pathExists then
    let bytes ← if wanted then IO.FS.readBinFile path else pure .empty
    return tree.put place (.file bytes)
  else
    return tree

/-- Puts all that a path leads through into a tree. -/
def observePath (wanted : Bool) (tree : Files.Tree) (path : String) : IO Files.Tree :=
  (waypoints (tree.start path) (Files.Path.steps path)).foldlM (observe wanted) tree

/-- Puts all that is in the directory at a path into a tree. -/
def observeContents (tree : Files.Tree) (path : String) : IO Files.Tree := do
  let place := ((waypoints (tree.start path) (Files.Path.steps path)).getLast?).getD tree.current
  let directory := (← IO.currentDir) / pathFromTop place
  if ← directory.isDir then
    (← directory.readDir).toList.foldlM
      (fun tree entry => observe false tree (place ++ [entry.fileName])) tree
  else
    return tree

/-- The files that the arguments lead to. -/
def observeFor (arguments : List String) : IO Files.Tree := do
  let current := Files.Path.parts (← IO.currentDir).toString
  let top : Files.Tree := { Files.Tree.empty with current }
  let tree ← (waypoints [] (current.map .down)).foldlM (observe false) top
  match Command.ofArguments? arguments with
  | some (.generate settings _ _) =>
    let tree ← observePath false tree settings.outputDirectory
    let tree ← observeContents tree settings.outputDirectory
    observePath true tree settings.schemaPath
  | _ => return tree

/-- Makes the directories and writes the files that are new in a tree. -/
def carryOut (before after : Files.Tree) : IO Unit :=
  after.entries.forM fun (place, entry) => do
    let path := (← IO.currentDir) / pathFromTop place
    match before.entry? place, entry with
    | some .directory, .directory => pure ()
    | _, .directory => IO.FS.createDir path
    | some (.file old), .file new => if old.data ≠ new.data then IO.FS.writeBinFile path new
    | _, .file new => IO.FS.writeBinFile path new

end SchemaClasses.CommandLine

open SchemaClasses

def main (arguments : List String) : IO UInt32 := do
  let before ← CommandLine.observeFor arguments
  let effect := CommandLine.execute arguments (← IO.getEnv "PROPELGEN_LOG") before
  CommandLine.carryOut before effect.tree
  IO.print effect.output
  if effect.status = CommandLine.usageStatus then IO.eprint CommandLine.helpText
  effect.log.forM fun line => IO.eprintln line
  return effect.status.toUInt32
