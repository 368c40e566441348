/-
File trees, and what happens to them.

A tree says for each location whether a file or a directory is there. It
holds its entries in ascending order, so two trees with the same entries
are equal. Reading and writing follow a path step by step from the top:
every step but the last needs a directory, and the first step that
cannot be taken decides what is reported. A path starts at the top if it
begins with a slash, and otherwise at the current directory.
-/
import SchemaClasses.Files.Fault
import SchemaClasses.Files.Path

namespace SchemaClasses.Files

/-- A place in a tree: the names on the way to it. The empty way is the top directory. -/
abbrev Location := List String

/-- What is at a location. -/
inductive Entry where
  | directory
  | file (bytes : ByteArray)

/-- Puts an entry among ascending ones, over one at the same location. -/
def putAscending (place : Location) (entry : Entry) :
    List (Location × Entry) → List (Location × Entry)
  | [] => [(place, entry)]
  | (p, e) :: rest =>
    if place < p then (place, entry) :: (p, e) :: rest
    else if place = p then (place, entry) :: rest
    else (p, e) :: putAscending place entry rest

theorem mem_putAscending {place : Location} {entry : Entry} {entries : List (Location × Entry)}
    {x : Location × Entry} (h : x ∈ putAscending place entry entries) :
    x = (place, entry) ∨ x ∈ entries := by
  fun_induction putAscending place entry entries <;> grind

theorem pairwise_putAscending {place : Location} {entry : Entry}
    {entries : List (Location × Entry)} (h : entries.Pairwise (·.1 < ·.1)) :
    (putAscending place entry entries).Pairwise (·.1 < ·.1) := by
  fun_induction putAscending place entry entries with
  | case1 => simp
  | case2 p e rest below =>
    refine List.pairwise_cons.2 ⟨fun x hx => ?_, h⟩
    rcases List.mem_cons.1 hx with rfl | hx
    · exact below
    · exact List.lt_trans below ((List.pairwise_cons.1 h).1 x hx)
  | case3 p rest _ =>
    exact List.pairwise_cons.2 ⟨(List.pairwise_cons.1 h).1, (List.pairwise_cons.1 h).2⟩
  | case4 p e rest notBelow notSame ih =>
    refine List.pairwise_cons.2 ⟨fun x hx => ?_, ih (List.pairwise_cons.1 h).2⟩
    rcases mem_putAscending hx with rfl | hx
    · -- neither below nor equal, so above
      by_cases above : p < place
      · exact above
      · exact absurd (List.le_antisymm above notBelow) notSame
    · exact (List.pairwise_cons.1 h).1 x hx

/-- A file tree: its entries, the top directory apart, in ascending order. -/
structure Tree where
  entries : List (Location × Entry)
  ascending : entries.Pairwise (·.1 < ·.1)
  /-- The current directory. -/
  current : Location := []

namespace Tree

/-- The tree that is one empty directory. -/
def empty : Tree := { entries := [], ascending := .nil }

instance : Inhabited Tree := ⟨empty⟩

/-- What is at a location; at the top there is a directory. -/
def entry? (tree : Tree) (place : Location) : Option Entry :=
  if place = [] then some .directory else tree.entries.lookup place

/-- Puts a file or a directory at a location. -/
def put (tree : Tree) (place : Location) (entry : Entry) : Tree :=
  { tree with
    entries := putAscending place entry tree.entries
    ascending := pairwise_putAscending tree.ascending }

/-- Takes away what is at a location and below it. -/
def removeAt (tree : Tree) (place : Location) : Tree :=
  { tree with
    entries := tree.entries.filter fun (p, _) => !place.isPrefixOf p
    ascending := tree.ascending.filter _ }

-- =================================================== following paths

/-- The longest name a file or directory can have, in bytes. -/
def longestName : Nat := 255

/-- The longest path that can be followed, in bytes. -/
def longestPath : Nat := 4095

/-- Follows steps from a directory; each must lead to a directory. -/
def walk (tree : Tree) (place : Location) : List Step → Except Fault Location
  | [] => .ok place
  | .stay :: rest => tree.walk place rest
  | .up :: rest => tree.walk place.dropLast rest
  | .down name :: rest =>
    if longestName < name.utf8ByteSize then .error .nameTooLong
    else
      match tree.entry? (place ++ [name]) with
      | none => .error .notFound
      | some (.file _) => .error .notADirectory
      | some .directory => tree.walk (place ++ [name]) rest

/-- Where a path starts. -/
def start (tree : Tree) (path : String) : Location :=
  if Path.isAbsolute path then [] else tree.current

/-- A path that has been followed up to its last step. -/
structure Approach where
  /-- The directory the last step starts from. -/
  directory : Location
  /-- The last step. A path without steps stays where it starts. -/
  last : Step
  /-- The path ends in a slash. -/
  slash : Bool

/-- Follows a path up to its last step. -/
def approach (tree : Tree) (path : String) : Except Fault Approach := do
  if path.toList.contains '\x00' then throw .nulInPath
  if path = "" then throw .notFound
  if longestPath < path.utf8ByteSize then throw .nameTooLong
  let steps := Path.steps path
  let directory ← tree.walk (tree.start path) steps.dropLast
  match steps.getLast?.getD .stay with
  | .down name =>
    if longestName < name.utf8ByteSize then throw .nameTooLong
    else return ⟨directory, .down name, Path.endsInSlash path⟩
  | last => return ⟨directory, last, Path.endsInSlash path⟩

/-- Whether a path leads to a directory. -/
def isDirectory (tree : Tree) (path : String) : Bool :=
  match tree.approach path with
  | .error _ => false
  | .ok ⟨directory, .down name, _⟩ =>
    match tree.entry? (directory ++ [name]) with
    | some .directory => true
    | _ => false
  | .ok _ => true

-- ============================================== reading and writing

/-- The bytes of the file at a path. -/
def read (tree : Tree) (path : String) : Except Fault ByteArray := do
  let there ← tree.approach path
  match there.last with
  | .down name =>
    match tree.entry? (there.directory ++ [name]) with
    | none => throw .notFound
    | some .directory => throw .isADirectory
    | some (.file bytes) => if there.slash then throw .notADirectory else return bytes
  | _ => throw .isADirectory

/-- The text of the file at a path. -/
def readText (tree : Tree) (path : String) : Except Fault String := do
  let bytes ← tree.read path
  match String.fromUTF8? bytes with
  | some text => return text
  | none => throw .notText

/-- Writes a file at a path, in place of one that is there. The directory must exist. -/
def write (tree : Tree) (path : String) (bytes : ByteArray) : Except Fault Tree := do
  let there ← tree.approach path
  match there.last with
  | .down name =>
    let place := there.directory ++ [name]
    match tree.entry? place with
    | none => if there.slash then throw .isADirectory else return tree.put place (.file bytes)
    | some .directory => throw .isADirectory
    | some (.file _) => if there.slash then throw .notADirectory else return tree.put place (.file bytes)
  | _ => throw .isADirectory

/-- Makes a directory at a path where nothing is. The directory above must exist. -/
def makeDirectory (tree : Tree) (path : String) : Except Fault Tree := do
  let there ← tree.approach path
  match there.last with
  | .down name =>
    let place := there.directory ++ [name]
    match tree.entry? place with
    | none => return tree.put place .directory
    | some _ => throw .alreadyExists
  | _ => throw .alreadyExists

/-- The outcome where a path could not be made: a directory that is there already is as good as one. -/
def unlessThere (tree : Tree) (path : String) (fault : Fault) : Tree × Option Fault :=
  if fault = .alreadyExists ∧ tree.isDirectory path then (tree, none) else (tree, some fault)

/--
Makes the first of the paths a directory, where each path lies in the one after it. Going outward,
the first path that is there, or can be made, is where making starts.
-/
def makeAll (tree : Tree) : List String → Tree × Option Fault
  | [] => (tree, none)
  | path :: outer =>
    match tree.makeDirectory path with
    | .ok made => (made, none)
    | .error .notFound =>
      match tree.makeAll outer with
      | (below, some fault) => (below, some fault)
      | (below, none) =>
        match below.makeDirectory path with
        | .ok made => (made, none)
        | .error fault => below.unlessThere path fault
    | .error fault => tree.unlessThere path fault

/--
Makes a directory at a path together with the directories on its way that are missing. Those made
before a failure stay.
-/
def makeDirectories (tree : Tree) (path : String) : Tree × Option Fault :=
  tree.makeAll (Path.ancestors path)

/-- Takes away what is at a path, with all below it; nothing happens where nothing is. -/
def remove (tree : Tree) (path : String) : Tree :=
  match tree.approach path with
  | .ok ⟨directory, .down name, _⟩ => tree.removeAt (directory ++ [name])
  | _ => tree

/-- The path of a location, as listings show it. -/
def pathOf (place : Location) : String := "/".intercalate place

/-- All entries with their paths, in ascending order of the paths. -/
def listing (tree : Tree) : List (String × Entry) :=
  (tree.entries.map fun (place, entry) => (pathOf place, entry)).mergeSort fun a b => a.1 ≤ b.1

end Tree

end SchemaClasses.Files
