/-
Paths as they are written.

A path is a text; what it leads to depends on the tree it is followed
in. Here is what can be said of the text alone: the steps it takes, the
directories on its way, how a name is appended, and the extension of the
file it ends at.
-/
import SchemaClasses.Text.Pieces

namespace SchemaClasses.Files

/-- A step of a path. -/
inductive Step where
  /-- Stays where it is, as `.` does. -/
  | stay
  /-- Goes to the directory above, as `..` does. -/
  | up
  /-- Goes down to what has this name. -/
  | down (name : String)
deriving DecidableEq, Repr

namespace Path

/-- The pieces between the slashes of a path, those without a character left out. -/
def names (path : String) : List String :=
  ((Text.pieces '/' path.toList).filter (!·.isEmpty)).map String.ofList

/-- The step a piece of a path takes. -/
def stepOf (name : String) : Step :=
  if name = "." then .stay else if name = ".." then .up else .down name

/-- The steps of a path. -/
def steps (path : String) : List Step := (names path).map stepOf

/-- Whether a path ends in a slash, and so asks for a directory. -/
def endsInSlash (path : String) : Bool := path.toList.getLast? == some '/'

/-- Whether a path begins with a slash, and so starts at the top. -/
def isAbsolute (path : String) : Bool := path.toList.head? == some '/'

/-- The path of `name` seen from `directory`. A name that starts with a slash is a path of its own. -/
def join (directory name : String) : String :=
  if isAbsolute name then name
  else if directory = "" ∨ endsInSlash directory then directory ++ name
  else directory ++ "/" ++ name

/-- The names in a path that lead anywhere. -/
def parts (path : String) : List String := (names path).filter (· ≠ ".")

/-- The path that leads through these names, from the top or the current directory as `path` does. -/
def ofParts (path : String) (parts : List String) : String :=
  (if isAbsolute path then "/" else "") ++ "/".intercalate parts

/-- The path itself and, above it, the directories it leads through, innermost first. -/
def ancestors (path : String) : List String :=
  let above := (List.range ((parts path).length - 1)).map fun n =>
    ofParts path ((parts path).take (n + 1))
  if path = "" then [] else path :: above.reverse

/-- The directory a path lies in; empty if the path has no directory of its own. -/
def parent (path : String) : String := ofParts path (parts path).dropLast

/--
The extension: what follows the last dot of the last name, if that dot is not the name's first
character. `.` and slashes at the end do not count, and `..` is no name.
-/
def extension? (path : String) : Option String := do
  let name ← (parts path).getLast?
  if name = ".." then none
  else
    let pieces := Text.pieces '.' name.toList
    match pieces.dropLast with
    | [] => none
    | [[]] => none
    | _ => pieces.getLast?.map String.ofList

end Path

end SchemaClasses.Files
