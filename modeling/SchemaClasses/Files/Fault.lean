/-
Why a file or directory could not be read or written.
-/

namespace SchemaClasses.Files

/-- A refusal of the file system. -/
inductive Fault where
  /-- Nothing is at the path, or at a directory on the way. -/
  | notFound
  /-- Something is at the path already. -/
  | alreadyExists
  /-- A file stands where the path needs a directory. -/
  | notADirectory
  /-- A directory stands where the path needs a file. -/
  | isADirectory
  /-- The path, or a name on it, is longer than the file system allows. -/
  | nameTooLong
  /-- The path holds a NUL, which no name can. -/
  | nulInPath
  /-- The bytes of the file are no text. -/
  | notText
deriving DecidableEq, Repr

/-- The message for a refusal, with the system's number where it has one. -/
def Fault.message : Fault → String
  | .notFound => "No such file or directory (os error 2)"
  | .alreadyExists => "File exists (os error 17)"
  | .notADirectory => "Not a directory (os error 20)"
  | .isADirectory => "Is a directory (os error 21)"
  | .nameTooLong => "File name too long (os error 36)"
  | .nulInPath => "file name contained an unexpected NUL byte"
  | .notText => "stream did not contain valid UTF-8"

end SchemaClasses.Files
