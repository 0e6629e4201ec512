/-!
# Operating-system errors

Why the operating system, or the layer that prepares a call to it, turned a request down.
-/

namespace Fleet

/-- Why a request to the operating system failed. -/
inductive OsError : Type where
  /-- A request that only others may make. -/
  | notPermitted
  /-- No file of that name. -/
  | noSuchFile
  /-- A list of arguments that is too long. -/
  | argumentsTooLong
  /-- A file that is neither a program nor a script. -/
  | notExecutable
  /-- The file may not be used that way. -/
  | permissionDenied
  /-- A descriptor that stands for nothing. -/
  | badDescriptor
  /-- A device without room. -/
  | noSpace
  /-- A file of that name is there already. -/
  | fileExists
  /-- A step through something that is not a directory. -/
  | notDirectory
  /-- A directory where a file is needed. -/
  | isDirectory
  /-- A request that makes no sense. -/
  | invalidArgument
  /-- A name longer than names may be. -/
  | nameTooLong
  /-- A directory that still holds entries. -/
  | directoryNotEmpty
  /-- A chain of symbolic links that does not end. -/
  | tooManyLinks
  /-- A NUL inside the name of a file. -/
  | nulInName
  /-- A NUL inside an argument of a program. -/
  | nulInArgument
  /-- A file that is not UTF-8 where text is needed. -/
  | notText
  /-- The empty path where an absolute one is needed. -/
  | emptyPath
  deriving Repr, DecidableEq

namespace OsError

/-- The number by which the system knows the error, if it is one of the system's own. -/
def code? : OsError → Option Nat
  | notPermitted => some 1
  | noSuchFile => some 2
  | argumentsTooLong => some 7
  | notExecutable => some 8
  | permissionDenied => some 13
  | badDescriptor => some 9
  | noSpace => some 28
  | fileExists => some 17
  | notDirectory => some 20
  | isDirectory => some 21
  | invalidArgument => some 22
  | nameTooLong => some 36
  | directoryNotEmpty => some 39
  | tooManyLinks => some 40
  | nulInName | nulInArgument | notText | emptyPath => none

/-- The bare description, as the system's own tools print it. -/
def description : OsError → String
  | notPermitted => "Operation not permitted"
  | noSuchFile => "No such file or directory"
  | argumentsTooLong => "Argument list too long"
  | notExecutable => "Exec format error"
  | permissionDenied => "Permission denied"
  | badDescriptor => "Bad file descriptor"
  | noSpace => "No space left on device"
  | fileExists => "File exists"
  | notDirectory => "Not a directory"
  | isDirectory => "Is a directory"
  | invalidArgument => "Invalid argument"
  | nameTooLong => "File name too long"
  | directoryNotEmpty => "Directory not empty"
  | tooManyLinks => "Too many levels of symbolic links"
  | nulInName => "file name contained an unexpected NUL byte"
  | nulInArgument => "nul byte found in provided data"
  | notText => "stream did not contain valid UTF-8"
  | emptyPath => "cannot make an empty path absolute"

/-- The description, with the system's number where there is one. -/
def message (e : OsError) : String :=
  match e.code? with
  | some n => e.description ++ " (os error " ++ toString n ++ ")"
  | none => e.description

end OsError

end Fleet
