import Fleet.Project.Basic
import Fleet.Project.Directory
import Fleet.Text.Quoted

/-!
# Failures of a sweep

What can go wrong for one repository or before the first one, and how it is reported together with
everything that was asked for.
-/

namespace Fleet

/-- What went wrong for one repository, or before the first one. -/
inductive SweepFailure : Type where
  /-- The directory of the repository cannot be used. -/
  | path (cause : PathError)
  /-- The virtualenv is not known. -/
  | unknownVirtualenv (name : String)
  /-- The working directory is gone before the first repository. -/
  | noWorkingDirectory (cause : OsError)
  /-- The directory of the repository cannot be entered. -/
  | notEntered (directory : String) (cause : OsError)
  /-- The working directory cannot be entered again. -/
  | notRestored (directory : String) (cause : OsError)
  /-- An attribute has no value. -/
  | parameters (cause : AttributeError)
  /-- No command line could be assembled. -/
  | assembly (cause : AssemblyError)
  deriving Repr, DecidableEq

namespace SweepFailure

/-- The sentence that reports the failure. -/
def message : SweepFailure → String
  | path cause => cause.message
  | unknownVirtualenv name => "Virtualenv '" ++ name ++ "' is not defined."
  | noWorkingDirectory cause => "Could not read the current working directory: " ++ cause.message
  | notEntered directory cause =>
    "Could not change the working directory to '" ++ directory ++ "': " ++ cause.message
  | notRestored directory cause =>
    "Could not restore the working directory to '" ++ directory ++ "': " ++ cause.message
  | parameters cause => cause.message
  | assembly cause => cause.message

/-- The messages of the causes below the failure, outermost first. -/
def sources : SweepFailure → List String
  | path cause => cause.sources
  | unknownVirtualenv _ => []
  | noWorkingDirectory cause => [cause.message]
  | notEntered _ cause => [cause.message]
  | notRestored _ cause => [cause.message]
  | parameters cause => cause.sources
  | assembly cause => cause.sources

end SweepFailure

/-- A failure together with what was asked for. -/
structure SweepError : Type where
  /-- The id of the repository; none if there was no start. -/
  repository : Option String
  commands : List String
  selection : List String
  overrides : Overrides
  cause : SweepFailure
  deriving Repr, DecidableEq

namespace SweepError

/-- The sentence that reports the failure. -/
def message (e : SweepError) : String :=
  (match e.repository with
    | some id => "Repository '" ++ id ++ "': "
    | none => "") ++
    "failed to apply " ++ Text.quotedList e.commands ++ " to " ++ Text.quotedList e.selection ++
    " (overrides: " ++ e.overrides.describe ++ "): " ++ e.cause.message

/-- The messages of the causes below the failure, outermost first. -/
def sources (e : SweepError) : List String :=
  e.cause.message :: e.cause.sources

end SweepError

end Fleet
