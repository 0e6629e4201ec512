import Fleet.Text.Utf8
import Fleet.World.OsError

/-!
# Command lines and their failures

What a command line is run for, and what can go wrong with it.
-/

/-!
## Failures of running a program

What can go wrong between asking for a program to run and its successful end, the sentence that
reports it, and the exit code it stands for.
-/

namespace Fleet

/-- Why running a program did not succeed. -/
inductive ExecutionError : Type where
  /-- There was nothing to run. -/
  | emptyCommand
  /-- The program is there but could not be started. -/
  | notStarted (command : String) (cause : OsError)
  /-- The program was not found. -/
  | programNotFound (program : String)
  /-- The program ended with a code other than 0. -/
  | nonZeroExit (command : String) (code : Nat)
  /-- A signal ended the program. -/
  | terminated (command : String)
  /-- What the program printed is not text. -/
  | outputNotText (command : String) (cause : Text.Utf8Error)
  deriving Repr, DecidableEq

namespace ExecutionError

/-- The sentence that reports the failure. -/
def message : ExecutionError → String
  | emptyCommand => "No command specified to run."
  | notStarted command cause =>
    "Command '" ++ command ++ "' could not be executed: " ++ cause.message
  | programNotFound program => "Program '" ++ program ++ "' was not found."
  | nonZeroExit command code =>
    "Command '" ++ command ++ "' exited with code " ++ toString code ++ "."
  | terminated command => "Command '" ++ command ++ "' was terminated by a signal."
  | outputNotText command _ =>
    "Command '" ++ command ++ "' produced output that was not valid UTF-8"

/-- The messages of the causes below the failure, outermost first. -/
def sources : ExecutionError → List String
  | outputNotText _ cause => [cause.message]
  | _ => []

/-- The exit code that stands for the failure: a program's own code, 127 for a program that was
not found, otherwise 1. -/
def exitCode : ExecutionError → Nat
  | nonZeroExit _ code => code
  | programNotFound _ => 127
  | _ => 1

/-- The failure that a refused start of `program` amounts to. -/
def ofStart (command program : String) : OsError → ExecutionError
  | .noSuchFile => programNotFound program
  | e => notStarted command e

end ExecutionError

/-!
## Capturing what a command prints

A capture takes a command line and the state of whatever runs it, and gives back what the command
printed, or why it failed, together with the state afterwards. Templates use nothing else of the
system, so any such function can stand in for it.
-/

/-- A computation that changes a state and may fail; the state is kept when it fails. -/
abbrev Attempting (σ ε : Type) : Type → Type :=
  ExceptT ε (StateM σ)

/-- Runs one command line over states `σ`. -/
abbrev Capture (σ : Type) : Type :=
  String → Attempting σ ExecutionError String

end Fleet
