import Fleet.Execution.Capture
import Fleet.Text.Blank
import Fleet.Words.Quoting
import Fleet.World.Basic

/-!
# Running programs

A host runs programs: given the words of a command line, the directory to run in and the file
tree, it says how the program ended, what it printed and what became of the tree. Nothing here
depends on which programs there are.

* `current_capture`: capturing the output of a command leaves the working directory alone.
-/

namespace Fleet

/-- How a program ended. -/
inductive Status : Type where
  /-- By itself, with a code. -/
  | exited (code : Nat)
  /-- By a signal. -/
  | signalled
  deriving Repr, DecidableEq

/-- What a finished program leaves behind. -/
structure Outcome : Type where
  status : Status
  output : Bytes
  errors : Bytes
  tree : FileTree
  deriving Repr

/-- Whatever runs programs. -/
structure Host : Type where
  /-- Runs a program with arguments in the directory with a serial number. -/
  run : (program : String) → (arguments : List String) → (directory : Nat) → FileTree →
    Except OsError Outcome

/-- The failure that the end of a program amounts to, if it is one. -/
def Status.failure? (command : String) : Status → Option ExecutionError
  | exited 0 => none
  | exited code => some (.nonZeroExit command code)
  | signalled => some (.terminated command)

namespace Outcome

/-- Whether the program of a command succeeded. -/
def success (o : Outcome) (command : String) : Except ExecutionError Unit :=
  match o.status.failure? command with
  | some failure => .error failure
  | none => .ok ()

/-- What the program of a command printed, if it succeeded and that is text. -/
def text (o : Outcome) (command : String) : Except ExecutionError String := do
  o.success command
  (Text.decodeUtf8 o.output).mapError (.outputNotText command)

end Outcome

namespace Host

/-- Starts a program, whose words must not hold a NUL. -/
def start (host : Host) (program : String) (arguments : List String) (directory : Nat)
    (tree : FileTree) : Except OsError Outcome :=
  if (program :: arguments).any (·.toList.contains '\x00') then .error .nulInArgument
  else host.run program arguments directory tree

/-- What a command line prints when a shell runs it in the working directory. What it prints as
errors goes to the stream for errors. -/
def capture (host : Host) (shell : String) : Capture World := fun line =>
  ExceptT.mk fun w =>
    let command := Text.trim line
    if command = "" then (.error .emptyCommand, w)
    else
      match host.start shell ["-c", command] w.current w.tree with
      | .error e => (.error (.ofStart command shell e), w)
      | .ok outcome =>
        (outcome.text command,
          { w with tree := outcome.tree, errors := w.errors ++ outcome.errors })

/-- Starts the words of a command line in the directory that a path leads to. -/
def startIn (host : Host) (w : World) (program : String) (arguments : List String)
    (directory : String) : Except OsError Outcome :=
  if (program :: arguments).any (·.toList.contains '\x00') then .error .nulInArgument
  else do
    let serial ← w.directoryAt directory
    host.start program arguments serial w.tree

/-- Runs the words of a command line in a directory. Both its streams are passed on. -/
def execute (host : Host) (words : List String) (directory : String) :
    Attempting World ExecutionError Unit :=
  ExceptT.mk fun w =>
    match words with
    | [] => (.error .emptyCommand, w)
    | program :: arguments =>
      let command := Words.display words
      match host.startIn w program arguments directory with
      | .error e => (.error (.ofStart command program e), w)
      | .ok outcome =>
        (outcome.success command,
          { w with
            tree := outcome.tree
            output := w.output ++ outcome.output
            errors := w.errors ++ outcome.errors })

/-- Capturing the output of a command leaves the working directory alone. -/
theorem current_capture (host : Host) (shell line : String) (w : World) :
    ((host.capture shell line).run w).2.current = w.current := by
  simp only [capture, ExceptT.run_mk]
  split
  · rfl
  · split <;> rfl

end Host

end Fleet
