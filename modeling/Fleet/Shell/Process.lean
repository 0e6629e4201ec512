import Fleet.Execution.Capture
import Fleet.Shell.Syntax
import Fleet.World.Edits

/-!
# Processes

The state of a running script or tool. Its context is its own: variables, descriptors, options and
so on, of which a process that it starts gets a copy. The file tree, the streams behind the
descriptors, the clock and what runs beside it are shared by all. Streams are shared, descriptors
are not: several descriptors may stand for one stream.
-/

namespace Fleet.Shell

/-- What is behind a descriptor. -/
inductive Stream : Type where
  /-- Gives nothing and swallows everything. -/
  | silent
  /-- Takes nothing, since there is no room. -/
  | full
  /-- Cannot be read, since it is a directory. -/
  | folder
  /-- Gives what is left to read; the size of the file that it comes from is known, if it does. -/
  | input (left : Octets) (size : Option Nat := none)
  /-- Keeps what is written, the last octet first. -/
  | output (written : Octets)
  /-- Writes to a file: from an offset on, or at its end. -/
  | file (location : Location) (offset : Option Nat)
  deriving Repr

/-- The elements of an array. -/
inductive Table : Type where
  /-- Elements at numbers, in their order. -/
  | indexed (elements : List (Nat × Octets))
  /-- Elements at keys, the latest first. -/
  | keyed (elements : List (Octets × Octets))
  deriving Repr

/-- A variable. Without a value it is not set, but what is said of it is kept. -/
structure Variable : Type where
  name : Octets
  /-- Its value. That of an array is empty, since its elements are kept apart. -/
  value : Option Octets
  /-- Its elements, if it is an array. -/
  table : Option Table := none
  /-- Whether its values are worked out as numbers. -/
  integer : Bool := false
  /-- What happens to the letters of its values. -/
  recasing : Option Recasing := none
  /-- Whether it stands for the variable that its value names. -/
  reference : Bool := false
  /-- Whether programs that are run see it. -/
  exported : Bool := false
  /-- Whether it can no longer be changed. -/
  fixed : Bool := false
  /-- Whether it is remembered when it is unset. -/
  lasting : Bool := false
  deriving Repr

/-- What is restored when a function is over. -/
inductive Shadow : Type where
  | variable (old : Variable)
  | absent (name : Octets)
  | options (letters : List Char)
  deriving Repr

/-- A program that has been found before: the number of the directory in the list of directories to
look in, and whether it has to be looked for again. -/
structure Tracked : Type where
  name : Octets
  place : Nat
  stale : Bool := false
  /-- How often it was used. -/
  uses : Nat := 0
  /-- Where it is, if that is not in one of the directories. -/
  path : Option Octets := none
  deriving Repr

/-- How a process has ended. -/
inductive Ending : Type where
  | code (code : Nat)
  | signal (signal : Nat)
  deriving Repr, DecidableEq

/-- A command that was started to run beside the script, as the script knows it. -/
structure Job : Type where
  place : Nat
  /-- The number of its last process. -/
  process : Nat
  /-- How many processes it has. -/
  size : Nat
  /-- How it has ended, once that was noticed. -/
  ending : Option Ending := none
  /-- Whether it was waited for. -/
  waited : Bool := false
  deriving Repr

/-- A script that reads what is written to a stream. -/
structure Channel : Type where
  /-- The number of the stream. -/
  stream : Nat
  script : List Command
  /-- The streams that the descriptors of the script stand for. -/
  descriptors : List (Nat × Nat)

/-- What a process has to itself. -/
structure Context : Type where
  /-- The shell whose script is run. -/
  dialect : Dialect := .plain
  /-- The serial number of the working directory. -/
  directory : Nat
  /-- The path by which the working directory was reached. -/
  reached : Octets := []
  vars : List Variable
  functions : List (Octets × Command) := []
  aliases : List (Octets × Octets) := []
  tracked : List Tracked := []
  /-- What the script was started as. -/
  name : Octets := []
  arguments : List Octets := []
  /-- What complaints name besides the script: the builtin or file whose text is being run. -/
  within : Octets := []
  /-- The line of the script that is being run. -/
  line : Nat := 1
  /-- The streams that descriptors stand for. -/
  descriptors : List (Nat × Nat)
  /-- The number by which the process is known. -/
  number : Nat := 4096
  /-- The number of the shell that all this is part of. -/
  shell : Nat := 4096
  /-- The numbers of the processes that wait for this one, the nearest first. -/
  ancestors : List Nat := [4095]
  /-- The number of the process that was started last to run beside the script. -/
  latest : Option Nat := none
  jobs : List Job := []
  /-- The letters of the shell's options that are on. -/
  options : List Char := []
  /-- The names of the further options that are on. -/
  extras : List String := []
  /-- How many loops there are around the command. -/
  loops : Nat := 0
  /-- What is run on signals, by their numbers; 0 stands for the end of the script. -/
  traps : List (Nat × Octets) := []
  /-- Whether a function is being run. -/
  inFunction : Bool := false
  /-- The names of the functions that are being run, the latest first. -/
  calls : List Octets := []
  /-- The file that is being read within the script. -/
  source : Option Octets := none
  /-- Whether the script stands among the arguments of the shell. -/
  inline : Bool := false
  /-- How many things there were to be restored when the function was called. -/
  frame : Nat := 0
  /-- What is to be run with what is written to certain streams. -/
  channels : List Channel := []
  /-- How deep scripts lie within the text of others that are being run. -/
  depth : Nat := 0
  /-- The variables that were assigned for the command only, the latest first. -/
  temporary : List Octets := []
  /-- The descriptors whose numbers variables were given. -/
  kept : List Nat := []
  /-- The files in which functions were defined, where that was not in the script itself. -/
  origins : List (Octets × Octets) := []
  /-- The directories that one wants to come back to. -/
  returning : List Octets := []
  /-- What is restored at the end of the function or command, the latest first. -/
  shadows : List Shadow := []
  /-- The permissions that new files lack. -/
  mask : Nat := 18
  /-- Limits that have been set: the letter, and the lower and the upper bound. -/
  limits : List (Char × Option Nat × Option Nat) := []
  /-- When the process is to be ended, and by which signal. -/
  deadline : Option Nat := none
  timeSignal : Nat := 15
  /-- How little care is taken of the process. -/
  niceness : Nat := 0
  /-- Which argument is searched for options next, and how much of the one before it was. -/
  optionPlace : Nat := 1
  optionOffset : Option Nat := none

/-- What all processes share at some time. -/
structure Moment : Type where
  tree : FileTree
  streams : List Stream
  /-- Signals that were sent and not dealt with: who they are for, and their numbers. -/
  signals : List (Nat × Nat) := []
  /-- How processes beside the script have ended. -/
  ended : List (Nat × Ending) := []
  /-- The number of the next process. -/
  nextNumber : Nat := 4097
  /-- The time, in millionths of a second. -/
  clock : Nat := 0
  deriving Repr

/-- A command that runs beside the script. It runs until it sleeps; when it is woken it is run again
from its start, with what it has found at each waking before. -/
structure Task : Type where
  context : Context
  command : Command
  /-- When it is to be woken. -/
  wake : Nat
  /-- What it has found at its start and at each waking. -/
  found : List Moment := []

/-- The state of a running script or tool. -/
structure Process : Type extends Context, Moment where
  /-- The code of the last command. -/
  status : Nat := 0
  /-- The code of the last script within a word of the command. -/
  substituted : Nat := 0
  /-- While something is run on a signal, the code from before. -/
  interrupted : Option Nat := none
  /-- What runs beside the script, in the order in which it was put aside. -/
  tasks : List Task := []
  /-- Whether it runs beside a script, so that it is put aside when it sleeps. -/
  aside : Bool := false
  /-- What it will find at wakings that are gone through again. -/
  again : List Moment := []
  /-- What runs beside it after the last of those wakings. -/
  beside : List Task := []
  /-- Why a text could not be written. -/
  refused : Option OsError := none

/-- What ends a command early. -/
inductive Jump : Type where
  /-- The script is over; its code is the status. -/
  | exit
  /-- A mistake has ended the command, and whatever does not put up with it. -/
  | failed
  /-- A mistake has ended all commands of the line. -/
  | discarded
  /-- The function is over; its code was given or is that of the command before. -/
  | leave (given : Bool)
  /-- As many loops are over. -/
  | breakOff (loops : Nat)
  /-- The loop that many levels up goes on with its next round. -/
  | nextRound (loops : Nat)
  /-- A signal has ended the process. -/
  | killed (signal : Nat)
  /-- The process sleeps and is put aside. -/
  | asleep
  /-- The script has run for too long. -/
  | exhausted
  deriving Repr, DecidableEq

/-- A step of a script. -/
abbrev Exec : Type → Type :=
  Attempting Process Jump

namespace Process

/-- The location of the working directory. -/
def here? (p : Process) : Option Location :=
  p.tree.locate? p.directory

/-- The path of the working directory. -/
def currentPath? (p : Process) : Option Octets :=
  p.here?.map fun location => Octets.ofText (FileTree.pathOf location)

/-- The stream that a descriptor stands for, with its number. -/
def stream? (p : Process) (descriptor : Nat) : Option (Nat × Stream) := do
  let number ← p.descriptors.lookup descriptor
  pure (number, ← p.streams[number]?)

/-- The process with a stream replaced. -/
def setStream (p : Process) (number : Nat) (stream : Stream) : Process :=
  { p with streams := p.streams.set number stream }

/-- The process with a new stream behind a descriptor. -/
def openStream (p : Process) (descriptor : Nat) (stream : Stream) : Process :=
  { p with
    streams := p.streams ++ [stream]
    descriptors := (descriptor, p.streams.length) :: p.descriptors }

/-- The content of the file at a location. -/
def contentAt (p : Process) (location : Location) : Octets :=
  match p.tree.find? location with
  | some (.file content _) => Octets.ofBytes content
  | _ => []

/-- A content after text was written to it from an offset on. -/
def overwrite (content : Bytes) (offset : Nat) (text : Bytes) : Bytes :=
  if offset = content.length then content ++ text
  else
    let gap := List.replicate (offset - content.length) 0
    content.take offset ++ gap ++ text ++ content.drop (offset + text.length)

/-- The process after text was written to a descriptor. -/
def write (p : Process) (descriptor : Nat) (text : Octets) : Process :=
  if text.isEmpty then p
  else
    match p.stream? descriptor with
    | some (_, .silent) => p
    | some (number, .output written) => p.setStream number (.output (text.reverseAux written))
    | some (number, .file location offset) =>
      match p.tree.find? location with
      | some (.file content mode) =>
        let place := offset.getD content.length
        let p := p.setStream number (.file location (offset.map (· + text.length)))
        let content := overwrite content place text.toBytes
        { p with tree := p.tree.put location (.file content mode) }
      | _ => p
    | some (_, .full) => if descriptor = 2 then p else { p with refused := some .noSpace }
    | some (_, .input _ _) | some (_, .folder) | none =>
      if descriptor = 2 then p else { p with refused := some .badDescriptor }

/-- All that is left to read from a descriptor, and the process after reading it. -/
def readAll (p : Process) (descriptor : Nat) : Octets × Process :=
  match p.stream? descriptor with
  | some (number, .input left size) => (left, p.setStream number (.input [] size))
  | _ => ([], p)

/-- The process with text put back in front of what is left to read from a descriptor. -/
def giveBack (p : Process) (descriptor : Nat) (text : Octets) : Process :=
  match p.stream? descriptor with
  | some (number, .input left size) =>
    p.setStream number (.input (if left.isEmpty then text else text ++ left) size)
  | _ => p

/-- The size of the file that the input comes from. -/
def inputSize? (p : Process) : Option Nat :=
  match p.stream? 0 with
  | some (_, .input _ size) => size
  | _ => none

/-- What is wrong with the input, if it cannot be read. -/
def inputFault? (p : Process) : Option OsError :=
  match p.stream? 0 with
  | some (_, .input _ _) | some (_, .silent) | some (_, .full) => none
  | some (_, .folder) => some .isDirectory
  | _ => some .badDescriptor

/-- The descriptor that a path of the system stands for. -/
def descriptorNamed? (path : Octets) : Option Nat :=
  let digits := path.drop 8
  if path = "/dev/stdin".toList then some 0
  else if path = "/dev/stdout".toList then some 1
  else if path = "/dev/stderr".toList then some 2
  else if "/dev/fd/".toList.isPrefixOf path && !digits.isEmpty && digits.all Char.isDigit then
    some (digits.foldl (fun n d => n * 10 + (d.toNat - '0'.toNat)) 0)
  else none

/-- How much is read from a device that never ends. -/
def plenty : Nat :=
  1048576

/-- As many octets without an order in front of others, given by a number. -/
def arbitraryOctets : Nat → Nat → Octets → Octets
  | 0, _, rest => rest
  | n + 1, seed, rest =>
    let next := (seed * 1103515245 + 12345) % 4294967296
    arbitraryOctets n next (Char.ofNat (next / 65536 % 256) :: rest)

/-- What is read from a device. -/
def readDevice (p : Process) (path : Octets) : Octets :=
  if path = "/dev/zero".toList || path = "/dev/full".toList then List.replicate plenty '\x00'
  else if path = "/dev/urandom".toList || path = "/dev/random".toList then
    arbitraryOctets plenty (p.nextNumber * 2654435761 + p.clock + 97 * p.line) []
  else []

/-- The content of the file that a path leads to, or what is left to read from the descriptor that
it stands for. -/
def readFile (p : Process) (path : Octets) : Except OsError Octets := do
  match (descriptorNamed? path).bind p.stream? with
  | some (_, .input left _) => pure left
  | _ =>
    match ← p.tree.entryAt p.here? path.toText with
    | .file content _ => pure (Octets.ofBytes content)
    | .directory _ => throw .isDirectory
    | .sink => pure (p.readDevice path)
    | .program _ | .link _ => pure []

/-- The process with its tree changed, if the change succeeds. -/
def edit (p : Process) (change : FileTree → Option Location → Except OsError FileTree) :
    Except OsError Process := do
  pure { p with tree := ← change p.tree p.here? }

/-- The permissions of a new file. -/
def fileMode (p : Process) : Nat :=
  0o666 - (0o666 &&& p.mask)

/-- The process after a file was written, which is made if it is missing. Where the path stands for
a descriptor the text is written to that. -/
def save (p : Process) (path : Octets) (content : Bytes) : Except OsError Process :=
  match (descriptorNamed? path).filter fun descriptor => (p.stream? descriptor).isSome with
  | some descriptor => .ok (p.write descriptor (Octets.ofBytes content))
  | none => p.edit fun t here => t.writeFile here path.toText content p.fileMode

/-- The serial number of the directory that a path leads to. -/
def directoryAt (p : Process) (path : Octets) : Except OsError Nat := do
  match ← p.tree.entryAt p.here? path.toText with
  | .directory serial => pure serial
  | _ => throw .notDirectory

/-- What was written to a stream. -/
def writtenTo (p : Process) (number : Nat) : Octets :=
  match p.streams[number]? with
  | some (.output written) => written.reverse
  | _ => []

/-- Whether an option of the shell is on. -/
def isOn (p : Process) (option : Char) : Bool :=
  p.options.contains option

end Process

/-- A number as octets. -/
def decimal (n : Nat) : Octets :=
  (toString n).toList

/-- Writes text to the output. -/
def say (text : Octets) : StateM Process Unit :=
  modify (·.write 1 text)

/-- Writes text to the stream for errors. -/
def sayError (text : Octets) : StateM Process Unit :=
  modify (·.write 2 text)

/-- What the script is called where it complains: a function in a script that stands among the
arguments of the rich shell has another name. -/
def Process.title (p : Process) : Octets :=
  p.source.getD (if p.inline && !p.calls.isEmpty then "environment".toList else p.name)

/-- Writes a line about an error in the script: its name, the line, whose text is being run, and
the message. -/
def complain (message : Octets) : StateM Process Unit := do
  let p ← get
  match p.dialect with
  | .plain =>
    sayError (p.name ++ ": ".toList ++ decimal p.line ++ ": ".toList ++ p.within ++ message ++
      ['\n'])
  | .rich =>
    -- Before its first line a script has none.
    let place := if p.line = 0 then [] else "line ".toList ++ decimal p.line ++ ": ".toList
    sayError (p.title ++ ": ".toList ++ place ++ p.within ++ message ++ ['\n'])

/-- Sets the code of the last command. -/
def setStatus (code : Nat) : Exec Unit :=
  modify fun p => { p with status := code }

/-- Complains about a mistake and ends the command with a code. -/
def failWith {α : Type} (code : Nat) (message : Octets) : Exec α := do
  complain message
  setStatus code
  throw .failed

/-- Complains about a mistake and ends the command. -/
def fail {α : Type} (message : Octets) : Exec α :=
  failWith 2 message

/-- Complains about a mistake and ends all commands of the line. -/
def discard {α : Type} (message : Octets) : Exec α := do
  complain message
  setStatus 1
  throw .discarded

/-- Complains about a mistake that ends the script. In the rich shell the code tells a script that
stands among its arguments from others. -/
def abandon {α : Type} (message : Octets) : Exec α := do
  complain message
  let p ← get
  setStatus (if p.inline && p.number = p.shell then 127 else 1)
  throw .exit

end Fleet.Shell
