import Fleet.Shell.Expansion
import Fleet.Shell.Signals
import Fleet.Tools.Basic

/-!
# Surroundings of a command

The files that a command has open, the process it runs in, and what is put back when it is over.
-/

namespace Fleet.Shell

/-- Runs a command, after which, however it ends, something is put back. -/
def puttingBack (back : Process → Process) (command : Exec Unit) : Exec Unit := do
  tryCatch command fun jump => do
    modify back
    throw jump
  modify back

/-- Runs a command while complaints name what its text is part of. -/
def naming (within : Octets) (command : Exec Unit) : Exec Unit := do
  let outer := (← get).within
  modify fun p => { p with within }
  puttingBack (fun p => { p with within := outer }) command

/-- Runs a loop. -/
def inLoop (loop : Exec Unit) : Exec Unit := do
  let outer := (← get).loops
  modify fun p => { p with loops := outer + 1 }
  puttingBack (fun p => { p with loops := outer }) loop

/-- Runs a tool. -/
def runTool (tool : Tools.Tool) (arguments : List Octets) : Exec Unit := do
  setStatus (← (tool arguments : StateM Process Nat))

/-- What the shell says about a file that it cannot read or write. -/
def openFault (creating : Bool) (e : OsError) : String :=
  match e, creating with
  | .noSuchFile, false | .notDirectory, false => "No such file"
  | .noSuchFile, true | .notDirectory, true => "Directory nonexistent"
  | e, _ => e.description

/-- A redirection whose words have been worked out. -/
inductive Target : Type where
  | read (descriptor : Nat) (path : Octets)
  | update (descriptor : Nat) (path : Octets)
  | write (descriptor : Nat) (opening : Opening) (path : Octets)
  /-- Uses what another descriptor stands for; the word that names it is shown where there is none.
  -/
  | copy (descriptor source : Nat) (shown : Octets)
  | close (descriptor : Nat)
  | document (descriptor : Nat) (text : Octets)
  /-- Writes both what is printed and what is said about errors to a file. -/
  | both (opening : Opening) (path : Octets)
  /-- Opens a free descriptor and keeps its number in a variable. -/
  | named (name : Octets) (target : Target)
  /-- Closes the descriptor whose number a variable holds. -/
  | closeNamed (name : Octets)
  deriving Repr

/-- A word much as it stands in the script. -/
def spelled : Word → Octets
  | [] => []
  | .text octets true :: rest => '"' :: octets ++ '"' :: spelled rest
  | .text octets false :: rest => octets ++ spelled rest
  | .parameter (.named name) .value quoted :: rest =>
    let text := '$' :: name
    (if quoted then '"' :: text ++ ['"'] else text) ++ spelled rest
  | _ :: rest => spelled rest

/-- Says that a word does not name one file. -/
def ambiguous {α : Type} (word : Word) : Exec α :=
  failWith 1 (spelled word ++ ": ambiguous redirect".toList)

/-- The path of the file that a word of a redirection names. -/
def fileNamed (run : List Command → Exec Octets) (fuel : Nat) (file : Word) : Exec Octets := do
  match (← get).dialect with
  | .plain => expandText run fuel .start file
  | .rich =>
    match ← expandFields run fuel file with
    | [path] => pure path
    | _ => ambiguous file

/-- What a redirection is about that uses what another descriptor stands for. -/
def sourceNamed (run : List Command → Exec Octets) (fuel descriptor : Nat) (source : Word) :
    Exec Target := do
  let text ← expandText run fuel .start source
  let isNumber := !text.isEmpty && text.all Char.isDigit
  match (← get).dialect, text with
  | _, ['-'] => pure (.close descriptor)
  | .plain, [d] => do
    if d.isDigit then pure (.copy descriptor (d.toNat - '0'.toNat) text)
    else fail "Syntax error: Bad fd number".toList
  | .plain, _ => fail "Syntax error: Bad fd number".toList
  | .rich, _ =>
    if isNumber then pure (.copy descriptor (numberOf text) (spelled source))
    else ambiguous source

/-- Works out the words of a redirection. -/
def targetOf (run : List Command → Exec Octets) (fuel : Nat) : Redirection → Exec Target
  | .read descriptor file => do pure (.read descriptor (← fileNamed run fuel file))
  | .update descriptor file => do pure (.update descriptor (← fileNamed run fuel file))
  | .write descriptor opening file => do
    pure (.write descriptor opening (← fileNamed run fuel file))
  | .document descriptor text => do
    pure (.document descriptor (← expandText run fuel .nowhere text))
  | .copy descriptor _ source => sourceNamed run fuel descriptor source
  | .line descriptor word => do
    pure (.document descriptor ((← expandText run fuel .start word) ++ ['\n']))
  | .both opening file => do pure (.both opening (← fileNamed run fuel file))
  | .duplicate word => do
    let text ← expandText run fuel .start word
    if text = ['-'] then pure (.close 1)
    else if !text.isEmpty && text.all Char.isDigit then
      pure (.copy 1 (numberOf text) (spelled word))
    else pure (.both .fresh (← fileNamed run fuel word))
  | .naming name redirection => do
    match ← targetOf run fuel redirection with
    | .close _ => pure (.closeNamed name)
    | target => pure (.named name target)

/-- The stream for writing to the file that a path leads to, and the process once it is open. -/
def openForWriting (p : Process) (descriptor : Nat) (opening : Opening) (path : Octets) :
    Except OsError Process := do
  let location ← p.tree.targetOf p.here? FileTree.linkLimit path.toText
  match p.tree.find? location with
  | some .sink =>
    pure (p.openStream descriptor (if location = ["dev", "full"] then .full else .silent))
  | found =>
    if opening = .fresh && p.isOn 'C' && found.isSome then throw .fileExists
    let kept := if opening = .append && found.isSome then p.contentAt location else []
    let p ← p.edit fun t here => t.writeFile here path.toText kept.toBytes p.fileMode
    pure (p.openStream descriptor (.file location (if opening = .append then none else some 0)))

/-- The process once the file that a path leads to is open for reading. -/
def openForReading (p : Process) (descriptor : Nat) (path : Octets) : Except OsError Process :=
  match p.readFile path with
  | .ok text => .ok (p.openStream descriptor (.input text (some text.length)))
  | .error .isDirectory => .ok (p.openStream descriptor .folder)
  | .error e => .error e

/-- The process once the file that a path leads to, which is made if it is missing, is open for
reading and writing. -/
def openForUpdate (p : Process) (descriptor : Nat) (path : Octets) : Except OsError Process := do
  let location ← p.tree.targetOf p.here? FileTree.linkLimit path.toText
  let kept := p.contentAt location
  let p ← p.edit fun t here => t.writeFile here path.toText kept.toBytes p.fileMode
  if descriptor = 0 then openForReading p descriptor path
  else pure (p.openStream descriptor (.file location (some 0)))

/-- The process with a descriptor that stands for what another one stands for. -/
def copyDescriptor? (p : Process) (descriptor source : Nat) : Option Process :=
  (p.stream? source).map fun (number, _) =>
    { p with
      descriptors := (descriptor, number) :: p.descriptors.filter (·.1 != descriptor) }

/-- The process after it has closed a descriptor. -/
def closeDescriptor (p : Process) (descriptor : Nat) : Process :=
  { p with descriptors := p.descriptors.filter (·.1 != descriptor) }

/-- The first descriptor that is free among those for variables. -/
def freeDescriptor (p : Process) : Nat :=
  ((List.range 64).find? fun n => (p.descriptors.lookup (n + 10)).isNone).getD 63 + 10

/-- Says that a file cannot be opened. -/
def refuseFile (creating : Bool) (path : Octets) (e : OsError) : Exec Unit := do
  match (← get).dialect with
  | .plain =>
    let complaint := if creating then "cannot create " else "cannot open "
    fail (complaint.toList ++ path ++ ": ".toList ++ (openFault creating e).toList)
  | .rich =>
    let what := if creating && e = .fileExists then "cannot overwrite existing file"
      else e.description
    failWith 1 (path ++ ": ".toList ++ what.toList)

/-- Uses what another descriptor stands for. -/
def copyTo (descriptor source : Nat) (missing : Exec Unit) : Exec Unit := do
  match copyDescriptor? (← get) descriptor source with
  | some p => set p
  | none => missing

/-- Says that a descriptor stands for nothing. -/
def refuseDescriptor (shown : Octets) : Exec Unit := do
  let message := shown ++ ": Bad file descriptor".toList
  match (← get).dialect with
  | .plain => fail message
  | .rich => failWith 1 message

/-- Opens the file that a redirection is about; the descriptor may be chosen freely. -/
def openAs (chosen : Option Nat) : Target → Exec Unit
  | .read descriptor path => do
    let descriptor := chosen.getD descriptor
    match Process.descriptorNamed? path with
    | some source => copyTo descriptor source (refuseFile false path .noSuchFile)
    | none => settle path false (openForReading (← get) descriptor path)
  | .update descriptor path => do
    settle path true (openForUpdate (← get) (chosen.getD descriptor) path)
  | .write descriptor opening path => writeTo (chosen.getD descriptor) opening path
  | .document descriptor text => modify (·.openStream (chosen.getD descriptor) (.input text))
  | .close descriptor => modify (closeDescriptor · descriptor)
  | .copy descriptor source shown => copyTo (chosen.getD descriptor) source (refuseDescriptor shown)
  | .both opening path => do
    writeTo 1 opening path
    copyTo 2 1 (refuseDescriptor ['1'])
  | .named name target => do
    let descriptor := freeDescriptor (← get)
    openAs (some descriptor) target
    modify fun p => { p with kept := descriptor :: p.kept }
    store name none false (decimal descriptor)
  | .closeNamed name => do
    match ((← get).valueOf? name).bind natural? with
    | some descriptor =>
      modify fun p => { closeDescriptor p descriptor with kept := p.kept.filter (· != descriptor) }
    | none => failWith 1 (name ++ ": Bad file descriptor".toList)
where
  /-- Goes on with a file that was opened. -/
  settle (path : Octets) (creating : Bool) (opened : Except OsError Process) : Exec Unit :=
    match opened with
    | .ok p => set p
    | .error e => refuseFile creating path e
  /-- Opens a file for writing. -/
  writeTo (descriptor : Nat) (opening : Opening) (path : Octets) : Exec Unit := do
    match Process.descriptorNamed? path with
    | some source => copyTo descriptor source (refuseFile true path .noSuchFile)
    | none => settle path true (openForWriting (← get) descriptor opening path)

/-- Opens the file that a redirection is about. -/
def openTarget : Target → Exec Unit :=
  openAs none

/-- The process with the descriptors that it had before a command; those that variables name stay.
-/
def restoringDescriptors (before : List (Nat × Nat)) (p : Process) : Process :=
  let kept := p.kept.filterMap fun n => (p.descriptors.lookup n).map fun stream => (n, stream)
  { p with descriptors := kept ++ before.filter fun (n, _) => !p.kept.contains n }

/-- Opens files one after the other; says whether all could be opened. -/
def openAll (targets : List Target) : Exec Bool :=
  tryCatch (do
    targets.forM openTarget
    pure true) fun
    | .failed => pure false
    | jump => throw jump

/-- Runs a step as a process of its own, with a copy of everything but what is shared. Says which
signal has ended it, if one has. -/
def inCopy (step : Exec Unit) : Exec (Option Nat) := do
  let before := (← get).toContext
  let restore : Exec Unit := modify fun p =>
    { p with toContext := before, status := p.status % 256 }
  modify fun p =>
    { p with
      number := p.nextNumber
      nextNumber := p.nextNumber + 1
      ancestors := p.number :: p.ancestors
      traps := Traps.handedOn p
      jobs := [] }
  let fate : Option Nat ← tryCatch (do
    step
    pure none) fun
    | .killed signal => pure (some signal)
    | .exhausted => throw .exhausted
    | .asleep => do
      restore
      throw .asleep
    | _ => pure none
  restore
  match fate with
  | some signal => do
    setStatus (128 + signal)
    -- Whatever was to be ended by now is ended.
    let p ← get
    if p.deadline.any (· ≤ p.clock) then throw (.killed p.timeSignal)
  | none => pure ()
  -- The end of a process is a signal to the one that has started it.
  modify fun p =>
    if (p.traps.lookup 17).isSome && !p.signals.contains (p.number, 17) then
      { p with signals := p.signals ++ [(p.number, 17)] }
    else p
  pure fate

/-- What a step writes to its output when it runs as a process of its own, and the signal that has
ended it, if one has. -/
def captured (step : Exec Unit) : Exec (Octets × Option Nat) := do
  let number := (← get).streams.length
  let fate ← inCopy do
    modify (·.openStream 1 (.output []))
    step
  pure ((← get).writtenTo number, fate)

end Fleet.Shell
