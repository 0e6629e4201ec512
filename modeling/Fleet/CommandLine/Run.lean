import Fleet.CommandLine.Report

/-!
# Carrying out requests

From the arguments of the program to what it prints and its exit code. A project is loaded and made
ready before its actions are looked at. Repositories are gone through one by one, and the command
line of one has run before that of the next is assembled.
-/

namespace Fleet.CommandLine

/-- The version of the program. -/
def version : String :=
  "0.1.0"

/-- Prints lines. -/
def printLines (lines : List String) : StateM World Unit :=
  lines.forM fun line => modify (·.print (line ++ "\n"))

/-- Prints a line to the stream for errors. -/
def printErrorLine (line : String) : StateM World Unit :=
  modify (·.printError (line ++ "\n"))

/-- How many repositories were gone through, and how many of them failed. -/
structure Tally : Type where
  total : Nat := 0
  failed : Nat := 0
  deriving Repr, DecidableEq

namespace Tally

/-- The tally after one more repository. -/
def count (t : Tally) (success : Bool) : Tally :=
  ⟨t.total + 1, if success then t.failed else t.failed + 1⟩

end Tally

/-- What running needs to know besides the commands. -/
structure Manner : Type where
  host : Host
  coloured : Bool
  /-- Show each command line before it runs. -/
  debug : Bool
  /-- Go on after a failure. -/
  keepGoing : Bool

namespace Manner

/-- Runs the command line of a repository in its directory. -/
def runOne (m : Manner) (a : Assignment) : Attempting World Failure Unit := do
  printLines [paint m.coloured .mark "→" ++ " " ++ paint m.coloured .heading a.repository]
  if m.debug then printLines ["  " ++ paint m.coloured .faint (Words.display a.words)]
  ExceptT.adapt (.execution a.repository) (m.host.execute a.words a.directory)

/-- Runs what a sweep has come up with, if it has come up with a command line. -/
def runItem (m : Manner) : Except SweepError Assignment → Attempting World Failure Unit
  | .ok a => m.runOne a
  | .error e => throw (.sweep e)

/-- Runs what a sweep has come up with; says whether that succeeded. A failure is told and put up
with if one is to go on. -/
def attemptItem (m : Manner) (item : Except SweepError Assignment) :
    Attempting World Failure Bool :=
  tryCatch (do m.runItem item; pure true) fun e =>
    if m.keepGoing then do
      printErrorLine (paint m.coloured .bad "✗" ++ " " ++ e.line m.coloured)
      pure false
    else throw e

/-- Runs at most the given number of items of a sweep, and counts them. -/
def runAll (m : Manner) : Nat → Sweep → Tally → Attempting World Failure Tally
  | 0, _, tally => pure tally
  | n + 1, s, tally => do
    match ← (s.next m.host : StateM World _) with
    | (none, _) => pure tally
    | (some item, s) => do
      let success ← m.attemptItem item
      m.runAll n s (tally.count success)

end Manner

/-- A sweep for an order. -/
def Order.sweep (o : Order) (p : Project) (w : World) : Sweep :=
  Sweep.start p o.commands (o.selection p) o.overrides w

/-- Runs the commands of an order in its repositories. -/
def execute (host : Host) (coloured : Bool) (p : Project) (o : Order) (keepGoing : Bool) :
    Attempting World Failure Unit := do
  let s := o.sweep p (← get)
  let manner : Manner := ⟨host, coloured, o.overrides.debug.getD false, keepGoing⟩
  let tally ← manner.runAll s.size s {}
  if tally.total = 0 then
    printLines [paint coloured .note "No repository selected. Nothing to execute."]
  else if tally.failed ≠ 0 then throw (.some tally.failed tally.total)

/-- The command lines that at most the given number of items of a sweep come to. The first failure
ends this. -/
def gather (host : Host) : Nat → Sweep → Attempting World Failure (List Assignment)
  | 0, _ => pure []
  | n + 1, s => do
    match ← (s.next host : StateM World _) with
    | (none, _) => pure []
    | (some (.error e), _) => throw (.sweep e)
    | (some (.ok a), s) => do pure (a :: (← gather host n s))

/-- Shows what an order would run. -/
def plan (host : Host) (coloured : Bool) (p : Project) (o : Order) (json : Bool) :
    Attempting World Failure Unit := do
  let s := o.sweep p (← get)
  let items ← gather host s.size s
  printLines (if json then [planJson items] else items.map (planLine coloured))

/-- Carries out a request for a project. -/
def Request.perform (host : Host) (coloured : Bool) (p : Project) :
    Request → Attempting World Failure Unit
  | execute order keepGoing => CommandLine.execute host coloured p order keepGoing
  | list attributes => do printLines (projectLines coloured attributes (← get) p)
  | plan order json => CommandLine.plan host coloured p order json

/-- Carries out the action that arguments name, or shows the actions if there are none. -/
def dispatch (host : Host) (coloured : Bool) (p : Project) :
    List String → Attempting World Failure Unit
  | [] => printLines (actionLines coloured)
  | name :: arguments =>
    match Action.ofName? name with
    | none => throw (.unknownAction name)
    | some action =>
      match action.request arguments with
      | .ok request => request.perform host coloured p
      | .error .usage => throw (.usage action)
      | .error _ => printLines [helpText (some action)]

/-- Loads the project of a configuration file, or without one the nearest project. -/
def loadProject (w : World) (e : Environment) (config : Option String) :
    Except Failure Project := do
  let loaded ←
    match config with
    | some path => (Project.load w path).mapError Failure.load
    | none => do
      let start ← w.currentPath.mapError .noWorkingDirectory
      (Project.discover w start).mapError .load
  (loaded.ready e).mapError .load

/-- Carries out what arguments ask for, once the options before the action have been read. -/
def perform (host : Host) (e : Environment) (coloured : Bool) (r : Reading) :
    Attempting World Failure Unit := do
  match loadProject (← get) e (r.value? "config") with
  | .error failure => throw failure
  | .ok p => dispatch host coloured p r.rest

/-- Carries out what arguments ask for. The result is the exit code. -/
def run (host : Host) (e : Environment) (arguments : List String) : StateM World Nat := do
  match topGrammar.read arguments with
  | .error .help => do
    printLines [helpText none]
    pure 0
  | .error .version => do
    printLines [programName ++ " " ++ version]
    pure 0
  | .error .usage => do
    printErrorLine (usageMessage none)
    pure 2
  | .ok r =>
    let coloured := wantsColours e
    match ← (perform host e coloured r).run with
    | .ok () => pure 0
    | .error failure => do
      printErrorLine ("\n" ++ paint coloured .alarm "Error" ++ ": " ++ failure.line coloured)
      pure failure.exitCode

end Fleet.CommandLine
