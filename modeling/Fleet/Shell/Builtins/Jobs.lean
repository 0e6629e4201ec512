import Fleet.Shell.Letters
import Fleet.Shell.Signals

/-!
# Jobs

The commands that a script has started to run beside it: listing them, naming them, and sending
signals to processes.
-/

namespace Fleet.Shell.Jobs

/-- A process that notices which of its jobs have ended. -/
def notice (p : Process) : Process :=
  { p with jobs := p.jobs.map fun job =>
    { job with ending := job.ending.or (p.ended.lookup job.process) } }

/-- Whether a job is over and was waited for, so that its place can be taken. -/
def isSpent (job : Job) : Bool :=
  job.ending.isSome && job.waited

/-- The process after the first place of a job that is over was made free. -/
def clearPlace (p : Process) : Process :=
  match ((p.jobs.filter isSpent).map Job.place).min? with
  | some place => { p with jobs := p.jobs.filter (·.place != place) }
  | none => p

/-- The process with a new job. -/
def add (p : Process) (process size : Nat) : Process :=
  let p := clearPlace p
  let taken := p.jobs.map Job.place
  let place := ((List.range (taken.length + 1)).find? fun n => !taken.contains (n + 1)).getD 0 + 1
  { p with jobs := { place, process, size } :: p.jobs, latest := some process }

/-- The job that an argument names; the latest one without an argument. -/
def named (controlled : Bool) (argument : Option Octets) : Exec Job := do
  let jobs := (← get).jobs
  let shown := argument.getD "(null)".toList
  let missing {α : Type} : Exec α := fail ("No such job: ".toList ++ shown)
  let current {α : Type} (which : String) : Exec α :=
    fail ("No ".toList ++ which.toList ++ " job".toList)
  let job ←
    match argument with
    | none | some ['%'] | some ['%', '+'] | some ['%', '%'] =>
      match jobs with
      | job :: _ => pure job
      | [] => current "current"
    | some ['%', '-'] =>
      match jobs with
      | _ :: job :: _ => pure job
      | _ => current "previous"
    | some ('%' :: text) =>
      match (natural? text).bind fun n => jobs.find? (·.place == n) with
      | some job => pure job
      | none =>
        -- The text of a job is not known; only an empty part is found in it.
        match text, jobs with
        | ['?'], [job] => pure job
        | ['?'], _ :: _ :: _ => fail (shown ++ ": ambiguous".toList)
        | _, _ => missing
    | some _ => missing
  if controlled then fail ("job ".toList ++ shown ++ " not created under job control".toList)
  pure job

/-- What a job is doing. -/
def state (job : Job) : Octets :=
  match job.ending with
  | none => "Running".toList
  | some (.code 0) => "Done".toList
  | some (.code n) => "Done(".toList ++ decimal n ++ [')']
  | some (.signal n) => (epitaph n).toList

/-- A job in a line; `mark` says which of the jobs it is, the latest or the one before that. -/
def line (withNumber : Bool) (mark : Char) (job : Job) : Octets :=
  let head := '[' :: decimal job.place ++ "] ".toList ++ [mark, ' '] ++
    (if withNumber then decimal job.process ++ [' '] else []) ++ state job
  let bars := (List.replicate (job.size - 1) " | ".toList).flatten
  head ++ List.replicate (max 1 (33 - head.length)) ' ' ++ bars ++ ['\n']

/-- Shows a job; one that is over is forgotten then. -/
def showOne (letter : Option Char) (job : Job) : Exec Unit := do
  let p ← get
  let place := p.jobs.findIdx (·.place == job.place)
  let mark := if place = 0 then '+' else if place = 1 then '-' else ' '
  let text :=
    if letter = some 'p' then decimal job.process ++ ['\n']
    else line (letter == some 'l') mark job
  (say text : StateM Process Unit)
  if letter ≠ some 'p' && job.ending.isSome then
    modify fun p => { p with jobs := p.jobs.filter (·.place != job.place) }

/-- Shows jobs. -/
def list (arguments : List Octets) : Exec Unit := do
  let (options, names) ← Letters.take ⟨['l', 'p'], []⟩ arguments
  let letter := (options.map Prod.fst).getLast?
  setStatus 0
  modify notice
  if names.isEmpty then (← get).jobs.forM (showOne letter)
  else names.forM fun name => do showOne letter (← named false (some name))

/-- Refuses to move a job, since no job is under control. -/
def move (arguments : List Octets) : Exec Unit := do
  let names ← noOptions arguments
  let _ ← named true names.head?
  pure ()

/-- What a process does on a signal: nothing, or what is to be run, or it ends. -/
inductive Reaction : Type where
  | nothing
  | run
  | die
  deriving Repr, DecidableEq

/-- What a process with certain traps does on a signal; some signals may be ignored besides. -/
def reaction (traps : List (Nat × Octets)) (ignored : List Nat) (signal : Nat) : Reaction :=
  match (traps.lookup signal).filter fun _ => !ruthlessSignals.contains signal with
  | some action => if action.isEmpty then .nothing else .run
  | none => if harmlessSignals.contains signal || ignored.contains signal then .nothing else .die

/-- The signals that a command beside a script ignores. -/
def ignoredAside : List Nat :=
  [2, 3]

/-- Sends a signal to a process; says whether there is one of that number. -/
def send (signal number : Nat) : Exec Bool := do
  let p ← get
  if number = p.number then
    match reaction p.traps [] signal with
    | .nothing => pure ()
    | .run => modify fun p => { p with signals := p.signals ++ [(number, signal)] }
    | .die => throw (.killed signal)
    pure true
  else
    match p.tasks.find? (·.context.number == number) with
    | some task => do
      match reaction task.context.traps ignoredAside signal with
      | .nothing => pure ()
      | .run => modify fun p => { p with signals := p.signals ++ [(number, signal)] }
      | .die =>
        modify fun p =>
          { p with
            tasks := p.tasks.filter (·.context.number != number)
            ended := (number, .signal signal) :: p.ended }
      pure true
    | none =>
      if p.ancestors.contains number then
        modify fun p => { p with signals := p.signals ++ [(number, signal)] }
        pure true
      else
        pure (number = 1 || p.jobs.any fun job => job.process == number && job.ending.isNone)

/-- Names the signals, all or that of a number or of the code of a process. -/
def nameSignals (arguments : List Octets) : Exec Unit :=
  match arguments with
  | [] =>
    (say ("0\n".toList ++ (signals.map fun (name, _) => name.toList ++ ['\n']).flatten) :
      StateM Process Unit)
  | argument :: _ => do
    let n ← naturalOf argument
    let n := if 128 < n then n - 128 else n
    if 0 < n && n < signalBound then
      (say ((signalName n).toList ++ ['\n']) : StateM Process Unit)
    else fail ("invalid signal number or exit status: ".toList ++ argument)

/-- Sends a signal to the processes and jobs that arguments name. -/
def sendAll (signal : Nat) (targets : List Octets) : Exec Unit :=
  targets.forM fun target => do
    let number ←
      match target with
      | '%' :: _ => do
        let _ ← named false (some target)
        -- A job is no group of processes.
        pure none
      | '-' :: rest => do
        let _ ← naturalOf rest
        pure none
      | target => do pure (some (← naturalOf target))
    let sent ← match number with
      | some number => send signal number
      | none => pure false
    if !sent then
      complain "No such process\n".toList
      setStatus 1

/-- What the builtin `kill` is used like. -/
def usage : Octets :=
  "Usage: kill [-s sigspec | -signum | -sigspec] [pid | job]... or\nkill -l [exitstatus]".toList

/-- Sends signals, or names them. -/
def kill (arguments : List Octets) : Exec Unit := do
  setStatus 0
  let direct := match arguments with
    | ('-' :: name) :: _ => (signal? false name).filter fun n => n ≠ 0 || name = ['0']
    | _ => none
  match direct with
  | some signal =>
    if arguments.length < 2 then fail usage else sendAll signal arguments.tail
  | none => do
    let (options, rest) ← Letters.take ⟨['l'], ['s']⟩ arguments
    let chosen := (options.filter (·.1 == 's')).map Prod.snd
    let listing := options.any (·.1 == 'l')
    let signals ← chosen.mapM fun name =>
      match signal? false name with
      | some signal => pure signal
      | none => fail ("invalid signal number or name: ".toList ++ name)
    match listing, signals.getLast? with
    | true, none => nameSignals rest
    | true, some _ => if rest.isEmpty then nameSignals rest else fail usage
    | false, signal => if rest.isEmpty then fail usage else sendAll (signal.getD 15) rest

end Fleet.Shell.Jobs
