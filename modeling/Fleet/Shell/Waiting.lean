import Fleet.Shell.Builtins
import Fleet.Shell.Builtins.Jobs
import Fleet.Shell.Surroundings

/-!
# Running beside a script

What runs beside a script, and how a script waits for it.
-/

/-!
## What runs beside a script

Commands that run beside a script are kept as tasks. A task is run when it is its turn, until it
sleeps. A command that sleeps is put aside; when it is woken it is run again from its start, and at
each waking that it goes through again it finds what it has found there before.
-/

namespace Fleet.Shell

/-- The task that is to be woken first, if not after a time; of several the first. -/
def nextTask? (tasks : List Task) (time : Option Nat) : Option Task :=
  let due := tasks.filter fun task => time.all fun time => task.wake ≤ time
  due.foldl (fun best task =>
    match best with
    | some other => if task.wake < other.wake then some task else best
    | none => some task) none

/-- The tasks without one of them. -/
def withoutTask (tasks : List Task) (task : Task) : List Task :=
  tasks.filter fun other => other.context.number != task.context.number

/-- The process of a task when it is woken: it starts from what it has found first. -/
def Process.ofTask (p : Process) (task : Task) : Process :=
  let now : Moment := { p.toMoment with clock := max p.clock task.wake }
  let others := withoutTask p.tasks task
  match task.found with
  | [] => { task.context, now with aside := true, tasks := others }
  | first :: later =>
    { task.context, first with aside := true, again := later ++ [now], beside := others }

/-- The process after one of its tasks was run: the task is asleep, or it has ended somehow. What is
left of the process of the task is given. -/
def Process.afterTask (p : Process) (task : Task) (ending : Option Ending) (after : Process) :
    Process :=
  let now : Moment := { p.toMoment with clock := max p.clock task.wake }
  let moment : Moment := { after.toMoment with clock := now.clock }
  let p : Process := { p with toMoment := moment, tasks := after.tasks }
  match ending with
  | some ending => { p with ended := (task.context.number, ending) :: p.ended }
  | none =>
    { p with
      tasks := p.tasks ++ [{ task with wake := after.clock, found := task.found ++ [now] }] }

/-- Puts a command aside until a time, or goes through a waking again. -/
def sleepAside (time : Nat) : Exec Unit := do
  let p ← get
  match p.again with
  | [] => do
    set { p with clock := time }
    throw .asleep
  | [found] => set { p with toMoment := found, again := [], tasks := p.beside, beside := [] }
  | found :: again => set { p with toMoment := found, again, tasks := [] }

/-- The process with a command that was started to run beside it, which consists of as many
processes as `size` says. -/
def Process.startTask (p : Process) (command : Command) (size : Nat) : Process :=
  let number := p.nextNumber + (size - 1)
  let context : Context :=
    { p.toContext with
      number
      ancestors := p.number :: p.ancestors
      traps := Traps.handedOn p
      jobs := []
      descriptors := (0, p.streams.length) :: p.descriptors }
  let task : Task := { context, command, wake := p.clock }
  Jobs.add
    { p with
      streams := p.streams ++ [.silent], nextNumber := number + 1, tasks := p.tasks ++ [task] }
    number size

/-- Whether a signal has arrived on which the script has said that something is to be run. -/
def Process.calls? (p : Process) : Option Nat :=
  let own := (p.signals.filter (·.1 == p.number)).map Prod.snd
  (own.filter fun signal => Jobs.reaction p.traps [] signal == .run).min?

/-- Ends the process if a signal has arrived that does so. -/
def heedSignals : Exec Unit := do
  let p ← get
  let own := (p.signals.filter (·.1 == p.number)).map Prod.snd
  match own.find? fun signal => Jobs.reaction p.traps [] signal == .die with
  | some signal => do
    set { p with signals := p.signals.filter (·.1 != p.number) }
    throw (.killed signal)
  | none => pure ()

end Fleet.Shell

/-!
## Waiting

Waiting for what a script has started to run beside it. What lets time pass until something is so is
given; it says whether no signal has come in between.
-/

namespace Fleet.Shell.Waiting

/-- Waits for what the script has started to run beside it, one after the other. -/
def each (till : (Process → Bool) → Exec Bool) : List Octets → Exec Unit
  | [] => pure ()
  | name :: rest => do
    let job? : Option Job ←
      if name.head? == some '%' then do pure (some (← Jobs.named false (some name)))
      else do
        let number ← naturalOf name
        pure ((← get).jobs.find? (·.process == number))
    match job? with
    | none => each till rest
    | some job => do
      let isOver (p : Process) : Bool :=
        job.ending.isSome || (p.ended.lookup job.process).isSome
      if ← till isOver then
        modify Jobs.notice
        let ending := job.ending.or ((← get).ended.lookup job.process)
        if job.ending.isNone then
          (sayEpitaph (ending.getD (.code 0)) : StateM Process Unit)
        modify fun p =>
          { p with
            status := (ending.getD (.code 0)).status
            jobs := p.jobs.map fun other =>
              if other.place = job.place then { other with waited := true } else other }
        each till rest
      else setStatus (128 + ((← get).calls?).getD 0)

/-- Waits for what the script has started to run beside it. -/
def run (till : (Process → Bool) → Exec Bool) (arguments : List Octets) : Exec Unit := do
  let names ← noOptions arguments
  let interrupted : Exec Unit := do setStatus (128 + ((← get).calls?).getD 0)
  if names.isEmpty then
    let isOver (p : Process) : Bool :=
      p.jobs.all fun job => job.ending.isSome || (p.ended.lookup job.process).isSome
    if ← till isOver then
      modify Jobs.notice
      modify fun p =>
        { p with status := 0, jobs := p.jobs.map fun job => { job with waited := true } }
    else interrupted
  else
    setStatus 127
    each till names

/-- Waits in the rich shell for what the script has started to run beside it. -/
def runRich (till : (Process → Bool) → Exec Bool) (arguments : List Octets) : Exec Unit := do
  let (options, names) ← Letters.take ⟨['f', 'n'], ['p']⟩ arguments
  let interrupted : Exec Unit := do setStatus (128 + ((← get).calls?).getD 0)
  let forget (process : Nat) : Exec Unit :=
    modify fun p => { p with jobs := p.jobs.filter (·.process != process) }
  let endedFirst (p : Process) : Option (Nat × Ending) :=
    p.jobs.reverse.findSome? fun job =>
      (p.ended.lookup job.process).map fun ending => (job.process, ending)
  if (options.lookup 'n').isSome then
    if (← get).jobs.isEmpty then setStatus 127
    else if ← till fun p => (endedFirst p).isSome then
      match endedFirst (← get) with
      | some (process, ending) => do
        forget process
        setStatus ending.status
      | none => setStatus 127
    else interrupted
  else if names.isEmpty then
    let isOver (p : Process) : Bool :=
      p.jobs.all fun job => (p.ended.lookup job.process).isSome
    if ← till isOver then modify fun p => { p with jobs := [], status := 0 }
    else interrupted
  else
    names.forM fun name => do
      let p ← get
      let process? : Option Nat :=
        if name.head? == some '%' then (Jobs.jobOf? p name).map Job.process else natural? name
      match process? with
      | none =>
        if name.head? == some '%' then
          complain (name ++ ": no such job".toList)
          setStatus 127
        else
          complain ('`' :: name ++ "': not a pid or valid job spec".toList)
          setStatus 1
      | some process =>
        let isChild := p.jobs.any (·.process == process) || (p.ended.lookup process).isSome
        if !isChild then
          complain ("pid ".toList ++ name ++ " is not a child of this shell".toList)
          setStatus 127
        else if ← till fun p => (p.ended.lookup process).isSome then
          setStatus (((← get).ended.lookup process).getD (.code 0)).status
          forget process
        else interrupted

end Fleet.Shell.Waiting
