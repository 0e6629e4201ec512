import Fleet.Shell.Builtins.Jobs
import Fleet.Shell.Quoting
import Fleet.Shell.Signals

/-!
# Signals and traps in the rich shell

Besides the end of the script and signals there are other occasions on which something can be run:
the failure of a command, the end of a function, and each command.
-/

namespace Fleet.Shell.Traps

/-- The occasions besides signals on which something can be run. -/
def occasions : List (String × Nat) :=
  [("EXIT", 0), ("DEBUG", 65), ("ERR", onFailure), ("RETURN", onReturn)]

/-- The short name of a signal. -/
def shortName (signal : Nat) : String :=
  if signal = 16 then "STKFLT" else signalName signal

/-- The name of a signal or another occasion. -/
def fullName (number : Nat) : String :=
  match occasions.find? (·.2 == number) with
  | some (name, _) => name
  | none => "SIG" ++ shortName number

/-- The number of the signal that a text names, or that of another occasion if there may be one. -/
def numberOf? (withOccasions : Bool) (text : Octets) : Option Nat :=
  match signalNumber? text with
  | some n => some n
  | none =>
    let name := text.map Char.toUpper
    let name := if "SIG".toList.isPrefixOf name then name.drop 3 else name
    let occasion := (occasions.lookup (String.ofList name)).filter fun _ => withOccasions
    occasion.or ((List.range signalBound).find? fun n => 0 < n && (shortName n).toList == name)

/-- The signals with their numbers, five in a line. -/
def table : Octets :=
  let named := (List.range signalBound).filter fun n => 0 < n && n ≠ 32 && n ≠ 33
  let entry (n : Nat) : Octets :=
    List.replicate (2 - (decimal n).length) ' ' ++ decimal n ++ ") ".toList ++ (fullName n).toList
  (named.zipIdx.map fun (n, i) => entry n ++ [if i % 5 = 4 then '\n' else '\t']).flatten ++ ['\n']

/-- A trap as the command that sets it. -/
def shown (trap : Nat × Octets) : Octets :=
  "trap -- ".toList ++ Quoting.single trap.2 ++ ' ' :: (fullName trap.1).toList ++ ['\n']

/-- Says that a text names no signal. -/
def refuseSignal (text : Octets) : Exec Unit := do
  complain (text ++ ": invalid signal specification".toList)
  setStatus 1

/-- Shows the traps of some names, or all. -/
def showRich (names : List Octets) : Exec Unit := do
  let all := (← get).traps.mergeSort fun a b => a.1 ≤ b.1
  if names.isEmpty then (say (all.map shown).flatten : StateM Process Unit)
  else
    names.forM fun name =>
      match numberOf? true name with
      | some n => (say ((all.filter (·.1 == n)).map shown).flatten : StateM Process Unit)
      | none => refuseSignal name

/-- Sets traps, shows them or lists the signals. -/
def runRich (arguments : List Octets) : Exec Unit := do
  let (options, rest) ← Letters.take ⟨['l', 'p'], []⟩ arguments
  setStatus 0
  let isSignal (text : Octets) : Bool := (numberOf? true text).isSome
  let set (action : Option Octets) (names : List Octets) : Exec Unit :=
    names.forM fun name =>
      match numberOf? true name with
      | none => refuseSignal name
      | some n =>
        modify fun p =>
          let others := p.traps.filter (·.1 != n)
          { p with traps := match action with
            | some action => (n, action) :: others
            | none => others }
  if options.any (·.1 == 'l') then (say table : StateM Process Unit)
  else if options.any (·.1 == 'p') then showRich rest
  else
    match rest with
    | [] => showRich []
    | [name] => if isSignal name then set none [name] else explainUse
    | first :: names =>
      if (signalNumber? first).isSome then set none rest
      else set (if first = ['-'] then none else some first) names

end Fleet.Shell.Traps

namespace Fleet.Shell.Jobs

/-- Names the signals, all, or those of numbers and names. -/
def nameRich (arguments : List Octets) : Exec Unit := do
  if arguments.isEmpty then (say Traps.table : StateM Process Unit)
  arguments.forM fun argument => do
    let line (text : Octets) : Exec Unit := do (say (text ++ ['\n']) : StateM Process Unit)
    match natural? argument with
    | some n =>
      let n := if 128 < n then n - 128 else n
      if n = 0 then line "EXIT".toList
      else if n < signalBound then line (Traps.shortName n).toList
      else Traps.refuseSignal argument
    | none =>
      match Traps.numberOf? true argument with
      | some n => line (decimal n)
      | none => Traps.refuseSignal argument

/-- The job that an argument names. -/
def jobOf? (p : Process) (argument : Octets) : Option Job :=
  match String.ofList argument with
  | "%" | "%%" | "%+" => p.jobs.head?
  | "%-" => (p.jobs[1]?).or p.jobs.head?
  | _ => (natural? argument.tail).bind fun n => p.jobs.find? (·.place == n)

/-- Sends a signal to the processes and jobs that arguments name. -/
def sendRich (signal : Nat) (targets : List Octets) : Exec Unit := do
  let codes ← targets.mapM fun target => do
    match target with
    | '%' :: _ =>
      match jobOf? (← get) target with
      | some job => send signal job.process
      | none => do
        complain (target ++ ": no such job".toList)
        pure false
    | target =>
      let digits := if target.head? == some '-' then target.tail else target
      match natural? digits with
      | none => do
        complain (target ++ ": arguments must be process or job IDs".toList)
        pure false
      | some number => do
        let sent ← if digits = target then send signal number else pure false
        if !sent then complain ('(' :: target ++ ") - No such process".toList)
        pure sent
  setStatus (if codes.any id then 0 else 1)

/-- Sends signals, or names them. -/
def killRich (arguments : List Octets) : Exec Unit := do
  setStatus 0
  let chosen (name : Octets) (targets : List Octets) : Exec Unit :=
    match Traps.numberOf? true name with
    | none => Traps.refuseSignal name
    | some signal =>
      let targets := if targets.head? == some ['-', '-'] then targets.tail else targets
      if targets.isEmpty then explainUse else sendRich signal targets
  match arguments with
  | [] => explainUse
  | option :: rest =>
    match String.ofList option, rest with
    | "-l", _ | "-L", _ => nameRich rest
    | "-s", name :: targets | "-n", name :: targets => chosen name targets
    | "-s", [] | "-n", [] => do
      complain (option ++ ": option requires an argument".toList)
      setStatus 1
    | "--", targets => if targets.isEmpty then explainUse else sendRich 15 targets
    | _, _ =>
      match option with
      | '-' :: name => chosen name rest
      | _ => sendRich 15 arguments

end Fleet.Shell.Jobs
