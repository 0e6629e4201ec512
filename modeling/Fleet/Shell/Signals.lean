import Fleet.Shell.Letters
import Fleet.Shell.Variables

/-!
# Signals and traps

The signals there are, and the builtin that says what is to be run on them.
-/

/-!
## Signals

The signals by name and number, what is said of a process that one has ended, and what a script has
said should be run on them.
-/

namespace Fleet.Shell

/-- The signals by name and number, and what is said of a process that one has ended. -/
def signals : List (String × Nat × String) :=
  [("HUP", 1, "Hangup"), ("INT", 2, ""), ("QUIT", 3, "Quit"), ("ILL", 4, "Illegal instruction"),
    ("TRAP", 5, "Trace/breakpoint trap"), ("ABRT", 6, "Aborted"), ("BUS", 7, "Bus error"),
    ("FPE", 8, "Floating point exception"), ("KILL", 9, "Killed"),
    ("USR1", 10, "User defined signal 1"), ("SEGV", 11, "Segmentation fault"),
    ("USR2", 12, "User defined signal 2"), ("PIPE", 13, ""), ("ALRM", 14, "Alarm clock"),
    ("TERM", 15, "Terminated"), ("16", 16, "Stack fault"), ("CHLD", 17, ""), ("CONT", 18, ""),
    ("STOP", 19, ""), ("TSTP", 20, ""), ("TTIN", 21, ""), ("TTOU", 22, ""), ("URG", 23, ""),
    ("XCPU", 24, "CPU time limit exceeded"), ("XFSZ", 25, "File size limit exceeded"),
    ("VTALRM", 26, "Virtual timer expired"), ("PROF", 27, "Profiling timer expired"),
    ("WINCH", 28, ""), ("IO", 29, "I/O possible"), ("PWR", 30, "Power failure"),
    ("SYS", 31, "Bad system call"), ("32", 32, "Unknown signal 32"),
    ("33", 33, "Unknown signal 33")] ++
  (List.range 31).map fun i =>
    let name :=
      if i = 0 then "RTMIN"
      else if i < 16 then "RTMIN+" ++ toString i
      else if i < 30 then "RTMAX-" ++ toString (30 - i)
      else "RTMAX"
    (name, 34 + i, "Real-time signal " ++ toString i)

/-- One more than the greatest number of a signal. -/
def signalBound : Nat :=
  65

/-- The signals that do nothing unless something is to be run on them. -/
def harmlessSignals : List Nat :=
  [0, 17, 18, 19, 20, 21, 22, 23, 28]

/-- The signals on which nothing can be run. -/
def ruthlessSignals : List Nat :=
  [9, 19]

/-- The number of the signal that an argument gives as a number. -/
def signalNumber? (text : Octets) : Option Nat :=
  if text.isEmpty || !text.all Char.isDigit then none
  else (natural? text).filter (· < signalBound)

/-- The number of the signal that an argument names; the end of the script has the number 0 and is
named if `withEnd` says so. -/
def signal? (withEnd : Bool) (text : Octets) : Option Nat :=
  match signalNumber? text with
  | some n => some n
  | none =>
    let name := String.ofList (text.map Char.toUpper)
    if withEnd && name = "EXIT" then some 0 else (signals.lookup name).map Prod.fst

/-- The name of a signal. -/
def signalName (number : Nat) : String :=
  if number = 0 then "EXIT"
  else ((signals.find? (·.2.1 == number)).map Prod.fst).getD (toString number)

/-- What is said of a process that a signal has ended. -/
def epitaph (signal : Nat) : String :=
  ((signals.find? (·.2.1 == signal)).map (·.2.2)).getD ""

/-- The code of a process that has ended. -/
def Ending.status : Ending → Nat
  | code n => n
  | signal n => 128 + n

/-- Says that a signal has ended a process, unless that goes without saying. -/
def sayEpitaph : Ending → StateM Process Unit
  | .code _ => pure ()
  | .signal n => do
    let text := epitaph n
    if text ≠ "" then sayError (text.toList ++ ['\n'])

/-- Text between single quotes, in which a single quote stands between double quotes. -/
def singleQuoted : Octets → Octets
  | [] => "''".toList
  | text =>
    let rec pieces : Nat → Octets → Octets
      | 0, _ => []
      | n + 1, text =>
        let plain := text.takeWhile (· ≠ '\'')
        let after := text.drop plain.length
        let quotes := after.takeWhile (· == '\'')
        let shown := '\'' :: plain ++ ['\'']
        if quotes.isEmpty then shown
        else
          let rest := after.drop quotes.length
          shown ++ '"' :: quotes ++ ['"'] ++ if rest.isEmpty then [] else pieces n rest
    pieces (text.length + 1) text

end Fleet.Shell

/-!
## Traps

What is to be run when a signal arrives or the script ends.
-/

namespace Fleet.Shell.Traps

/-- The traps, each as the command that sets it. -/
def listing (traps : List (Nat × Octets)) : Octets :=
  ((traps.mergeSort fun a b => a.1 ≤ b.1).map fun (signal, action) =>
    "trap -- ".toList ++ singleQuoted action ++ ' ' :: (signalName signal).toList ++ ['\n']).flatten

/-- Sets traps or lists them. Without an action, or with a hyphen in its place, traps are lifted. -/
def run (arguments : List Octets) : Exec Unit := do
  let arguments ← noOptions arguments
  setStatus 0
  let (action, names) :=
    match arguments with
    | [] => (none, [])
    | [name] => (none, [name])
    | first :: rest =>
      if (signalNumber? first).isSome then (none, arguments)
      else (if first = ['-'] then none else some first, rest)
  if arguments.isEmpty then
    (do say (listing (← get).traps) : StateM Process Unit)
  names.forM fun name => do
    match signal? true name with
    | none => do
      (sayError ("trap: ".toList ++ name ++ ": bad trap\n".toList) : StateM Process Unit)
      setStatus 1
    | some signal =>
      modify fun p =>
        let others := p.traps.filter (·.1 != signal)
        { p with traps := match action with
          | some action => (signal, action) :: others
          | none => others }

/-- The traps that a process of its own starts with: signals that are ignored stay so. -/
def inherited (traps : List (Nat × Octets)) : List (Nat × Octets) :=
  traps.filter fun (_, action) => action.isEmpty

/-- The number of the failure of a command among the occasions on which something can be run. -/
def onFailure : Nat :=
  66

/-- The number of the end of a function among the occasions on which something can be run. -/
def onReturn : Nat :=
  67

/-- Whether an option has functions and processes of their own keep what is run on an occasion. -/
def isKept (p : Process) (number : Nat) : Bool :=
  (number = onFailure && p.isOn 'E') || (number = onReturn && p.isOn 'T')

/-- The traps that a process which belongs to the script starts with. -/
def handedOn (p : Process) : List (Nat × Octets) :=
  p.traps.filter fun (number, action) => action.isEmpty || isKept p number

end Fleet.Shell.Traps
