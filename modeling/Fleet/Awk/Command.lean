import Fleet.Awk.Evaluation

/-!
# The command that runs programs

Options say how fields are told apart, give names values, and name the files that the text of the
program is in; otherwise that is the first argument. The other arguments are the files to be read,
with assignments among them.
-/

namespace Fleet.Awk

open Shell (Exec Start finish)

/-- What was asked for. -/
structure Invocation : Type where
  separator : Option Octets := none
  assignments : List (Octets × Octets) := []
  /-- The files with the text of the program. -/
  files : List Octets := []
  operands : List Octets := []
  /-- What is said about options without a meaning. -/
  warnings : List Octets := []

/-- Why no program is run. -/
inductive Refusal : Type where
  | mistake (message : Octets)
  | version
  | help

/-- What is said about how the command is used; `name` is what it is called. -/
def usage (name : Octets) : Octets :=
  "Usage: ".toList ++ name ++ " [Options] [Program] [file ...]

Program:
    The -f option value is the name of a file containing program text.
    If no -f option is given, a \"--\" ends option processing; the following
    parameters are the program text.

Options:
    -f program-file  Program  text is read from file instead of from the
                     command-line.  Multiple -f options are accepted.
    -F value         sets the field separator, FS, to value.
    -v var=value     assigns value to program variable var.
    --               unambiguous end of options.

    Implementation-specific options are prefixed with \"-W\".  They can be
    abbreviated:

    -W version       show version information and exit.
    -W compat        pre-POSIX 2001.
    -W dump          show assembler-like listing of program and exit.
    -W help          show this message and exit.
    -W interactive   set unbuffered output, line-buffered input.
    -W exec file     use file as program as well as last option.
    -W posix         stricter POSIX checking.
    -W random=number set initial random seed.
    -W sprintf=number adjust size of sprintf buffer.
    -W usage         show this message and exit.
".toList

/-- The words that settings of the command may be called. -/
def settings : List String :=
  ["version", "compat", "dump", "help", "interactive", "exec", "posix", "random", "sprintf",
    "usage"]

/-- The setting that a word or its beginning stands for. -/
def settingOf? (word : Octets) : Option String :=
  let name := word.takeWhile (· ≠ '=')
  if name.isEmpty then none else settings.find? fun s => name.isPrefixOf s.toList

/-- What options ask for, of which at most the given number is looked at. -/
def Invocation.read : Nat → List Octets → Invocation → Except Refusal Invocation
  | 0, arguments, i => pure { i with operands := arguments }
  | _, [], i => pure i
  | n + 1, argument :: rest, i => do
    let setting (word : Octets) (rest : List Octets) : Except Refusal Invocation :=
      match settingOf? word with
      | some "version" => throw .version
      | some "help" | some "usage" => throw .help
      | some _ => Invocation.read n rest i
      | none =>
        let warning := "vacuous option: -W \"".toList ++ word ++ ['"']
        Invocation.read n rest { i with warnings := i.warnings ++ [warning] }
    match argument with
    | ['-', '-'] => pure { i with operands := rest }
    | '-' :: '-' :: word =>
      match settingOf? word with
      | some _ => setting word rest
      | none => throw (.mistake ("not an option: --".toList ++ word))
    | '-' :: c :: attached => do
      let withValue (go : Octets → List Octets → Except Refusal Invocation) :
          Except Refusal Invocation :=
        match attached, rest with
        | [], value :: rest => go value rest
        | [], [] => throw (.mistake ("option -".toList ++ [c] ++ " lacks argument".toList))
        | value, rest => go value rest
      match c with
      | 'W' => withValue setting
      | 'F' => withValue fun value rest =>
        Invocation.read n rest { i with separator := some (textOf value) }
      | 'v' => withValue fun value rest =>
        match Run.assignmentOf? value with
        | some assignment =>
          Invocation.read n rest { i with assignments := i.assignments ++ [assignment] }
        | none => throw (.mistake ("improper assignment: -v ".toList ++ value))
      | 'f' => withValue fun value rest =>
        Invocation.read n rest { i with files := i.files ++ [value] }
      | _ => throw (.mistake ("not an option: ".toList ++ argument))
    | argument => pure { i with operands := argument :: rest }

/-- A table of values. -/
def tableOf (entries : List (Key × Value)) : Table :=
  entries.foldl (fun t (key, v) => t.set key v) {}

/-- The machine at the start: its names, the environment and the arguments. -/
def initial (p : Shell.Process) (name : Octets) (operands : List Octets) : Machine :=
  let environment := tableOf (p.vars.filterMap fun v =>
    v.value.map fun value => (.text v.name, .input value))
  let arguments := tableOf (((name :: operands).zipIdx).map fun (text, n) =>
    (.number (Int.ofNat n), .input text))
  let names : List (String × Slot) :=
    [("FS", .value (.text [' '])), ("OFS", .value (.text [' '])), ("ORS", .value (.text ['\n'])),
      ("RS", .value (.text ['\n'])), ("SUBSEP", .value (.text ['\x1C'])),
      ("CONVFMT", .value (.text "%.6g".toList)), ("OFMT", .value (.text "%.6g".toList)),
      ("NR", .value (.number 0)), ("FNR", .value (.number 0)), ("RSTART", .value (.number 0)),
      ("RLENGTH", .value (.number (-1))), ("FILENAME", .value .unset),
      ("ARGC", .value (.ofNat (operands.length + 1))), ("ARGV", .table 0),
      ("ENVIRON", .table 1)]
  { globals := Std.HashMap.ofList (names.map fun (name, s) => (name.toList, s))
    tables := Std.HashMap.ofList [(0, arguments), (1, environment)]
    nextTable := 2 }

/-- How deep programs may be and how many rounds their loops may have. -/
def fuel : Nat :=
  100000000

/-- Runs a program in a machine, and ends with its code. -/
def execute (start : Start) (script : Script) (i : Invocation) (m : Machine) : Exec Unit := do
  let g : Setting := { script, start }
  let work : Run Unit := do
    match i.separator with
    | some source => Run.setSpecial "FS" (.text source)
    | none => pure ()
    i.assignments.forM fun (name, value) => Run.assign name (.input value)
    Run.whole g fuel
  let (_, m) ← work.run m
  Shell.setStatus m.code
  (Tools.reportRefused : StateM Shell.Process Unit)

/-- The text of a program that stands in files, or the first of them that cannot be read. -/
def textIn (paths : List Octets) : StateM Shell.Process (Except (Octets × OsError) Octets) := do
  let read ← paths.mapM fun path => do
    match ← Tools.readSource path with
    | .ok text => pure (Except.ok (if text.getLast? = some '\n' then text else text ++ ['\n']))
    | .error u => pure (Except.error (path, u.error))
  pure ((read.mapM id).map List.flatten)

/-- Runs a program over the records of files. -/
def run (start : Start) (arguments : List Octets) : Exec Unit := do
  let p ← get
  let name := ((p.name.splitOn '/').getLast?).getD p.name
  let say (text : Octets) : StateM Shell.Process Unit :=
    Shell.sayError (name ++ ": ".toList ++ text ++ ['\n'])
  modify fun p => { p with name }
  match Invocation.read arguments.length arguments {} with
  | .error (.mistake message) =>
    finish do
      say message
      pure 2
  | .error .version =>
    finish do
      Shell.say "mawk 1.3.4 20240123\n".toList
      pure 0
  | .error .help =>
    finish do
      Shell.say (usage name)
      pure 0
  | .ok i => do
    (i.warnings.forM say : StateM Shell.Process Unit)
    let go (origin text : Octets) (operands : List Octets) : Exec Unit := do
      match parse text with
      | .ok script => do execute start script i (initial (← get) name operands)
      | .error message =>
        finish do
          say (origin ++ message)
          pure 2
    match i.files, i.operands with
    | [], [] =>
      finish do
        Shell.sayError (usage name)
        pure 0
    | [], text :: operands => go [] text operands
    | files, operands => do
      match ← (textIn files : StateM Shell.Process (Except (Octets × OsError) Octets)) with
      | .ok text => go ((files.getLast?).getD [] ++ ": ".toList) text operands
      | .error (path, e) =>
        finish do
          say ("cannot open \"".toList ++ path ++ "\" (".toList ++ e.description.toList ++ [')'])
          pure 2

/-- The names of the command. -/
def commands : List (String × (Start → List Octets → Exec Unit)) :=
  [("awk", run), ("mawk", run), ("nawk", run)]

end Fleet.Awk
