import Fleet.Shell.Builtins

/-!
# Starting shells and programs

What a program starts with, and what a shell starts with besides: variables of its own, options, and
the working directory.
-/

namespace Fleet.Shell

/-- The variables that programs see, in the order they are handed on. In the rich shell those for
the command come first, and the one that holds the path of the program comes last. -/
def Process.handed (p : Process) : List Variable :=
  match p.dialect with
  | .plain => p.exports
  | .rich =>
    let visible := p.vars.filter fun v => v.exported && v.value.isSome && v.table.isNone
    let (last, others) := visible.partition (·.name == ['_'])
    let (own, others) := others.partition fun v => p.temporary.contains v.name
    p.temporary.eraseDups.filterMap (fun name => own.find? (·.name == name)) ++
      (others.reverse.mergeSort fun a b => bucketOf a.name ≤ bucketOf b.name) ++ last

/-- The state in which a program starts that is called in some way: it has its descriptors and the
variables that programs see. -/
def Process.forProgram (p : Process) (called : Octets) : Process :=
  let context : Context :=
    { directory := p.directory
      vars := p.handed
      name := called
      descriptors := p.descriptors
      number := p.number
      shell := p.number
      ancestors := p.ancestors
      traps := Traps.inherited p.traps
      mask := p.mask
      limits := p.limits
      deadline := p.deadline
      timeSignal := p.timeSignal
      niceness := p.niceness }
  { p with toContext := context, interrupted := none, substituted := 0, refused := none }

/-- The version of the rich shell. -/
def richVersion : Octets :=
  "5.2.21(1)-release".toList

/-- The kind of machine that the rich shell says it was made for. -/
def machineKind : Octets :=
  "x86_64-pc-linux-gnu".toList

/-- The path of the shell that was called by some name. -/
def shellPath (p : Process) : Octets :=
  if p.name.contains '/' then p.name
  else
    match Program.search p.tree p.here? p.name false 0 (searchPath p) with
    | .ok (_, path) => path
    | .error _ => p.name

/-- The variables that the rich shell starts with: those that it is given, others unless they are
given, and some of its own in any case. -/
def richVariables (p : Process) : List Variable :=
  let plain (name : String) (value : Octets) : Variable :=
    { name := name.toList, value := some value }
  let number (name : String) (value : Octets) : Variable :=
    { plain name value with integer := true, fixed := true }
  let given := p.vars.filter fun v => isName v.name
  let level := (given.find? (·.name == "SHLVL".toList)).bind fun v => v.value.bind natural?
  let usual : List Variable :=
    [plain "PATH" "/usr/local/sbin:/usr/local/bin:/usr/sbin:/usr/bin:/sbin:/bin".toList,
      plain "PS4" "+ ".toList, plain "TERM" "dumb".toList, plain "SHELL" "/bin/bash".toList,
      plain "HOSTNAME" "localhost".toList, plain "HOSTTYPE" "x86_64".toList,
      plain "OSTYPE" "linux-gnu".toList, plain "MACHTYPE" machineKind, plain "_" p.name]
  let versions : List Octets :=
    ["5", "2", "21", "1", "release"].map String.toList ++ [machineKind]
  let version : Variable :=
    { name := "BASH_VERSINFO".toList, value := none, fixed := true
      table := some (.indexed (versions.zipIdx.map fun (text, n) => (n, text))) }
  let own : List Variable :=
    [plain "BASH" (shellPath p), version, plain "BASH_VERSION" richVersion,
      plain "IFS" " \t\n".toList, plain "OPTERR" ['1'],
      { plain "OPTIND" ['1'] with integer := true },
      number "PPID" (decimal (p.ancestors.headD 0)), number "UID" ['0'], number "EUID" ['0'],
      { plain "SHLVL" (decimal (level.getD 0 + 1)) with exported := true }]
  let missing := usual.filter fun v => !given.any (·.name == v.name)
  (given.filter fun v => !own.any (·.name == v.name)) ++ missing ++ own

/-- Makes the process of a program that of a shell. -/
def startShell (dialect : Dialect) : Exec Unit := do
  match dialect with
  | .plain =>
    modify fun p =>
      { p with vars := shellVariables p.vars (p.ancestors.headD 0), line := 0, status := 0 }
    Directory.start
  | .rich =>
    modify fun p =>
      { p with
        dialect := .rich
        vars := richVariables p
        options := ['h', 'B']
        extras := startingExtras
        line := 0
        status := 0 }
    Directory.start
    modify fun p =>
      let before := (p.declared? "OLDPWD".toList).getD { name := "OLDPWD".toList, value := none }
      p.putVariable { before with exported := true }

/-- The rich shell as it is when another program takes its place. -/
def leavingShell (p : Process) : Process :=
  let level := ((p.valueOf? "SHLVL".toList).bind natural?).getD 1
  p.setVariable "SHLVL".toList (decimal (level - 1))

/-- The file that a script names to be read in its own process, with its text. -/
def sourceOf (p : Process) (file : Octets) : Except OsError (Octets × Octets) :=
  if file.contains '/' then
    match p.readFile file with
    | .ok text => .ok (file, text)
    | .error .isDirectory => .ok (file, [])
    | .error e => .error e
  else
    let paths := (searchPath p).map fun directory => Program.within directory file
    let isPlain (path : Octets) : Bool :=
      (p.tree.entryAt p.here? path.toText).toOption.any fun entry =>
        entry matches .file _ _ | .program _
    match paths.find? isPlain with
    | some path => (p.readFile path).map (path, ·)
    | none => .error .noSuchFile

/-- The file with the script that the rich shell is to run, with its text. A name without a slash
may also be that of a program. -/
def sourceFor (p : Process) (file : Octets) : Except OsError (Octets × Octets) :=
  match p.readFile file with
  | .ok text => .ok (file, text)
  | .error .isDirectory => .ok (file, [])
  | .error e => if file.contains '/' then .error e else (sourceOf p file).mapError fun _ => e

/-- What is read of a script, by what the shell knows at that time. -/
def inputFor (p : Process) (input : Input) : Input :=
  let known := p.dialect = .plain || p.extras.contains "expand_aliases"
  { input with
    dialect := p.dialect
    groups := p.extras.contains "extglob"
    aliases := if known then p.aliases else [] }

namespace Starting

/-- What a shell is asked to run. -/
inductive Request : Type where
  /-- Nothing more. -/
  | answered
  /-- A script among the arguments; there may be none though it was asked for. -/
  | script (text : Option Octets) (arguments : List Octets)
  | input (arguments : List Octets)
  | file (path : Octets) (arguments : List Octets)
  deriving Repr

/-- The names of the options that stand behind two hyphens. -/
def longNames : List String :=
  ["debug", "debugger", "dump-po-strings", "dump-strings", "help", "init-file", "login",
    "noediting", "noprofile", "norc", "posix", "pretty-print", "rcfile", "restricted", "verbose",
    "version"]

/-- How the rich shell is called. -/
def usage (name : Octets) : Octets :=
  "Usage:\t".toList ++ name ++ " [GNU long option] [option] ...\n\t".toList ++ name ++
    " [GNU long option] [option] script-file ...\nGNU long options:\n".toList ++
    (longNames.map fun long => ("\t--" ++ long ++ "\n").toList).flatten ++
    "Shell options:\n\t-ilrsD or -c command or -O shopt_option\t\t(invocation only)\n".toList ++
    "\t-abefhkmnptuvxBCEHPT or -o option\n".toList

/-- What is said about the version. -/
def version : Octets :=
  "GNU bash, version ".toList ++ richVersion ++ " (".toList ++ machineKind ++ ")\n".toList

/-- The arguments after the options with long names in front, and these options. -/
def longOptions : List Octets → List String × List Octets
  | ('-' :: '-' :: c :: name) :: rest =>
    let text := String.ofList (c :: name)
    let rest := if text = "rcfile" || text = "init-file" then rest.tail else rest
    let (names, rest) := longOptions rest
    (text :: names, rest)
  | rest => ([], rest)
termination_by arguments => arguments.length
decreasing_by
  refine Nat.lt_succ_of_le ?_
  split
  · exact (List.tail_sublist _).length_le
  · exact Nat.le_refl _

/-- What the arguments of the rich shell ask for, the options among them being switched. -/
def request (arguments : List Octets) : Exec Request := do
  let (names, rest) := longOptions arguments
  let p ← get
  let sayLine (text : Octets) : StateM Process Unit :=
    sayError (p.name ++ ": ".toList ++ text ++ ['\n'])
  match names.find? fun name => !longNames.contains name with
  | some name => do
    (do
      sayLine ("--".toList ++ name.toList ++ ": invalid option".toList)
      sayError (usage p.name) : StateM Process Unit)
    setStatus 2
    pure .answered
  | none =>
    if names.contains "version" then
      (say version : StateM Process Unit)
      pure .answered
    else if names.contains "help" then
      (say ("GNU bash, version ".toList ++ richVersion ++ "-(".toList ++ machineKind ++
        ")\n".toList ++ usage p.name) : StateM Process Unit)
      pure .answered
    else
      if names.contains "posix" then Switches.switchExtra true "posix"
      let given? ← tryCatch (do pure (some (← Switches.switchAll true rest.length rest))) fun
        | .failed => pure none
        | jump => throw jump
      match given? with
      | none => do
        (sayError (usage p.name) : StateM Process Unit)
        setStatus 2
        pure .answered
      | some given =>
        if given.scripted then
          Switches.switch true 'c'
          pure (.script given.arguments.head? given.arguments.tail)
        else
          match given.arguments with
          | file :: rest =>
            pure (if (← get).isOn 's' then .input given.arguments else .file file rest)
          | [] => do
            Switches.switch true 's'
            pure (.input [])

end Starting

end Fleet.Shell
