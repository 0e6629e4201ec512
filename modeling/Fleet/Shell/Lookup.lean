import Fleet.Shell.Expansion
import Fleet.Shell.Signals
import Fleet.Shell.Variables
import Fleet.Tools.Basic

/-!
# Commands by name

Where programs are found, and what else a name may stand for.
-/

/-!
## Finding programs

A program is named by a path, or looked for in the directories that `PATH` lists. A script that
says in its first line what runs it amounts to running that program.
-/

namespace Fleet.Shell

/-- A program of the system, what it is called, and its arguments. -/
structure Program : Type where
  name : String
  called : Octets
  arguments : List Octets
  deriving Repr

namespace Program

/-- The entry of a file that can be run. -/
def entryAt (tree : FileTree) (here : Option Location) (path : Octets) : Except OsError Entry := do
  match ← tree.entryAt here path.toText with
  | .program name => pure (.program name)
  | entry => if entry.isExecutable then pure entry else throw .permissionDenied

/-- The path of a name in a directory. -/
def within (directory name : Octets) : Octets :=
  if directory.isEmpty then name else directory ++ '/' :: name

/-- The first of several directories, numbered from the given number on, in which a name can be
run. A file that may not be run counts only if there is no other. -/
def search (tree : FileTree) (here : Option Location) (name : Octets) (refused : Bool) :
    Nat → List Octets → Except OsError (Nat × Octets)
  | _, [] => .error (if refused then .permissionDenied else .noSuchFile)
  | n, directory :: rest =>
    match entryAt tree here (within directory name) with
    | .ok _ => .ok (n, within directory name)
    | .error .permissionDenied => search tree here name true (n + 1) rest
    | .error _ => search tree here name refused (n + 1) rest

/-- How much of a script is looked at to find out what runs it. -/
def headLimit : Nat :=
  256

/-- A blank in the first line of a script. -/
def isHeadBlank (c : Char) : Bool :=
  c == ' ' || c == '\t'

/-- What the first line of a script says: the program that runs it, and one argument. A line that is
cut short counts if the name of the program is whole. -/
def interpreter? (content : Octets) : Option (Octets × List Octets) :=
  match content.take headLimit with
  | '#' :: '!' :: rest =>
    let line := rest.takeWhile (· ≠ '\n')
    let isWhole := line.length < rest.length
    let trimmed := ((line.dropWhile isHeadBlank).reverse.dropWhile isHeadBlank).reverse
    let line :=
      if isWhole then trimmed else (line.take (headLimit - 3)).dropWhile isHeadBlank
    let path := line.takeWhile (!isHeadBlank ·)
    let argument := (line.drop path.length).dropWhile isHeadBlank
    let isCut := !isWhole && headLimit ≤ content.length && path.length = line.length
    if path.isEmpty || isCut then none
    else some (path, if argument.isEmpty then [] else [argument])
  | _ => none

/-- What running a file that is called in some way amounts to; scripts may be run by scripts a few
times. A file that does not say what runs it cannot be run by itself. -/
def ofEntry (tree : FileTree) (here : Option Location) (called : Octets) :
    Nat → Octets → Entry → List Octets → Except OsError Program
  | 0, _, _, _ => .error .tooManyLinks
  | n + 1, path, entry, arguments =>
    match entry with
    | .program name => .ok ⟨name, called, arguments⟩
    | .file content _ =>
      match interpreter? (Octets.ofBytes content) with
      | none => .error .notExecutable
      | some (runner, argument) => do
        let entry ← entryAt tree here runner
        ofEntry tree here runner n runner entry (argument ++ path :: arguments)
    | _ => .error .permissionDenied

/-- How many scripts may stand between a name and the program that is run. -/
def scriptLimit : Nat :=
  5

/-- What running the file that a path leads to amounts to. -/
def atPath (tree : FileTree) (here : Option Location) (called path : Octets)
    (arguments : List Octets) : Except OsError Program := do
  ofEntry tree here called (scriptLimit + 1) path (← entryAt tree here path) arguments

/-- The program at the first of several paths at which one can be run. What is not there is passed
over; any other fault than a refusal ends the search. The error is `refused` if there was one, else
the last one. -/
def firstAt (run : Octets → Except OsError Program) (refused : Bool) (last : OsError) :
    List Octets → Except OsError Program
  | [] => .error (if refused then .permissionDenied else last)
  | path :: rest =>
    match run path with
    | .ok program => .ok program
    | .error .permissionDenied => firstAt run true last rest
    | .error .noSuchFile => firstAt run refused .noSuchFile rest
    | .error .notDirectory => firstAt run refused .notDirectory rest
    | .error e => .error e

/-- What a name and arguments amount to, given how a path is run and the directories to look in. -/
def resolveBy (run : Octets → Except OsError Program) (directories name : Octets) :
    Except OsError Program :=
  if name.contains '/' then run name
  else if name.isEmpty then .error .noSuchFile
  else if FileTree.nameLimit < name.length then .error .nameTooLong
  else firstAt run false .noSuchFile ((directories.splitOn ':').map (within · name))

/-- What a name and arguments amount to, given the directories to look in. -/
def resolve (tree : FileTree) (here : Option Location) (directories name : Octets)
    (arguments : List Octets) : Except OsError Program :=
  resolveBy (fun path => atPath tree here name path arguments) directories name

/-- What a name and arguments amount to, given the directories to look in, if the shell runs files
that do not say what runs them. -/
def resolveScripts (tree : FileTree) (here : Option Location) (directories name : Octets)
    (arguments : List Octets) : Except OsError Program :=
  let run (path : Octets) : Except OsError Program :=
    match atPath tree here name path arguments with
    | .error .notExecutable => .ok ⟨"sh", "/bin/sh".toList, path :: arguments⟩
    | result => result
  resolveBy run directories name

/-- What is at the first of several paths at which something can be run: a program, or the path of a
script that does not say what runs it. -/
def firstOrScript (tree : FileTree) (here : Option Location) (called : Octets)
    (arguments : List Octets) (fault : OsError) :
    List Octets → Except OsError (Program ⊕ Octets)
  | [] => .error fault
  | path :: rest =>
    match atPath tree here called path arguments with
    | .ok program => .ok (.inl program)
    | .error .notExecutable => .ok (.inr path)
    | .error e =>
      let isMissing := e = .noSuchFile || e = .notDirectory
      firstOrScript tree here called arguments (if isMissing then fault else e) rest

end Program

/-- The directories to look for programs in, if no variable lists them. -/
def usualDirectories : Octets :=
  "/bin:/usr/bin".toList

/-- The directories that a program looks for other programs in. -/
def directoriesOf (p : Process) : Octets :=
  (p.valueOf? "PATH".toList).getD usualDirectories

/-!
## What names stand for

The name of a command is that of a function, of a builtin or of a program. Where a program was found
is kept, so that it is not looked for again until the directories to look in change.
-/

/-- The builtins that are not special. -/
def regularBuiltins : List String :=
  ["[", "alias", "bg", "cd", "chdir", "command", "echo", "false", "fg", "getopts", "hash", "jobs",
    "kill", "printf", "pwd", "read", "test", "true", "type", "ulimit", "umask", "unalias", "wait"]

/-- The builtins of the rich shell, in the order in which they are listed. -/
def richBuiltins : List String :=
  [".", ":", "[", "alias", "bg", "bind", "break", "builtin", "caller", "cd", "command", "compgen",
    "complete", "compopt", "continue", "declare", "dirs", "disown", "echo", "enable", "eval",
    "exec", "exit", "export", "false", "fc", "fg", "getopts", "hash", "help", "history", "jobs",
    "kill", "let", "local", "logout", "mapfile", "popd", "printf", "pushd", "pwd", "read",
    "readarray", "readonly", "return", "set", "shift", "shopt", "source", "suspend", "test",
    "times", "trap", "true", "type", "typeset", "ulimit", "umask", "unalias", "unset", "wait"]

/-- Whether a name is that of a builtin in a dialect. -/
def isBuiltin (dialect : Dialect) (name : Octets) : Bool :=
  let text := String.ofList name
  match dialect with
  | .plain => specialBuiltins.contains text || regularBuiltins.contains text
  | .rich => richBuiltins.contains text

/-- The directories that a script looks for programs in. -/
def searchPath (p : Process) : List Octets :=
  ((p.valueOf? "PATH".toList).getD []).splitOn ':'

/-- The directories that programs of the system are in. -/
def standardPath : List Octets :=
  ["/usr/local/sbin", "/usr/local/bin", "/usr/sbin", "/usr/bin", "/sbin", "/bin"].map String.toList

/-- The order in which programs that were found before are listed. -/
def trackedSlot (t : Tracked) : Nat :=
  let sum := t.name.foldl (fun n c => n + c.toNat) (((t.name.head?).map Char.toNat).getD 0 * 16)
  sum % 0x8000 % 31

/-- The path of a program that was found before. -/
def trackedPath (p : Process) (t : Tracked) : Octets :=
  t.path.getD (Program.within (((searchPath p)[t.place]?).getD []) t.name)

/-- The number of the directory with the program that a name without a slash stands for. It is
kept. -/
def trackProgram (name : Octets) : Exec (Except OsError Nat) := do
  let p ← get
  let directories := searchPath p
  let known := p.tracked.find? (·.name == name)
  let others := p.tracked.filter (·.name != name)
  match known with
  | some t =>
    let path := trackedPath p t
    -- A directory that is named in full is the same wherever one is.
    let settled := (path.head? == some '/') || !t.stale
    let before := directories.take t.place
    let search := Program.search p.tree p.here? name false
    let found : Except OsError (Nat × Octets) :=
      if !t.stale then .ok (t.place, path)
      else
        let relative := (before.zipIdx).filter fun (d, _) => d.head? != some '/'
        match relative.findSome? fun (d, i) => (search i [d]).toOption with
        | some found => .ok found
        | none =>
          if settled then .ok (t.place, path)
          else search t.place (directories.drop t.place)
    match found with
    | .ok (place, _) => do
      let again : Tracked := { name, place }
      modify fun p =>
        { p with tracked := p.tracked.map fun o => if o.name == name then again else o }
      pure (.ok place)
    | .error e => do
      modify fun p => { p with tracked := others }
      pure (.error e)
  | none =>
    match Program.search p.tree p.here? name false 0 directories with
    | .ok (place, _) => do
      modify fun p => { p with tracked := p.tracked ++ [{ name, place }] }
      pure (.ok place)
    | .error e => pure (.error e)

/-- The path of the program that a name without a slash stands for in the rich shell. It is kept,
with how often it was used. -/
def trackRich (name : Octets) (uses : Nat) : Exec (Except OsError Octets) := do
  let p ← get
  match p.tracked.find? (·.name == name) with
  | some t => do
    let again : Tracked := { t with uses := t.uses + uses }
    modify fun p =>
      { p with tracked := p.tracked.map fun o => if o.name == name then again else o }
    pure (.ok (trackedPath p t))
  | none =>
    match Program.search p.tree p.here? name false 0 (searchPath p) with
    | .ok (place, path) => do
      modify fun p => { p with tracked := p.tracked ++ [{ name, place, uses }] }
      pure (.ok path)
    | .error e => pure (.error e)

/-- The paths at which a program is looked for, given the number of the directory to start with. -/
def candidates (name : Octets) (place : Nat) (directories : List Octets) : List Octets :=
  if name.contains '/' then [name] else (directories.drop place).map (Program.within · name)

/-- What is said of a program that cannot be started. -/
def startFault (e : OsError) : Octets :=
  match e with
  | .noSuchFile | .notDirectory => "not found".toList
  | e => e.description.toList

/-- What a name stands for. -/
inductive Meaning : Type where
  | keyword
  | alias (text : Octets)
  | function
  | builtin
  | program (path : Octets) (known : Bool)
  | nothing
  deriving Repr, DecidableEq

/-- What a name stands for, given directories to look in other than the usual ones. -/
def meaning (directories : Option (List Octets)) (name : Octets) : Exec Meaning := do
  let p ← get
  if reservedWords.contains (String.ofList name) then pure .keyword
  else
    match p.aliases.lookup name, directories with
    | some text, _ => pure (.alias text)
    | none, directories =>
      if (p.functions.lookup name).isSome then pure .function
      else
        match directories, p.tracked.find? (·.name == name) with
        | none, some t => pure (.program (trackedPath p t) true)
        | _, _ =>
          if isBuiltin p.dialect name then pure .builtin
          else if name.contains '/' then
            pure (if (p.tree.entryAt p.here? name.toText).isOk then .program name false
              else .nothing)
          else
            match directories with
            | some directories =>
              match Program.search p.tree p.here? name false 0 directories with
              | .ok (_, path) => pure (.program path false)
              | .error _ => pure .nothing
            | none =>
              match ← trackProgram name with
              | .ok place =>
                pure (.program (Program.within (((searchPath p)[place]?).getD []) name) false)
              | .error _ => pure .nothing

/-- Says in a line what a name stands for, or only how it is run. The code says whether it stands
for anything. -/
def describeName (directories : Option (List Octets)) (full : Bool) (name : Octets) :
    Exec Nat := do
  let m ← meaning directories name
  let line (text : String) : Octets :=
    if full then name ++ text.toList ++ ['\n'] else name ++ ['\n']
  let text :=
    match m with
    | .keyword => line " is a shell keyword"
    | .alias text =>
      if full then name ++ " is an alias for ".toList ++ text ++ ['\n']
      else "alias ".toList ++ name ++ '=' :: singleQuoted text ++ ['\n']
    | .function => line " is a shell function"
    | .builtin =>
      line (if specialBuiltins.contains (String.ofList name) then " is a special shell builtin"
        else " is a shell builtin")
    | .program path known =>
      if full then
        name ++ (if known then " is a tracked alias for " else " is ").toList ++ path ++ ['\n']
      else path ++ ['\n']
    | .nothing => if full then name ++ ": not found\n".toList else []
  (say text : StateM Process Unit)
  pure (if m = .nothing then 127 else 0)

/-- Lists the programs that were found before. -/
def listTracked : StateM Process Unit := do
  let p ← get
  let listed := p.tracked.mergeSort fun a b => trackedSlot a ≤ trackedSlot b
  say (listed.map fun t => trackedPath p t ++ (if t.stale then "*\n" else "\n").toList).flatten

end Fleet.Shell
