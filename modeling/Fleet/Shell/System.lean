import Fleet.Config.Environment
import Fleet.Execution.Host
import Fleet.Shell.Evaluation

/-!
# The system

The file tree that there is before anything is added to it, and the host that runs the shell and
its tools on a file tree.
-/

namespace Fleet.Shell

/-- How long a program may run. -/
def patience : Nat :=
  1000000

/-- The tree with an entry at the path made of some names, and the directories above it. -/
def addEntry (t : FileTree) (names : Location) (entry : Entry) : FileTree :=
  let t := ((t.makeDirectories none (FileTree.pathOf names.dropLast)).toOption).getD t
  t.put names entry

/-- The directories of a fresh system that hold nothing of note. -/
def emptyDirectories : List String :=
  ["/boot", "/home", "/media", "/mnt", "/opt", "/proc", "/root", "/run/lock", "/srv", "/sys",
    "/tmp", "/usr/games", "/usr/include", "/usr/lib", "/usr/lib64", "/usr/libexec",
    "/usr/local/bin", "/usr/local/etc", "/usr/local/games", "/usr/local/include", "/usr/local/lib",
    "/usr/local/sbin", "/usr/local/share/man", "/usr/local/src", "/usr/sbin", "/usr/share",
    "/usr/src", "/var/backups", "/var/cache", "/var/lib", "/var/local", "/var/log", "/var/mail",
    "/var/opt", "/var/spool", "/var/tmp"]

/-- The links of a fresh system. -/
def systemLinks : List (Location × String) :=
  [(["bin"], "usr/bin"), (["lib"], "usr/lib"), (["lib64"], "usr/lib64"), (["sbin"], "usr/sbin"),
    (["var", "lock"], "/run/lock"), (["var", "run"], "/run")]

/-- The files of a fresh system that say something about it. -/
def systemFiles : List (Location × String) :=
  [(["etc", "passwd"], String.join (Account.all.map Account.line)),
    (["etc", "group"], String.join (Account.groups.map Account.groupLine)),
    (["etc", "shells"], "# /etc/shells: valid login shells\n/bin/sh\n/usr/bin/sh\n/bin/bash\n" ++
      "/usr/bin/bash\n/bin/rbash\n/usr/bin/rbash\n/usr/bin/dash\n")]

/-- The file tree of a fresh system: its programs, the devices that swallow everything, and
directories. -/
def baseTree : FileTree :=
  let t := Tools.names.foldl
    (fun t name => addEntry t ["usr", "bin", name] (.program name)) FileTree.empty
  let t := systemLinks.foldl (fun t (location, target) => addEntry t location (.link target)) t
  let t := ["null", "full", "zero", "random", "urandom", "stdin", "stdout", "stderr"].foldl
    (fun t name => addEntry t ["dev", name] .sink) t
  let t := systemFiles.foldl (fun t (location, text) =>
    addEntry t location (.file (Octets.ofText text).toBytes 0o644)) t
  let t := emptyDirectories.foldl
    (fun t path => ((t.makeDirectories none path).toOption).getD t) t
  let t := [("/root", 0o700), ("/tmp", 0o1777), ("/var/tmp", 0o1777)].foldl
    (fun t (path, mode) => (t.changeMode none path mode).toOption.getD t) t
  t

/-- The process that a program is started in. -/
def startProcess (e : Environment) (directory : Nat) (tree : FileTree) : Process where
  tree := tree
  directory := directory
  vars := e.settings.map fun (name, value) =>
    { name := Octets.ofBytes name, value := some (Octets.ofBytes value), exported := true }
  streams := [.input [], .output [], .output []]
  descriptors := [(0, 0), (1, 1), (2, 2)]

/-- What is left of a process that is over, once all is over that ran beside it. -/
def outcomeOf (result : Except Jump Unit × Process) : Outcome :=
  let (_, after) := (runRest patience).run result.2
  { status :=
      match result.1 with
      | .error (.killed _) | .error .exhausted => .signalled
      | _ => .exited (result.2.status % 256)
    output := (after.writtenTo 1).toBytes
    errors := (after.writtenTo 2).toBytes
    tree := after.tree }

/-- The longest argument of a program, in octets. -/
def argumentLimit : Nat :=
  131071

/-- The host that runs programs of the system and scripts, in an environment. -/
def host (e : Environment) : Host where
  run program arguments directory tree := do
    let p := startProcess e directory tree
    let name := Octets.ofText program
    let arguments := arguments.map Octets.ofText
    let resolved ← Program.resolve tree p.here? (directoriesOf p) name arguments
    if (name :: arguments).any (·.length > argumentLimit) then throw .argumentsTooLong
    pure (outcomeOf ((runResolved patience resolved).run p))

end Fleet.Shell
