import Fleet.CommandLine.Run
import Fleet.Shell.System

/-!
# The program

Reads the files of a project, carries out the request that the arguments make on that copy of them,
and prints what comes of it. The files themselves stay as they are.
-/

namespace Fleet

/-- The tree with a directory and everything below it read into it. What cannot be read is left
out. -/
partial def readFiles (t : FileTree) (directory : String) : IO FileTree := do
  let mut t := (t.makeDirectories none directory).toOption.getD t
  for entry in ← (← IO.FS.realPath directory).readDir do
    let path := Path.join directory entry.fileName
    try
      match (← entry.path.symlinkMetadata).type with
      | .dir => t ← readFiles t path
      | .file =>
        let content := (← IO.FS.readBinFile path).toList
        let isScript := "#!".toList.isPrefixOf (Octets.ofBytes (content.take 2))
        t := (t.writeFile none path content (if isScript then 0o755 else 0o644)).toOption.getD t
      | .symlink =>
        let target := toString (← IO.FS.realPath path)
        t := (t.makeLink none path target).toOption.getD t
      | .other => pure ()
    catch _ => pure ()
  return t

/-- Whether a file can be found at a path. -/
def canFind (path : String) : IO Bool :=
  try
    discard (IO.FS.realPath path)
    pure true
  catch _ => pure false

/-- The root of the project that arguments are about, seen from a directory. -/
def rootFor (here : String) (arguments : List String) : IO String := do
  match (CommandLine.topGrammar.read arguments).toOption.bind (·.value? "config") with
  | some path => return Path.join here (Project.rootOf path)
  | none =>
    for directory in Path.ancestors here do
      if ← canFind (Project.configPath directory) then return directory
    return here

/-- The environment of the program. -/
def readEnvironment : IO Environment := do
  return Environment.ofBlock (← IO.FS.readBinFile "/proc/self/environ").toList

/-- Carries out the request that arguments make, and prints what comes of it. -/
def carryOut (arguments : List String) : IO UInt32 := do
  let environment ← readEnvironment
  let here := toString (← IO.currentDir)
  let tree ← readFiles Shell.baseTree (← rootFor here arguments)
  let tree := (tree.makeDirectories none here).toOption.getD tree
  match (World.ofTree tree).enter here with
  | .error e => throw (IO.userError e.message)
  | .ok w =>
    let run := CommandLine.run (Shell.host environment) environment arguments
    let (code, w) := run.run w
    (← IO.getStdout).write ⟨w.output.toArray⟩
    (← IO.getStderr).write ⟨w.errors.toArray⟩
    return code.toUInt32

end Fleet

/-- Carries out the request that the arguments make. -/
def main (arguments : List String) : IO UInt32 :=
  Fleet.carryOut arguments
