import Fleet.Config.Configuration
import Fleet.Config.Expansion
import Fleet.Project.Basic
import Fleet.World.Basic

/-!
# From files to projects

Where the configuration file of a project lies, and how it becomes a project.
-/

/-!
## Finding a project

A project is marked by a configuration file at a fixed place below its root. The project of a
directory is the nearest one among the directories above it, itself included.
-/

namespace Fleet.Project

/-- The directory that marks the root of a project. -/
def markerName : String :=
  ".repomux"

/-- The name of the configuration file in it. -/
def configName : String :=
  "repomux.toml"

/-- The configuration file of the project with the given root. -/
def configPath (root : String) : String :=
  Path.join (Path.join root markerName) configName

/-- The nearest root of a project at or above a path. -/
def findRoot? (w : World) (start : String) : Option String :=
  (Path.ancestors start).find? fun directory => w.tree.isFile w.here? (configPath directory)

end Fleet.Project

/-!
## Loading projects

A configuration file is read, its root worked out from where it lies, and the result made ready to
run commands. The root is the directory that the file lies in, or the one above if that directory
is the marker of a project.
-/

namespace Fleet

/-- Why no project could be loaded. -/
inductive LoadError : Type where
  /-- There is no project at or above the directory. -/
  | notFound (start : String)
  /-- A file or directory cannot be read. -/
  | unreadable (path : String) (cause : OsError)
  /-- The file is no configuration. -/
  | malformed (path : String)
  /-- An id is given to two repositories. -/
  | repeated (id : String)
  /-- The path of a virtualenv cannot be expanded. -/
  | virtualenv (name : String) (cause : ExpansionError)
  deriving Repr, DecidableEq

namespace LoadError

/-- What is wrong with a file that is no configuration. -/
def malformedMessage : String :=
  "the text is not a configuration"

/-- The sentence that reports the failure. -/
def message : LoadError → String
  | notFound start => "No .repomux/repomux.toml found in '" ++ start ++ "' or any parent directory."
  | unreadable path cause => "I/O error while reading '" ++ path ++ "': " ++ cause.message
  | malformed path => "Failed to parse TOML file at '" ++ path ++ "': " ++ malformedMessage
  | repeated id => "Repository id '" ++ id ++ "' is defined more than once."
  | virtualenv name cause =>
    "Could not expand the path of virtualenv '" ++ name ++ "': " ++ cause.message

/-- The messages of the causes below the failure, outermost first. -/
def sources : LoadError → List String
  | unreadable _ cause => [cause.message]
  | malformed _ => [malformedMessage]
  | _ => []

end LoadError

/-- A configuration and the root it belongs to. -/
structure LoadedProject : Type where
  root : String
  configuration : Configuration
  deriving Repr

namespace World

/-- The content of the file that a path leads to, which has to be text. -/
def readText (w : World) (path : String) : Except OsError String := do
  match ← w.tree.entryAt w.here? path with
  | .file content _ => (Text.decodeUtf8 content).mapError fun _ => .notText
  | .directory _ => throw .isDirectory
  | .sink => pure ""
  | .program _ | .link _ => throw .notText

end World

namespace Configuration

/-- The configuration in a text, the file of which is named in the failure. -/
def ofText (path text : String) : Except LoadError Configuration :=
  (parse text).mapError fun
    | .malformed => .malformed path
    | .repeated id => .repeated id

end Configuration

namespace Project

/-- The root that a configuration file belongs to, by its path. -/
def rootOf (path : String) : String :=
  let parent := (Path.parent? path).getD "."
  let root :=
    if Path.fileName? parent = some markerName then (Path.parent? parent).getD parent else parent
  if root = "" then "." else root

/-- Loads the project of a configuration file. -/
def load (w : World) (path : String) : Except LoadError LoadedProject := do
  let text ← (w.readText path).mapError (.unreadable path)
  let configuration ← Configuration.ofText path text
  let root := rootOf path
  let location ← (w.tree.canonicalize w.here? root).mapError (.unreadable root)
  pure ⟨FileTree.pathOf location, configuration⟩

/-- Loads the nearest project at or above a directory. -/
def discover (w : World) (start : String) : Except LoadError LoadedProject :=
  match findRoot? w start with
  | some root => load w (configPath root)
  | none => .error (.notFound start)

end Project

namespace LoadedProject

/-- The directories of virtualenvs, relative paths being followed from the root. -/
def virtualenvs (p : LoadedProject) (e : Environment) :
    List (String × String) → Except LoadError (List (String × String))
  | [] => .ok []
  | (name, path) :: rest => do
    let expanded ← (e.expandPath path).mapError (.virtualenv name)
    pure ((name, Path.join p.root expanded) :: (← virtualenvs p e rest))

/-- The project, ready to run commands in an environment. -/
def ready (p : LoadedProject) (e : Environment) : Except LoadError Project := do
  let virtualenvs ← p.virtualenvs e p.configuration.virtualenvs
  pure {
    root := p.root
    shell := e.hostShell p.configuration.shell
    repositories := p.configuration.repositories
    virtualenvs := virtualenvs
    constants := renderConstants p.configuration.constants
    environment := e.snapshot }

end LoadedProject

end Fleet
