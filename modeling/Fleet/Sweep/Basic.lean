import Fleet.Execution.Host
import Fleet.Project.Basic
import Fleet.Sweep.Error

/-!
# Sweeps

A sweep goes through the selected repositories of a project and assembles the command line of each
in its directory. It is taken one repository at a time: whoever takes it decides when to go on, and
meanwhile the world may change. After each repository the working directory is the one the sweep
was started in. A sweep that cannot start fails once and is over.
-/

namespace Fleet

/-- The command line of one repository, and the directory to run it in. -/
structure Assignment : Type where
  /-- The id of the repository. -/
  repository : String
  words : List String
  directory : String
  deriving Repr, DecidableEq

/-- How far a sweep is. -/
inductive Progress : Type where
  /-- There may be repositories left. The path of the directory it was started in is kept. -/
  | running (launch : Launch) (origin : String) (remaining : List Repository)
  /-- It could not start, and this is still to be reported. -/
  | refused (failure : SweepFailure)
  /-- There is nothing left. -/
  | over
  deriving Repr

/-- A sweep through some repositories of a project. -/
structure Sweep : Type where
  project : Project
  commands : List String
  selection : List String
  overrides : Overrides
  progress : Progress
  deriving Repr

/-- A part of a computation, its failures seen as those of the whole. -/
def attempt {σ ε ε' α : Type} (wrap : ε → ε') (x : Except ε α) : Attempting σ ε' α :=
  ExceptT.mk (pure (x.mapError wrap))

namespace Project

/-- Enters the directory that a path leads to. -/
def enterDirectory (fail : OsError → SweepFailure) (path : String) :
    Attempting World SweepFailure Unit := do
  let world ← get
  set (← attempt fail (world.enter path))

/-- Assembles the command line of one repository in its directory, and goes back to where the
sweep was started. Not getting back there counts more than a failure to assemble. -/
def assign (p : Project) (host : Host) (launch : Launch) (origin : String)
    (commands : List String) (repository : Repository) :
    Attempting World SweepFailure Assignment := do
  let capture := host.capture p.shell
  let bindings ← ExceptT.adapt .parameters
    (repository.bindings capture p.constants p.environment)
  let directory := NormalPath.toPath
    (← attempt .path ((← get).repositoryDirectory p.root repository.path))
  enterDirectory (.notEntered directory) directory
  let assembled ← (launch.assemble capture p.shell bindings commands).run
  enterDirectory (.notRestored origin) origin
  let words ← attempt .assembly assembled
  pure ⟨repository.id, words, directory⟩

end Project

namespace Sweep

/-- A sweep of commands through the selected repositories, started in a world. -/
def start (p : Project) (commands selection : List String) (overrides : Overrides) (w : World) :
    Sweep :=
  ⟨p, commands, selection, overrides,
    match p.launch commands overrides with
    | .error name => .refused (.unknownVirtualenv name)
    | .ok launch =>
      match w.currentPath with
      | .error e => .refused (.noWorkingDirectory e)
      | .ok origin => .running launch origin (p.select selection)⟩

/-- How many items are still to come. -/
def size (s : Sweep) : Nat :=
  match s.progress with
  | .running _ _ remaining => remaining.length
  | .refused _ => 1
  | .over => 0

/-- A failure together with what was asked for. -/
def fail (s : Sweep) (repository : Option String) (cause : SweepFailure) : SweepError :=
  ⟨repository, s.commands, s.selection, s.overrides, cause⟩

/-- The next item, if there is one, and the sweep after it. -/
def next (host : Host) (s : Sweep) :
    StateM World (Option (Except SweepError Assignment) × Sweep) := do
  match s.progress with
  | .over => pure (none, s)
  | .refused failure => pure (some (.error (s.fail none failure)), { s with progress := .over })
  | .running _ _ [] => pure (none, s)
  | .running launch origin (repository :: rest) =>
    let result ← (s.project.assign host launch origin s.commands repository).run
    pure (some (result.mapError (s.fail (some repository.id))),
      { s with progress := .running launch origin rest })

/-- At most the given number of items, in order. -/
def take (host : Host) : Nat → Sweep → StateM World (List (Except SweepError Assignment))
  | 0, _ => pure []
  | n + 1, s => do
    match ← s.next host with
    | (none, _) => pure []
    | (some item, s) => do
      let items ← take host n s
      pure (item :: items)

/-- All items, in order. -/
def items (host : Host) (s : Sweep) : StateM World (List (Except SweepError Assignment)) :=
  s.take host s.size

end Sweep

end Fleet
