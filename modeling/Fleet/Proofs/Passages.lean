import Fleet.Proofs.Mentions
import Fleet.Proofs.Names
import Fleet.Sweep.Basic

/-!
# Passages through a repository

What a sweep does for one repository ends in one of five ways, and each of them enters certain
directories in a certain order. A `Passage` says which, with every world in between.

* `passage_iff`: passages are exactly what `assign` does.
* `turn_iff`: turns are exactly what `next` does.
* `Turn.lands`: where a turn leaves the process.
* `Turn.notRestored_iff`: when the way back is reported to be lost.
-/

namespace Fleet

/-- A directory that was entered, by the path it was entered by, and the world before that. -/
structure Visit : Type where
  path : String
  before : World

/-- The working directory goes from one directory to another by visits and not otherwise. -/
inductive Tour : Nat → List Visit → Nat → Prop where
  | stay (directory : Nat) : Tour directory [] directory
  | visit {path : String} {before : World} {visits : List Visit} {directory last : Nat}
      (leads : before.directoryAt path = .ok directory) (rest : Tour directory visits last) :
      Tour before.current (⟨path, before⟩ :: visits) last

namespace Project

/-- Working out what the templates for a repository can use. -/
abbrev bindingsOf (p : Project) (host : Host) (repository : Repository) :
    Attempting World AttributeError Bindings :=
  repository.bindings (host.capture p.shell) p.constants p.environment

/-- A stay in the directory of a repository: the directory was found and entered, and the command
line was assembled in it, in vain or not. -/
structure Stay (p : Project) (host : Host) (launch : Launch) (commands : List String)
    (repository : Repository) (w : World) : Type where
  bindings : Bindings
  /-- The world in which the directory is found. -/
  arriving : World
  directory : NormalPath
  inside : World
  assembled : Except AssemblyError (List String)
  leaving : World
  bound : (p.bindingsOf host repository).run w = (.ok bindings, arriving)
  found : arriving.repositoryDirectory p.root repository.path = .ok directory
  entered : arriving.enter directory.toPath = .ok inside
  assembles : (launch.assemble (host.capture p.shell) p.shell bindings commands).run inside =
    (assembled, leaving)

variable (p : Project) (host : Host) (launch : Launch) (origin : String)
  (commands : List String) (repository : Repository)

/-- A passage through a repository, from a world: the directories entered, what comes of it, and
the world after it. -/
inductive Passage (w : World) : List Visit → Except SweepFailure Assignment → World → Prop where
  | unbound {cause : AttributeError} {w' : World}
      (failed : (p.bindingsOf host repository).run w = (.error cause, w')) :
      Passage w [] (.error (.parameters cause)) w'
  | unfound {bindings : Bindings} {cause : PathError} {w' : World}
      (bound : (p.bindingsOf host repository).run w = (.ok bindings, w'))
      (failed : w'.repositoryDirectory p.root repository.path = .error cause) :
      Passage w [] (.error (.path cause)) w'
  | unentered {bindings : Bindings} {directory : NormalPath} {cause : OsError} {w' : World}
      (bound : (p.bindingsOf host repository).run w = (.ok bindings, w'))
      (found : w'.repositoryDirectory p.root repository.path = .ok directory)
      (failed : w'.enter directory.toPath = .error cause) :
      Passage w [] (.error (.notEntered directory.toPath cause)) w'
  | lost {cause : OsError} (stay : Stay p host launch commands repository w)
      (failed : stay.leaving.enter origin = .error cause) :
      Passage w [⟨stay.directory.toPath, stay.arriving⟩] (.error (.notRestored origin cause))
        stay.leaving
  | returned {w' : World} (stay : Stay p host launch commands repository w)
      (back : stay.leaving.enter origin = .ok w') :
      Passage w [⟨stay.directory.toPath, stay.arriving⟩, ⟨origin, stay.leaving⟩]
        ((stay.assembled.mapError .assembly).map (⟨repository.id, ·, stay.directory.toPath⟩)) w'

variable {p host launch origin commands repository}

/-! ## What a repository's part of a sweep does -/

theorem run_enterDirectory_ok {fail : OsError → SweepFailure} {path : String} {w v : World}
    (entered : w.enter path = .ok v) : (enterDirectory fail path).run w = (.ok (), v) := by
  rw [enterDirectory, Attempting.run_get_bind, entered]
  rfl

theorem run_enterDirectory_error {fail : OsError → SweepFailure} {path : String} {w : World}
    {cause : OsError} (failed : w.enter path = .error cause) :
    (enterDirectory fail path).run w = (.error (fail cause), w) := by
  rw [enterDirectory, Attempting.run_get_bind, failed]
  rfl

theorem run_bindings_ok {bindings : Bindings} {w w' : World}
    (bound : (p.bindingsOf host repository).run w = (.ok bindings, w')) :
    (ExceptT.adapt SweepFailure.parameters (p.bindingsOf host repository)).run w =
      (.ok bindings, w') := by
  rw [Attempting.run_adapt, bound]
  rfl

/-- What is left to do once the directory is found. -/
theorem run_assign_found {bindings : Bindings} {directory : NormalPath} {w w' : World}
    (bound : (p.bindingsOf host repository).run w = (.ok bindings, w'))
    (found : w'.repositoryDirectory p.root repository.path = .ok directory) :
    (p.assign host launch origin commands repository).run w =
      (do
        enterDirectory (.notEntered directory.toPath) directory.toPath
        let assembled ← (launch.assemble (host.capture p.shell) p.shell bindings commands).run
        enterDirectory (.notRestored origin) origin
        let words ← attempt .assembly assembled
        pure ⟨repository.id, words, directory.toPath⟩ :
          Attempting World SweepFailure Assignment).run w' := by
  unfold assign
  rw [Attempting.run_bind_ok (run_bindings_ok bound), Attempting.run_get_bind, found]
  rfl

/-- What is left to do once the command line is assembled. -/
theorem run_assign_assembled {w : World} (stay : Stay p host launch commands repository w) :
    (p.assign host launch origin commands repository).run w =
      (do
        enterDirectory (.notRestored origin) origin
        let words ← attempt .assembly stay.assembled
        pure ⟨repository.id, words, stay.directory.toPath⟩ :
          Attempting World SweepFailure Assignment).run stay.leaving := by
  rw [run_assign_found stay.bound stay.found,
    Attempting.run_bind_ok (run_enterDirectory_ok stay.entered), Attempting.run_lift_bind,
    stay.assembles]

/-- A passage is what `assign` does. -/
theorem Passage.run_assign {w w' : World} {visits : List Visit}
    {result : Except SweepFailure Assignment}
    (passage : Passage p host launch origin commands repository w visits result w') :
    (p.assign host launch origin commands repository).run w = (result, w') := by
  cases passage with
  | unbound failed =>
    unfold assign
    apply Attempting.run_bind_error
    rw [Attempting.run_adapt, failed]
    rfl
  | unfound bound failed =>
    unfold assign
    rw [Attempting.run_bind_ok (run_bindings_ok bound), Attempting.run_get_bind, failed]
    rfl
  | unentered bound found failed =>
    rw [run_assign_found bound found]
    exact Attempting.run_bind_error (run_enterDirectory_error failed)
  | lost stay failed =>
    rw [run_assign_assembled stay]
    exact Attempting.run_bind_error (run_enterDirectory_error failed)
  | returned stay back =>
    rw [run_assign_assembled stay, Attempting.run_bind_ok (run_enterDirectory_ok back)]
    cases stay.assembled <;> rfl

/-- There always is a passage. -/
theorem exists_passage (p : Project) (host : Host) (launch : Launch) (origin : String)
    (commands : List String) (repository : Repository) (w : World) :
    ∃ visits result w', Passage p host launch origin commands repository w visits result w' := by
  match bound : (p.bindingsOf host repository).run w with
  | (.error cause, _) => exact ⟨_, _, _, .unbound bound⟩
  | (.ok bindings, arriving) =>
    match found : arriving.repositoryDirectory p.root repository.path with
    | .error cause => exact ⟨_, _, _, .unfound bound found⟩
    | .ok directory =>
      match entered : arriving.enter directory.toPath with
      | .error cause => exact ⟨_, _, _, .unentered bound found entered⟩
      | .ok inside =>
        match assembles :
          (launch.assemble (host.capture p.shell) p.shell bindings commands).run inside with
        | (assembled, leaving) =>
          let stay : Stay p host launch commands repository w :=
            ⟨bindings, arriving, directory, inside, assembled, leaving, bound, found, entered,
              assembles⟩
          match back : leaving.enter origin with
          | .error cause => exact ⟨_, _, _, .lost stay back⟩
          | .ok w' => exact ⟨_, _, _, .returned stay back⟩

/-- Passages are exactly what `assign` does. -/
theorem passage_iff {w w' : World} {result : Except SweepFailure Assignment} :
    (p.assign host launch origin commands repository).run w = (result, w') ↔
      ∃ visits, Passage p host launch origin commands repository w visits result w' := by
  constructor
  · intro run
    obtain ⟨visits, result', w'', passage⟩ :=
      exists_passage p host launch origin commands repository w
    obtain ⟨rfl, rfl⟩ := Prod.mk.inj (run.symm.trans passage.run_assign)
    exact ⟨visits, passage⟩
  · rintro ⟨_, passage⟩
    exact passage.run_assign

/-! ## The working directory on the way -/

theorem current_bindings {w w' : World} {result : Except AttributeError Bindings}
    (run : (p.bindingsOf host repository).run w = (result, w')) : w'.current = w.current := by
  have within := Repository.within_bindings (R := fun w v : World => v.current = w.current)
    (fun _ => rfl) (fun _ _ _ first second => second.trans first)
    (fun line => host.current_capture p.shell line) p.constants p.environment repository w
  rwa [run] at within

namespace Stay

variable {w : World} (stay : Stay p host launch commands repository w)

/-- Evaluating attributes leaves the process where it is. -/
theorem current_arriving : stay.arriving.current = w.current :=
  current_bindings stay.bound

/-- The process is in the directory of the repository. -/
theorem directoryAt_arriving :
    stay.arriving.directoryAt stay.directory.toPath = .ok stay.inside.current := by
  obtain ⟨serial, leads, same⟩ := World.current_enter stay.entered
  rw [same]
  exact leads

/-- Assembling a command line leaves the process where it is. -/
theorem current_leaving : stay.leaving.current = stay.inside.current := by
  have within := Launch.within_assemble (R := fun w v : World => v.current = w.current)
    (fun _ => rfl) (fun _ _ _ first second => second.trans first)
    (fun line => host.current_capture p.shell line) stay.bindings launch p.shell commands
    stay.inside
  rwa [stay.assembles] at within

end Stay

/-- Between two visits the process stays where it is. -/
theorem Passage.tour {w w' : World} {visits : List Visit} {result : Except SweepFailure Assignment}
    (passage : Passage p host launch origin commands repository w visits result w') :
    Tour w.current visits w'.current := by
  cases passage with
  | unbound failed =>
    rw [current_bindings failed]
    exact .stay _
  | unfound bound failed | unentered bound found failed =>
    rw [current_bindings bound]
    exact .stay _
  | lost stay failed =>
    rw [← stay.current_arriving, stay.current_leaving]
    exact .visit stay.directoryAt_arriving (.stay _)
  | returned stay back =>
    obtain ⟨serial, leads, rfl⟩ := World.current_enter back
    rw [← stay.current_arriving]
    refine .visit stay.directoryAt_arriving ?_
    rw [← stay.current_leaving]
    exact .visit leads (.stay serial)

end Project

/-! ## Turns -/

/-- A failure before the first repository. -/
def SweepFailure.IsEarly : SweepFailure → Prop
  | unknownVirtualenv _ | noWorkingDirectory _ => True
  | _ => False

namespace Sweep

open Project (Passage Stay)

/-- One turn of a sweep: the directories entered, the item, and the sweep and the world after
it. -/
inductive Turn (host : Host) (s : Sweep) (w : World) :
    List Visit → Option (Except SweepError Assignment) → Sweep → World → Prop where
  | spent (progress : s.progress = .over) : Turn host s w [] none s w
  | ended {launch : Launch} {origin : String} (progress : s.progress = .running launch origin []) :
      Turn host s w [] none s w
  | refused {failure : SweepFailure} (progress : s.progress = .refused failure) :
      Turn host s w [] (some (.error (s.fail none failure))) { s with progress := .over } w
  | passed {launch : Launch} {origin : String} {repository : Repository} {rest : List Repository}
      {visits : List Visit} {result : Except SweepFailure Assignment} {w' : World}
      (progress : s.progress = .running launch origin (repository :: rest))
      (passage : Passage s.project host launch origin s.commands repository w visits result w') :
      Turn host s w visits (some (result.mapError (s.fail (some repository.id))))
        { s with progress := .running launch origin rest } w'

variable {host : Host} {s s' : Sweep} {w w' : World} {visits : List Visit}
  {item : Option (Except SweepError Assignment)}

/-- A turn is what `next` does. -/
theorem Turn.run_next (turn : Turn host s w visits item s' w') :
    (s.next host).run w = ((item, s'), w') := by
  unfold next
  cases turn with
  | spent progress => rw [progress]; rfl
  | ended progress => rw [progress]; rfl
  | refused progress => rw [progress]; rfl
  | @passed launch origin repository _ _ _ _ progress passage =>
    rw [progress]
    have run : StateT.run (s.project.assign host launch origin s.commands repository).run w = _ :=
      passage.run_assign
    dsimp only
    rw [StateT.run_bind, run]
    rfl

/-- There always is a turn. -/
theorem exists_turn (host : Host) (s : Sweep) (w : World) :
    ∃ visits item s' w', Turn host s w visits item s' w' := by
  match progress : s.progress with
  | .over => exact ⟨_, _, _, _, .spent progress⟩
  | .refused failure => exact ⟨_, _, _, _, .refused progress⟩
  | .running launch origin [] => exact ⟨_, _, _, _, .ended progress⟩
  | .running launch origin (repository :: rest) =>
    obtain ⟨visits, result, w', passage⟩ :=
      Project.exists_passage s.project host launch origin s.commands repository w
    exact ⟨_, _, _, _, .passed progress passage⟩

/-- Turns are exactly what `next` does. -/
theorem turn_iff :
    (s.next host).run w = ((item, s'), w') ↔ ∃ visits, Turn host s w visits item s' w' := by
  constructor
  · intro run
    obtain ⟨visits, item', s'', w'', turn⟩ := exists_turn host s w
    obtain ⟨outcome, rfl⟩ := Prod.mk.inj (run.symm.trans turn.run_next)
    obtain ⟨rfl, rfl⟩ := Prod.mk.inj outcome
    exact ⟨visits, turn⟩
  · rintro ⟨_, turn⟩
    exact turn.run_next

/-! ## Where a turn leaves the process -/

/-- The path of the directory that a sweep goes back to. -/
def origin? (s : Sweep) : Option String :=
  match s.progress with
  | .running _ origin _ => some origin
  | _ => none

/-- The process is in the directory that the origin's path leads to. -/
def Returned (s : Sweep) (w : World) : Prop :=
  ∃ origin, s.origin? = some origin ∧ w.directoryAt origin = .ok w.current

/-- The process is in the directory of the next repository, the command line being assembled. -/
def Stayed (host : Host) (s : Sweep) (w w' : World) : Prop :=
  ∃ launch origin repository rest,
    s.progress = .running launch origin (repository :: rest) ∧
      ∃ stay : Stay s.project host launch s.commands repository w,
        w' = stay.leaving ∧ w'.current = stay.inside.current

/-- The directory of the next repository is entered, and then the origin cannot be. -/
def Strands (host : Host) (s : Sweep) (w : World) : Prop :=
  ∃ launch origin repository rest,
    s.progress = .running launch origin (repository :: rest) ∧
      ∃ (stay : Stay s.project host launch s.commands repository w) (cause : OsError),
        stay.leaving.enter origin = .error cause

/-- Where the process is after a turn, by what came of it. -/
def Lands (host : Host) (s : Sweep) (w : World) (item : Option (Except SweepError Assignment))
    (w' : World) : Prop :=
  match item with
  | none => w'.current = w.current
  | some (.ok _) => s.Returned w'
  | some (.error e) =>
    match e.cause with
    | .unknownVirtualenv _ | .noWorkingDirectory _ | .parameters _ | .path _ | .notEntered .. =>
      w'.current = w.current
    | .assembly _ => s.Returned w'
    | .notRestored .. => s.Stayed host w w'

/-- Going back by an absolute path leads to where that path leads. -/
theorem directoryAt_of_enter {w v : World} {path : String}
    (absolute : Path.isAbsolute path = true) (entered : w.enter path = .ok v) :
    v.directoryAt path = .ok v.current := by
  obtain ⟨serial, leads, rfl⟩ := World.current_enter entered
  rw [← leads]
  exact World.directoryAt_of_isAbsolute absolute rfl

/-- A sweep that began in a directory, or did not begin. -/
def Begun (s : Sweep) : Prop :=
  match s.progress with
  | .running _ origin _ => Path.isAbsolute origin = true
  | .refused failure => failure.IsEarly
  | .over => True

theorem begun_start (p : Project) (commands selection : List String) (overrides : Overrides)
    (w : World) : (start p commands selection overrides w).Begun := by
  unfold start Begun
  dsimp only
  cases p.launch commands overrides with
  | error name => exact trivial
  | ok launch =>
    unfold World.currentPath
    cases w.here? with
    | none => exact trivial
    | some location => exact Path.isAbsolute_pathOf location

theorem Turn.begun (begun : s.Begun) (turn : Turn host s w visits item s' w') : s'.Begun := by
  cases turn with
  | spent | ended => exact begun
  | refused => exact trivial
  | passed progress passage =>
    unfold Begun at begun
    rw [progress] at begun
    exact begun

theorem Turn.tour (turn : Turn host s w visits item s' w') : Tour w.current visits w'.current := by
  cases turn with
  | spent | ended | refused => exact .stay _
  | passed progress passage => exact passage.tour

/-- A sweep stays with its project. -/
theorem Turn.keeps_project (turn : Turn host s w visits item s' w') : s'.project = s.project := by
  cases turn <;> rfl

/-- A turn keeps a sweep's origin. -/
theorem Turn.keeps_origin {origin : String} (opened : s.origin? = some origin)
    (turn : Turn host s w visits item s' w') : s'.origin? = some origin := by
  cases turn with
  | spent | ended => exact opened
  | refused progress =>
    rw [origin?, progress] at opened
    cases opened
  | passed progress passage =>
    rw [origin?, progress] at opened
    exact opened

/-- A turn leaves the process where it was, at the origin, or stranded. -/
theorem Turn.lands (begun : s.Begun) (turn : Turn host s w visits item s' w') :
    s.Lands host w item w' := by
  unfold Begun at begun
  cases turn with
  | spent | ended => rfl
  | @refused failure progress =>
    rw [progress] at begun
    cases failure with
    | unknownVirtualenv | noWorkingDirectory => rfl
    | _ => cases begun
  | @passed launch origin repository rest _ result _ progress passage =>
    rw [progress] at begun
    have opened : s.origin? = some origin := by
      rw [origin?, progress]
    cases passage with
    | unbound failed => exact Project.current_bindings failed
    | unfound bound failed => exact Project.current_bindings bound
    | unentered bound found failed => exact Project.current_bindings bound
    | lost stay failed =>
      exact ⟨launch, origin, repository, rest, progress, stay, rfl, stay.current_leaving⟩
    | returned stay back =>
      have home : s.Returned w' := ⟨origin, opened, directoryAt_of_enter begun back⟩
      match outcome : stay.assembled with
      | .ok words => exact home
      | .error cause => exact home

/-- The way back is reported to be lost exactly if the directory was entered and the origin could
not be, whatever was assembled in between. -/
theorem Turn.notRestored_iff (begun : s.Begun) (turn : Turn host s w visits item s' w') :
    (∃ e origin cause, item = some (.error e) ∧ e.cause = .notRestored origin cause) ↔
      s.Strands host w := by
  constructor
  · rintro ⟨e, origin, cause, same, lost⟩
    unfold Begun at begun
    cases turn with
    | spent | ended => cases same
    | refused progress =>
      cases same
      rw [progress] at begun
      dsimp only [fail] at lost
      rw [lost] at begun
      cases begun
    | passed progress passage =>
      cases passage with
      | lost stay failed => exact ⟨_, _, _, _, progress, stay, _, failed⟩
      | unbound | unfound | unentered =>
        cases same
        cases lost
      | returned stay back =>
        match outcome : stay.assembled with
        | .ok _ =>
          rw [outcome] at same
          cases same
        | .error _ =>
          rw [outcome] at same
          cases same
          cases lost
  · rintro ⟨launch, origin, repository, rest, progress, stay, cause, failed⟩
    have passage : Passage s.project host launch origin s.commands repository w _ _ _ :=
      .lost stay failed
    have again := (Turn.passed progress passage).run_next
    obtain ⟨outcome, -⟩ := Prod.mk.inj (turn.run_next.symm.trans again)
    obtain ⟨rfl, -⟩ := Prod.mk.inj outcome
    exact ⟨_, origin, cause, rfl, rfl⟩

end Sweep

end Fleet
