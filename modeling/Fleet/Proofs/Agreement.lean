import Fleet.Proofs.Calls

/-!
# Worlds that agree

What a sweep comes to depends on the file tree and on the working directory, and not on what was
written before. So it goes the same way in two worlds that agree about these, and if programs leave
the tree alone and the way back is open, the world after a turn agrees with the one before it.

* `next_agrees`: turns in worlds that agree come to the same.
* `Kept.turn`: what captures keep is kept by turns.
* `Turn.agrees`: a turn that nothing happens in leaves the process as it found it.
-/

namespace Fleet

open Attempting (Alike Within)

/-- The file tree and the working directory are the same. -/
structure World.Agrees (w v : World) : Prop where
  tree : w.tree = v.tree
  current : w.current = v.current

namespace World.Agrees

variable {u v w : World}

theorem refl (w : World) : w.Agrees w :=
  ⟨rfl, rfl⟩

theorem symm (agrees : w.Agrees v) : v.Agrees w :=
  ⟨agrees.tree.symm, agrees.current.symm⟩

theorem trans (first : w.Agrees v) (second : v.Agrees u) : w.Agrees u :=
  ⟨first.tree.trans second.tree, first.current.trans second.current⟩

/-- Worlds that agree differ in what was written only. -/
theorem eq_written (agrees : w.Agrees v) :
    w = { v with output := w.output, errors := w.errors } := by
  obtain ⟨tree, current⟩ := agrees
  rw [← tree, ← current]

theorem currentPath (agrees : w.Agrees v) : w.currentPath = v.currentPath := by
  rw [agrees.eq_written]
  rfl

theorem repositoryDirectory (agrees : w.Agrees v) (root path : String) :
    w.repositoryDirectory root path = v.repositoryDirectory root path := by
  rw [agrees.eq_written]
  rfl

theorem directoryAt (agrees : w.Agrees v) (path : String) :
    w.directoryAt path = v.directoryAt path := by
  rw [agrees.eq_written]
  rfl

theorem ofLine? (agrees : w.Agrees v) (shell line : String) :
    Call.ofLine? shell line w = Call.ofLine? shell line v := by
  rw [agrees.eq_written]
  rfl

end World.Agrees

/-! ## The same in worlds that agree -/

namespace Host

variable (host : Host)

theorem alike_capture (shell line : String) :
    Alike World.Agrees (host.capture shell line) (host.capture shell line) := by
  intro w v agrees
  rw [run_capture, run_capture, agrees.ofLine?]
  match Call.ofLine? shell line v with
  | none => exact ⟨rfl, agrees⟩
  | some call =>
    dsimp only
    match host.answer call with
    | .error _ => exact ⟨rfl, agrees⟩
    | .ok _ => exact ⟨rfl, rfl, agrees.current⟩

end Host

namespace Project

theorem alike_enterDirectory (fail : OsError → SweepFailure) (path : String) :
    Alike World.Agrees (enterDirectory fail path) (enterDirectory fail path) := by
  intro w v agrees
  match leads : v.directoryAt path with
  | .error cause =>
    have stays : ∀ u : World, u.directoryAt path = .error cause → u.enter path = .error cause := by
      intro u failed
      rw [World.enter, failed]
      rfl
    rw [run_enterDirectory_error (stays v leads),
      run_enterDirectory_error (stays w ((agrees.directoryAt path).trans leads))]
    exact ⟨rfl, agrees⟩
  | .ok serial =>
    rw [run_enterDirectory_ok (World.enter_of_directoryAt leads),
      run_enterDirectory_ok (World.enter_of_directoryAt ((agrees.directoryAt path).trans leads))]
    exact ⟨rfl, agrees.tree, rfl⟩

theorem alike_assign (p : Project) (host : Host) (launch : Launch) (origin : String)
    (commands : List String) (repository : Repository) :
    Alike World.Agrees (p.assign host launch origin commands repository)
      (p.assign host launch origin commands repository) := by
  unfold assign
  refine Attempting.alike_bind (Attempting.alike_adapt (Repository.alike_bindings
    fun _ _ line _ => host.alike_capture p.shell line)) fun bindings => ?_
  refine Attempting.alike_get_bind fun w v agrees => ?_
  rw [agrees.repositoryDirectory]
  refine Attempting.alike_bind (alike_attempt _) fun directory => ?_
  refine Attempting.alike_bind (alike_enterDirectory _ _) fun _ => ?_
  refine Attempting.alike_run_bind (Launch.alike_assemble
    fun _ _ line _ => host.alike_capture p.shell line) fun assembled => ?_
  refine Attempting.alike_bind (alike_enterDirectory _ _) fun _ => ?_
  exact Attempting.alike_bind (alike_attempt _) fun _ => Attempting.alike_pure _

end Project

namespace Sweep

variable {w v : World}

/-- A sweep that is started in worlds that agree is the same sweep. -/
theorem start_eq_of_agrees (p : Project) (commands selection : List String) (overrides : Overrides)
    (agrees : w.Agrees v) :
    start p commands selection overrides w = start p commands selection overrides v := by
  rw [start, start, agrees.currentPath]

/-- A turn comes to the same in a world that agrees, and leaves a world behind that agrees. -/
theorem next_agrees {host : Host} {s : Sweep} {v' : World}
    {taken : Option (Except SweepError Assignment) × Sweep} (agrees : w.Agrees v)
    (turn : (s.next host).run v = (taken, v')) :
    ∃ w', (s.next host).run w = (taken, w') ∧ w'.Agrees v' := by
  unfold next at turn ⊢
  match s.progress, turn with
  | .over, turn | .refused _, turn | .running _ _ [], turn =>
    cases turn
    exact ⟨w, rfl, agrees⟩
  | .running launch origin (repository :: rest), turn =>
    obtain ⟨same, related⟩ :=
      s.project.alike_assign host launch origin s.commands repository w v agrees
    dsimp only at turn ⊢
    rw [StateT.run_bind] at turn ⊢
    cases turn
    refine ⟨_, Prod.ext ?_ rfl, related⟩
    exact congrArg (fun result : Except SweepFailure Assignment =>
      (some (result.mapError (s.fail (some repository.id))),
        { s with progress := .running launch origin rest })) same

end Sweep

/-! ## What a turn keeps -/

section

variable {R : World → World → Prop} {p : Project} {host : Host} {launch : Launch}
  {origin : String} {commands : List String} {repository : Repository} {w w' : World}

/-- What captures keep, and what stays when another directory is entered. -/
structure Kept (R : World → World → Prop) (host : Host) (shell : String) : Prop where
  refl : ∀ w, R w w
  trans : ∀ u v w, R u v → R v w → R u w
  captured : ∀ line, Within R (host.capture shell line)
  moved : ∀ (w : World) (directory : Nat), R w { w with current := directory }

theorem Kept.entered {shell path : String} (kept : Kept R host shell)
    (entered : w.enter path = .ok w') : R w w' := by
  obtain ⟨directory, -, rfl⟩ := World.current_enter entered
  exact kept.moved w directory

theorem Kept.bound {result : Except AttributeError Bindings} (kept : Kept R host p.shell)
    (run : (p.bindingsOf host repository).run w = (result, w')) : R w w' := by
  have within := Repository.within_bindings kept.refl kept.trans kept.captured p.constants
    p.environment repository w
  rwa [run] at within

theorem Kept.stay (kept : Kept R host p.shell)
    (stay : Project.Stay p host launch commands repository w) : R w stay.leaving := by
  have within := Launch.within_assemble kept.refl kept.trans kept.captured stay.bindings launch
    p.shell commands stay.inside
  rw [stay.assembles] at within
  exact kept.trans _ _ _ (kept.bound stay.bound)
    (kept.trans _ _ _ (kept.entered stay.entered) within)

theorem Kept.passage {visits : List Visit} {result : Except SweepFailure Assignment}
    (kept : Kept R host p.shell)
    (passage : Project.Passage p host launch origin commands repository w visits result w') :
    R w w' := by
  cases passage with
  | unbound failed => exact kept.bound failed
  | unfound bound | unentered bound => exact kept.bound bound
  | lost stay => exact kept.stay stay
  | returned stay back => exact kept.trans _ _ _ (kept.stay stay) (kept.entered back)

theorem Kept.turn {s s' : Sweep} {visits : List Visit}
    {item : Option (Except SweepError Assignment)} (kept : Kept R host s.project.shell)
    (turn : s.Turn host w visits item s' w') : R w w' := by
  cases turn with
  | spent | ended | refused => exact kept.refl w
  | passed progress passage => exact kept.passage passage

/-- What was printed stays as it is. -/
theorem kept_output (host : Host) (shell : String) :
    Kept (fun w v => v.output = w.output) host shell where
  refl _ := rfl
  trans _ _ _ first second := second.trans first
  captured line w := by
    rw [Host.run_capture]
    split
    · rfl
    · split <;> rfl
  moved _ _ := rfl

end

/-! ## Programs that leave the tree alone -/

namespace Host

/-- A program leaves every file tree as it is. -/
def Spares (host : Host) (program : String) : Prop :=
  ∀ arguments directory tree outcome,
    host.run program arguments directory tree = .ok outcome → outcome.tree = tree

variable {host : Host}

theorem tree_of_start {program : String} {arguments : List String} {directory : Nat}
    {tree : FileTree} {outcome : Outcome} (spares : host.Spares program)
    (started : host.start program arguments directory tree = .ok outcome) :
    outcome.tree = tree := by
  unfold start at started
  split at started
  · cases started
  · exact spares _ _ _ _ started

/-- If the shell leaves the tree alone, captures keep it. -/
theorem Spares.kept {shell : String} (spares : host.Spares shell) :
    Kept (fun w v => v.tree = w.tree) host shell where
  refl _ := rfl
  trans _ _ _ first second := second.trans first
  captured line w := by
    rw [capture, ExceptT.run_mk]
    dsimp only
    split
    · rfl
    · split
      · rfl
      · next started => exact tree_of_start spares started
  moved _ _ := rfl

theorem tree_of_startIn {program : String} {arguments : List String} {directory : String}
    {w : World} {outcome : Outcome} (spares : host.Spares program)
    (started : host.startIn w program arguments directory = .ok outcome) :
    outcome.tree = w.tree := by
  unfold startIn at started
  split at started
  · cases started
  · obtain ⟨serial, _, started⟩ := of_bind_ok started
    exact tree_of_start spares started

end Host

namespace Project

variable {p : Project} {host : Host} {launch : Launch} {origin : String} {commands : List String}
  {repository : Repository} {w w' : World}

/-- With the way back open, a passage ends where it began. -/
theorem Passage.agrees {visits : List Visit} {result : Except SweepFailure Assignment}
    (spares : host.Spares p.shell) (absolute : Path.isAbsolute origin = true)
    (home : w.directoryAt origin = .ok w.current)
    (passage : Passage p host launch origin commands repository w visits result w') :
    w.Agrees w' := by
  refine ⟨(spares.kept.passage passage).symm, ?_⟩
  have leads : ∀ stay : Stay p host launch commands repository w,
      stay.leaving.directoryAt origin = .ok w.current := fun stay =>
    (World.directoryAt_of_isAbsolute absolute (spares.kept.stay stay)).trans home
  cases passage with
  | unbound failed => exact (current_bindings failed).symm
  | unfound bound | unentered bound => exact (current_bindings bound).symm
  | lost stay failed =>
    rw [World.enter_of_directoryAt (leads stay)] at failed
    cases failed
  | returned stay back =>
    rw [World.enter_of_directoryAt (leads stay)] at back
    cases back
    rfl

end Project

/-- With the way back open, a turn ends where it began. -/
theorem Sweep.Turn.agrees {host : Host} {s s' : Sweep} {w w' : World} {visits : List Visit}
    {item : Option (Except SweepError Assignment)} (spares : host.Spares s.project.shell)
    (begun : s.Begun)
    (home : ∀ origin, s.origin? = some origin → w.directoryAt origin = .ok w.current)
    (turn : s.Turn host w visits item s' w') : w.Agrees w' := by
  cases turn with
  | spent | ended | refused => exact .refl w
  | @passed launch origin repository rest _ _ _ progress passage =>
    rw [Begun, progress] at begun
    exact passage.agrees spares begun (home origin (by rw [origin?, progress]))

end Fleet
