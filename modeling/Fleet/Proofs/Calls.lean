import Fleet.Proofs.Passages

/-!
# The calls of a turn

Capturing a command line asks the host for at most one thing: to let the shell run the line in the
working directory of that moment. A watched turn does what a turn does, and keeps these calls in
order.

* `run_capture`: a capture is the call that its line comes to.
* `next_congr`: hosts differ in a turn by their answers to calls that texts mention.
* `run_watchedNext`: watching changes nothing.
-/

namespace Fleet

open Attempting (Alike)

/-- What a host is asked for: to run a program with arguments in a directory of a file tree. -/
structure Call : Type where
  program : String
  arguments : List String
  /-- The serial number of the directory. -/
  directory : Nat
  tree : FileTree

/-- How a host answers a call. -/
def Host.answer (host : Host) (call : Call) : Except OsError Outcome :=
  host.run call.program call.arguments call.directory call.tree

namespace Call

/-- The call that capturing a command line comes to. A blank line comes to none, and neither does
one with a NUL. -/
def ofLine? (shell line : String) (w : World) : Option Call :=
  let command := Text.trim line
  if command = "" ∨ [shell, "-c", command].any (·.toList.contains '\x00') then none
  else some ⟨shell, ["-c", command], w.current, w.tree⟩

/-- The call is for a shell to run a command line of a text. -/
def Runs (shell text : String) (call : Call) : Prop :=
  call.program = shell ∧
    ∃ line, .command line ∈ (Template.parse text).atoms ∧
      call.arguments = ["-c", Text.trim line]

theorem of_ofLine? {shell line : String} {w : World} {call : Call}
    (asked : ofLine? shell line w = some call) :
    call = ⟨shell, ["-c", Text.trim line], w.current, w.tree⟩ := by
  unfold ofLine? at asked
  dsimp only at asked
  split at asked
  · cases asked
  · exact (Option.some.inj asked).symm

end Call

namespace Host

/-- Capturing a command line is the call that the line comes to, and asks nothing else. -/
theorem run_capture (host : Host) (shell line : String) (w : World) :
    (host.capture shell line).run w =
      match Call.ofLine? shell line w with
      | none =>
        (.error (if Text.trim line = "" then .emptyCommand
          else .ofStart (Text.trim line) shell .nulInArgument), w)
      | some call =>
        match host.answer call with
        | .error e => (.error (.ofStart (Text.trim line) shell e), w)
        | .ok outcome =>
          (outcome.text (Text.trim line),
            { w with tree := outcome.tree, errors := w.errors ++ outcome.errors }) := by
  rw [capture, ExceptT.run_mk, Call.ofLine?]
  dsimp only
  by_cases blank : Text.trim line = ""
  · rw [if_pos blank, if_pos (.inl blank), if_pos blank]
  · rw [if_neg blank, start]
    by_cases nul : [shell, "-c", Text.trim line].any (·.toList.contains '\x00') = true
    · rw [if_pos nul, if_pos (.inr nul)]
      dsimp only
      rw [if_neg blank]
    · rw [if_neg nul, if_neg (not_or.2 ⟨blank, nul⟩)]
      rfl

/-- Hosts that give the same answer to a call capture its line alike. -/
theorem capture_congr {host host' : Host} {shell line : String} {w : World}
    (same : ∀ call, Call.ofLine? shell line w = some call → host.answer call = host'.answer call) :
    (host.capture shell line).run w = (host'.capture shell line).run w := by
  rw [run_capture, run_capture]
  match asked : Call.ofLine? shell line w with
  | none => rfl
  | some call =>
    dsimp only
    rw [same call asked]

end Host

/-! ## Other hosts -/

/-- An assignment depends on the host by its answers to the calls that texts mention. -/
theorem Project.assign_congr {p : Project} {host host' : Host} {launch : Launch} {origin : String}
    {commands : List String} {repository : Repository}
    (same : ∀ text ∈ repository.texts ++ commands, ∀ call : Call, call.Runs p.shell text →
      host.answer call = host'.answer call) :
    p.assign host launch origin commands repository =
      p.assign host' launch origin commands repository := by
  have captured : ∀ text ∈ repository.texts ++ commands, ∀ line,
      .command line ∈ (Template.parse text).atoms →
        Alike Eq (host.capture p.shell line) (host'.capture p.shell line) := by
    rintro text held line mentioned w _ rfl
    have answered : ∀ call, Call.ofLine? p.shell line w = some call →
        host.answer call = host'.answer call := by
      intro call asked
      refine same text held call ?_
      rw [Call.of_ofLine? asked]
      exact ⟨rfl, line, mentioned, rfl⟩
    have one := Host.capture_congr answered
    exact ⟨congrArg Prod.fst one, congrArg Prod.snd one⟩
  have bound : repository.bindings (host.capture p.shell) p.constants p.environment =
      repository.bindings (host'.capture p.shell) p.constants p.environment :=
    Attempting.eq_of_alike (Repository.alike_bindings fun text held =>
      captured text (List.mem_append_left _ held))
  have assembled : ∀ bindings, launch.assemble (host.capture p.shell) p.shell bindings commands =
      launch.assemble (host'.capture p.shell) p.shell bindings commands := fun bindings =>
    Attempting.eq_of_alike (Launch.alike_assemble fun text held =>
      captured text (List.mem_append_right _ held))
  unfold assign
  dsimp only
  rw [bound]
  simp only [assembled]

namespace Sweep

/-- The texts that the next turn reads as templates. -/
def texts (s : Sweep) : List String :=
  match s.progress with
  | .running _ _ (repository :: _) => repository.texts ++ s.commands
  | _ => []

/-- So does a turn. -/
theorem next_congr {host host' : Host} {s : Sweep}
    (same : ∀ text ∈ s.texts, ∀ call : Call, call.Runs s.project.shell text →
      host.answer call = host'.answer call) : s.next host = s.next host' := by
  unfold next
  unfold texts at same
  match progress : s.progress with
  | .over | .refused _ | .running _ _ [] => rfl
  | .running launch origin (repository :: rest) =>
    rw [progress] at same
    dsimp only
    rw [Project.assign_congr same]

end Sweep

/-! ## Watching -/

/-- A process, with the calls made for it so far. -/
structure Watched : Type where
  world : World
  calls : List Call

/-- Captures command lines and keeps their calls. -/
def Host.watch (host : Host) (shell : String) : Capture Watched := fun line =>
  ExceptT.mk fun s =>
    let outcome := (host.capture shell line).run s.world
    (outcome.1, ⟨outcome.2, s.calls ++ (Call.ofLine? shell line s.world).toList⟩)

/-- A computation that makes no calls. -/
def unasked {ε α : Type} (x : Attempting World ε α) : Attempting Watched ε α :=
  ExceptT.mk fun s =>
    let outcome := x.run s.world
    (outcome.1, { s with world := outcome.2 })

/-- Assembles the command line of one repository, and keeps the calls. -/
def Project.watchedAssign (p : Project) (host : Host) (launch : Launch) (origin : String)
    (commands : List String) (repository : Repository) :
    Attempting Watched SweepFailure Assignment := do
  let capture := host.watch p.shell
  let bindings ← ExceptT.adapt .parameters
    (repository.bindings capture p.constants p.environment)
  let directory := NormalPath.toPath
    (← attempt .path ((← get).world.repositoryDirectory p.root repository.path))
  unasked (enterDirectory (.notEntered directory) directory)
  let assembled ← (launch.assemble capture p.shell bindings commands).run
  unasked (enterDirectory (.notRestored origin) origin)
  let words ← attempt .assembly assembled
  pure ⟨repository.id, words, directory⟩

/-- Takes one turn of a sweep, and keeps the calls. -/
def Sweep.watchedNext (host : Host) (s : Sweep) :
    StateM Watched (Option (Except SweepError Assignment) × Sweep) := do
  match s.progress with
  | .over => pure (none, s)
  | .refused failure => pure (some (.error (s.fail none failure)), { s with progress := .over })
  | .running _ _ [] => pure (none, s)
  | .running launch origin (repository :: rest) =>
    let result ← (s.project.watchedAssign host launch origin s.commands repository).run
    pure (some (result.mapError (s.fail (some repository.id))),
      { s with progress := .running launch origin rest })

/-- The calls of the next turn, in order. -/
def Sweep.calls (host : Host) (s : Sweep) (w : World) : List Call :=
  ((s.watchedNext host).run ⟨w, []⟩).2.calls

/-- The world is the same, whatever was called. -/
def Erased (s : Watched) (w : World) : Prop :=
  s.world = w

theorem Host.run_watch (host : Host) (shell line : String) (s : Watched) :
    (host.watch shell line).run s =
      (((host.capture shell line).run s.world).1, ⟨((host.capture shell line).run s.world).2,
        s.calls ++ (Call.ofLine? shell line s.world).toList⟩) :=
  rfl

theorem Host.alike_watch (host : Host) (shell line : String) :
    Alike Erased (host.watch shell line) (host.capture shell line) := by
  rintro s _ rfl
  rw [run_watch]
  exact ⟨rfl, rfl⟩

theorem alike_unasked {ε α : Type} (x : Attempting World ε α) : Alike Erased (unasked x) x := by
  rintro s _ rfl
  exact ⟨rfl, rfl⟩

theorem alike_attempt {σ τ ε ε' α : Type} {S : σ → τ → Prop} {wrap : ε → ε'} (x : Except ε α) :
    Alike S (attempt wrap x : Attempting σ ε' α) (attempt wrap x) :=
  fun _ _ related => ⟨rfl, related⟩

/-- Watching an assignment changes nothing. -/
theorem Project.alike_watchedAssign (p : Project) (host : Host) (launch : Launch) (origin : String)
    (commands : List String) (repository : Repository) :
    Alike Erased (p.watchedAssign host launch origin commands repository)
      (p.assign host launch origin commands repository) := by
  unfold watchedAssign assign
  refine Attempting.alike_bind (Attempting.alike_adapt (Repository.alike_bindings
    fun _ _ line _ => host.alike_watch p.shell line)) fun bindings => ?_
  refine Attempting.alike_get_bind fun s w same => ?_
  rw [show s.world = w from same]
  refine Attempting.alike_bind (alike_attempt _) fun directory => ?_
  refine Attempting.alike_bind (alike_unasked _) fun _ => ?_
  refine Attempting.alike_run_bind (Launch.alike_assemble
    fun _ _ line _ => host.alike_watch p.shell line) fun assembled => ?_
  refine Attempting.alike_bind (alike_unasked _) fun _ => ?_
  exact Attempting.alike_bind (alike_attempt _) fun _ => Attempting.alike_pure _

/-- Watching a turn changes nothing, and what it keeps are the calls of the turn. -/
theorem Sweep.run_watchedNext (host : Host) (s : Sweep) (w : World) :
    (s.watchedNext host).run ⟨w, []⟩ =
      (((s.next host).run w).1, ⟨((s.next host).run w).2, s.calls host w⟩) := by
  suffices same : ((s.watchedNext host).run ⟨w, []⟩).1 = ((s.next host).run w).1 ∧
      ((s.watchedNext host).run ⟨w, []⟩).2.world = ((s.next host).run w).2 from
    Prod.ext same.1 (congrArg (Watched.mk · _) same.2)
  unfold watchedNext next
  match s.progress with
  | .over | .refused _ | .running _ _ [] => exact ⟨rfl, rfl⟩
  | .running launch origin (repository :: rest) =>
    obtain ⟨same, related⟩ :=
      s.project.alike_watchedAssign host launch origin s.commands repository ⟨w, []⟩ w rfl
    dsimp only
    rw [StateT.run_bind, StateT.run_bind]
    refine ⟨?_, related⟩
    exact congrArg (fun result : Except SweepFailure Assignment =>
      (some (result.mapError (s.fail (some repository.id))),
        { s with progress := .running launch origin rest })) same

end Fleet
