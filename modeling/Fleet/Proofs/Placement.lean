import Fleet.Proofs.Calls
import Fleet.Proofs.Sessions

/-!
# Where calls are made

What a turn calls for is the command lines in the repository's own texts, and then those in the
commands. The latter are run in the directory of the repository, and only if there is one. The
former come before that directory is even looked for, and are run wherever the process is.

* `calls_placed`: which calls a turn makes, for what texts and in which directories, and that the
  turn depends on the host by such calls only.
-/

namespace Fleet

open Attempting (Alike)

/-! ## What is kept while calls are made -/

/-- Calls that run command lines of texts in a directory. -/
def RunIn (shell : String) (texts : List String) (directory : Nat) (calls : List Call) : Prop :=
  ∀ call ∈ calls, call.directory = directory ∧ ∃ text ∈ texts, call.Runs shell text

/-- One process, which is in a directory and where calls run command lines of texts. -/
def Placed (shell : String) (texts : List String) (directory : Nat) (s t : Watched) : Prop :=
  s = t ∧ s.world.current = directory ∧ RunIn shell texts directory s.calls

theorem Host.alike_watch_placed (host : Host) {shell text line : String} {texts : List String}
    (held : text ∈ texts) (mentioned : .command line ∈ (Template.parse text).atoms)
    (directory : Nat) :
    Alike (Placed shell texts directory) (host.watch shell line) (host.watch shell line) := by
  rintro s _ ⟨rfl, there, placed⟩
  have stays := (host.current_capture shell line s.world).trans there
  rw [run_watch]
  refine ⟨rfl, rfl, stays, ?_⟩
  intro call mem
  rcases List.mem_append.1 mem with earlier | asked
  · exact placed call earlier
  · rw [Call.of_ofLine? (Option.mem_toList.1 asked)]
    exact ⟨there, text, held, rfl, line, mentioned, rfl⟩

theorem runIn_of_alike {ε α : Type} {x : Attempting Watched ε α} {shell : String}
    {texts : List String} {w : World} (alike : Alike (Placed shell texts w.current) x x) :
    RunIn shell texts w.current (x.run ⟨w, []⟩).2.calls :=
  (alike ⟨w, []⟩ ⟨w, []⟩ ⟨rfl, rfl, fun _ mem => absurd mem List.not_mem_nil⟩).2.2.2

/-- The same world, and the same calls after some earlier ones. -/
def Later (before : List Call) (s t : Watched) : Prop :=
  s.world = t.world ∧ s.calls = before ++ t.calls

theorem Host.alike_watch_later (host : Host) (shell line : String) (before : List Call) :
    Alike (Later before) (host.watch shell line) (host.watch shell line) := by
  rintro s t ⟨same, calls⟩
  rw [run_watch, run_watch, same, calls]
  exact ⟨rfl, rfl, List.append_assoc ..⟩

/-- A watched computation goes on from any calls as from none. -/
theorem run_watched {ε α : Type} {x : Attempting Watched ε α} {y : Attempting World ε α}
    (erased : Alike Erased x y) (later : ∀ before, Alike (Later before) x x) (w : World)
    (before : List Call) :
    x.run ⟨w, before⟩ =
      ((y.run w).1, ⟨(y.run w).2, before ++ (x.run ⟨w, []⟩).2.calls⟩) := by
  obtain ⟨same, world⟩ := erased ⟨w, before⟩ w rfl
  obtain ⟨-, -, calls⟩ := later before ⟨w, before⟩ ⟨w, []⟩ ⟨rfl, (List.append_nil before).symm⟩
  rw [← calls]
  exact Prod.ext same (congrArg (Watched.mk · _) world)

/-! ## The calls for one repository -/

namespace Project

/-- The calls made to evaluate the attributes of a repository. -/
def attributeCalls (p : Project) (host : Host) (repository : Repository) (w : World) : List Call :=
  ((repository.bindings (host.watch p.shell) p.constants p.environment).run ⟨w, []⟩).2.calls

/-- The calls made in the directory of a repository. -/
def Stay.calls {p : Project} {host : Host} {launch : Launch} {commands : List String}
    {repository : Repository} {w : World} (stay : Stay p host launch commands repository w) :
    List Call :=
  ((launch.assemble (host.watch p.shell) p.shell stay.bindings commands).run
    ⟨stay.inside, []⟩).2.calls

variable {p : Project} {host : Host} {launch : Launch} {origin : String}
  {commands : List String} {repository : Repository} {w : World}

/-- Attributes are evaluated where the process is. -/
theorem runIn_attributeCalls :
    RunIn p.shell repository.texts w.current (p.attributeCalls host repository w) :=
  runIn_of_alike (Repository.alike_bindings fun _ held _ mentioned =>
    host.alike_watch_placed held mentioned w.current)

/-- Commands are evaluated where a stay is. -/
theorem Stay.runIn_calls (stay : Stay p host launch commands repository w) :
    RunIn p.shell commands stay.inside.current stay.calls :=
  runIn_of_alike (Launch.alike_assemble fun _ held _ mentioned =>
    host.alike_watch_placed held mentioned stay.inside.current)

theorem Stay.run_watched_assemble (stay : Stay p host launch commands repository w)
    (before : List Call) :
    (launch.assemble (host.watch p.shell) p.shell stay.bindings commands).run
        ⟨stay.inside, before⟩ =
      (stay.assembled, ⟨stay.leaving, before ++ stay.calls⟩) := by
  rw [run_watched (Launch.alike_assemble fun _ _ line _ => host.alike_watch p.shell line)
    (fun before => Launch.alike_assemble fun _ _ line _ =>
      host.alike_watch_later p.shell line before) stay.inside before, stay.assembles]
  rfl

theorem run_watched_parameters {result : Except AttributeError Bindings} {w' : World}
    (run : (p.bindingsOf host repository).run w = (result, w')) :
    (ExceptT.adapt SweepFailure.parameters
      (repository.bindings (host.watch p.shell) p.constants p.environment)).run ⟨w, []⟩ =
      (result.mapError .parameters, ⟨w', p.attributeCalls host repository w⟩) := by
  rw [Attempting.run_adapt, run_watched (Repository.alike_bindings fun _ _ line _ =>
    host.alike_watch p.shell line) (fun before => Repository.alike_bindings fun _ _ line _ =>
      host.alike_watch_later p.shell line before) w [], run]
  rfl

theorem run_attempt_ok {σ ε ε' α : Type} (wrap : ε → ε') (a : α) (s : σ) :
    (attempt wrap (.ok a) : Attempting σ ε' α).run s = (.ok a, s) :=
  rfl

theorem run_unasked {ε α : Type} {x : Attempting World ε α} {w w' : World} {calls : List Call}
    {result : Except ε α} (run : x.run w = (result, w')) :
    (unasked x).run ⟨w, calls⟩ = (result, ⟨w', calls⟩) := by
  rw [unasked, ExceptT.run_mk, run]

/-- With no directory to assemble a command line in, only the attributes are evaluated. -/
theorem calls_of_no_stay (nowhere : ¬ Nonempty (Stay p host launch commands repository w)) :
    ((p.watchedAssign host launch origin commands repository).run ⟨w, []⟩).2.calls =
      p.attributeCalls host repository w := by
  obtain ⟨_, _, _, passage⟩ :=
    exists_passage p host launch origin commands repository w
  unfold watchedAssign
  cases passage with
  | unbound failed =>
    rw [Attempting.run_bind_error (run_watched_parameters failed)]
  | unfound bound failed =>
    rw [Attempting.run_bind_ok (run_watched_parameters bound), Attempting.run_get_bind, failed]
    rfl
  | unentered bound found failed =>
    rw [Attempting.run_bind_ok (run_watched_parameters bound), Attempting.run_get_bind, found,
      Attempting.run_bind_ok (run_attempt_ok ..)]
    dsimp only
    rw [Attempting.run_bind_error (run_unasked (run_enterDirectory_error failed))]
  | lost stay | returned stay => exact absurd ⟨stay⟩ nowhere

/-- In a directory the commands are evaluated after the attributes. -/
theorem calls_of_stay (stay : Stay p host launch commands repository w) :
    ((p.watchedAssign host launch origin commands repository).run ⟨w, []⟩).2.calls =
      p.attributeCalls host repository w ++ stay.calls := by
  unfold watchedAssign
  rw [Attempting.run_bind_ok (run_watched_parameters stay.bound), Attempting.run_get_bind,
    stay.found, Attempting.run_bind_ok (run_attempt_ok ..)]
  dsimp only
  rw [Attempting.run_bind_ok (run_unasked (run_enterDirectory_ok stay.entered)),
    Attempting.run_lift_bind, stay.run_watched_assemble, Attempting.run_bind]
  match back : stay.leaving.enter origin with
  | .ok w' =>
    rw [run_unasked (run_enterDirectory_ok back)]
    cases stay.assembled <;> rfl
  | .error cause => rw [run_unasked (run_enterDirectory_error back)]

end Project

/-! ## The calls of a turn -/

namespace Sweep

open Project (Stay)

variable {host : Host} {s : Sweep} {w : World}

theorem calls_of_running {launch : Launch} {origin : String} {repository : Repository}
    {rest : List Repository} (progress : s.progress = .running launch origin (repository :: rest)) :
    s.calls host w =
      ((s.project.watchedAssign host launch origin s.commands repository).run ⟨w, []⟩).2.calls := by
  rw [calls, watchedNext, progress]
  rfl

/-- The calls of a turn. Those for the repository's texts are made where the process is, whatever
the repository's path leads to; those for the commands are made after them, in the directory that
the path was found to lead to, and not made without one. They are the calls that the turn itself
makes: watched, it comes to the same, and hosts that answer calls for these texts alike make no
difference to it. -/
theorem calls_placed {launch : Launch} {origin : String} {repository : Repository}
    {rest : List Repository} (progress : s.progress = .running launch origin (repository :: rest)) :
    RunIn s.project.shell repository.texts w.current
        (s.project.attributeCalls host repository w) ∧
      ((∀ text ∈ repository.texts, ∀ line, .command line ∉ (Template.parse text).atoms) →
        s.project.attributeCalls host repository w = []) ∧
      (∀ stay : Stay s.project host launch s.commands repository w,
        s.calls host w = s.project.attributeCalls host repository w ++ stay.calls ∧
        stay.arriving.directoryAt stay.directory.toPath = .ok stay.inside.current ∧
        RunIn s.project.shell s.commands stay.inside.current stay.calls) ∧
      (¬ Nonempty (Stay s.project host launch s.commands repository w) →
        s.calls host w = s.project.attributeCalls host repository w) ∧
      (s.watchedNext host).run ⟨w, []⟩ =
        (((s.next host).run w).1, ⟨((s.next host).run w).2, s.calls host w⟩) ∧
      ∀ host' : Host, (∀ text ∈ s.texts, ∀ call : Call, call.Runs s.project.shell text →
        host.answer call = host'.answer call) → s.next host = s.next host' := by
  have placed : RunIn s.project.shell repository.texts w.current
      (s.project.attributeCalls host repository w) := Project.runIn_attributeCalls
  refine ⟨placed, fun unmentioned => ?_, fun stay => ?_, fun nowhere => ?_,
    s.run_watchedNext host w, fun _ same => next_congr same⟩
  · rw [List.eq_nil_iff_forall_not_mem]
    intro call mem
    obtain ⟨-, text, held, -, line, mentioned, -⟩ := placed call mem
    exact unmentioned text held line mentioned
  · rw [calls_of_running progress]
    exact ⟨Project.calls_of_stay stay, stay.directoryAt_arriving, stay.runIn_calls⟩
  · rw [calls_of_running progress]
    exact Project.calls_of_no_stay nowhere

/-- A repository whose path leads out of the root, and whose attribute runs a command. -/
def stray : Repository :=
  { id := "a", path := "../o", attributes := [("x", .scalar (.text "{__shell__:pwd}"))] }

/-- A sweep through that repository, started beside the project. -/
def astray : Sweep :=
  start { root := "/p", shell := "/bin/sh", repositories := [stray] } ["true"] ["a"] {}
    Session.besides.world

/-- A host on which every program ends well and does nothing. -/
def idle : Host :=
  ⟨fun _ _ _ tree => .ok ⟨.exited 0, [], [], tree⟩⟩

theorem repositoryDirectory_stray (w : World) (directory : NormalPath) :
    w.repositoryDirectory "/p" stray.path ≠ .ok directory := by
  intro found
  have outside : Path.normalize? (Path.join (FileTree.pathOf ["p"]) stray.path) =
      some ⟨true, ["o"]⟩ := by
    decide +kernel
  have held := (World.repositoryDirectory_eq_ok_iff Session.isName_of_mem_root).1 found
  obtain rfl := Option.some.inj (outside.symm.trans held.normal)
  exact absurd held.under (by decide)

/-- The path is refused, and still the command is run, in the directory beside the project. -/
theorem calls_placed_stray :
    astray.progress = .running ⟨false, .andThen, none, false⟩ "/o" [stray] ∧
      (∀ (w : World) directory, w.repositoryDirectory "/p" stray.path ≠ .ok directory) ∧
      astray.calls idle Session.besides.world =
        [⟨"/bin/sh", ["-c", "pwd"], 1, Session.apart⟩] := by
  have progress : astray.progress = .running ⟨false, .andThen, none, false⟩ "/o" [stray] := rfl
  have nowhere : ¬ Nonempty (Stay astray.project idle ⟨false, .andThen, none, false⟩
      astray.commands stray Session.besides.world) :=
    fun ⟨stay⟩ => repositoryDirectory_stray _ _ stay.found
  refine ⟨progress, repositoryDirectory_stray, ?_⟩
  rw [(calls_placed progress).2.2.2.1 nowhere]
  have parsed : Template.parse "{__shell__:pwd}" = ⟨[.directive (.atom (.command "pwd"))]⟩ := by
    decide +kernel
  rw [Project.attributeCalls, Repository.bindings, stray, evaluateAttributes,
    if_neg (by decide), Attribute.evaluate, Scalar.evaluate, Template.substitute, parsed]
  rfl

end Sweep

end Fleet
