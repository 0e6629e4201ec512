import Fleet.Proofs.Placement
import Fleet.Proofs.Values

/-!
# Values never become directives

Constants, variables, ids, paths and what commands print can hold any characters, such as those of
a directive. They are put into results as they are; what is run was written in an attribute of the
repository or in a command.

* `calls_verbatim`: what a turn runs, what it depends on and what it comes to.
-/

namespace Fleet

namespace Project

variable (p : Project) (host : Host) (launch : Launch) (commands : List String)
  (repository : Repository)

/-- What is assembled for a repository is what its commands come to with the values that its
attributes come to, and so are the failures of both. -/
def Accounts : Except SweepFailure Assignment → Prop
  | .ok assignment =>
    ∃ bindings,
      repository.Gives (host.capture p.shell) p.constants p.environment (.ok bindings) ∧
      launch.Gives (host.capture p.shell) bindings p.shell commands (.ok assignment.words)
  | .error (.parameters cause) =>
    repository.Gives (host.capture p.shell) p.constants p.environment (.error cause)
  | .error (.assembly cause) =>
    ∃ bindings,
      repository.Gives (host.capture p.shell) p.constants p.environment (.ok bindings) ∧
      launch.Gives (host.capture p.shell) bindings p.shell commands (.error cause)
  | .error _ => True

variable {p host launch commands repository}

theorem gives_of_run {w w' : World} {result : Except AttributeError Bindings}
    (run : (p.bindingsOf host repository).run w = (result, w')) :
    repository.Gives (host.capture p.shell) p.constants p.environment result := by
  have given := repository.gives_bindings (host.capture p.shell) p.constants p.environment w
  rwa [run] at given

theorem Stay.gives {w : World} (stay : Stay p host launch commands repository w) :
    launch.Gives (host.capture p.shell) stay.bindings p.shell commands stay.assembled := by
  have given :=
    launch.gives_assemble (host.capture p.shell) stay.bindings p.shell commands stay.inside
  rwa [stay.assembles] at given

theorem Passage.accounts {origin : String} {w w' : World} {visits : List Visit}
    {result : Except SweepFailure Assignment}
    (passage : Passage p host launch origin commands repository w visits result w') :
    p.Accounts host launch commands repository result := by
  cases passage with
  | unbound failed => exact gives_of_run failed
  | unfound | unentered | lost => exact trivial
  | returned stay back =>
    have bound := gives_of_run stay.bound
    have assembled := stay.gives
    match stay.assembled, assembled with
    | .ok words, assembled => exact ⟨stay.bindings, bound, assembled⟩
    | .error cause, assembled => exact ⟨stay.bindings, bound, assembled⟩

end Project

namespace Sweep

variable (host : Host) (s : Sweep) (w : World)

theorem runs_of_mem_calls :
    ∀ call ∈ s.calls host w, ∃ text ∈ s.texts, call.Runs s.project.shell text := by
  intro call mem
  match progress : s.progress with
  | .over | .refused _ | .running _ _ [] =>
    rw [calls, watchedNext, progress] at mem
    exact absurd mem List.not_mem_nil
  | .running launch origin (repository :: rest) =>
    rw [texts, progress]
    rw [calls_of_running progress] at mem
    have early : call ∈ s.project.attributeCalls host repository w →
        ∃ text ∈ repository.texts ++ s.commands, call.Runs s.project.shell text := by
      intro mem
      obtain ⟨-, text, held, runs⟩ := Project.runIn_attributeCalls call mem
      exact ⟨text, List.mem_append_left _ held, runs⟩
    by_cases there : Nonempty (Project.Stay s.project host launch s.commands repository w)
    · obtain ⟨stay⟩ := there
      rw [Project.calls_of_stay stay] at mem
      rcases List.mem_append.1 mem with mem | mem
      · exact early mem
      · obtain ⟨-, text, held, runs⟩ := stay.runIn_calls call mem
        exact ⟨text, List.mem_append_right _ held, runs⟩
    · rw [Project.calls_of_no_stay there] at mem
      exact early mem

theorem accounts_next {launch : Launch} {origin : String} {repository : Repository}
    {rest : List Repository} (progress : s.progress = .running launch origin (repository :: rest)) :
    ∃ result, ((s.next host).run w).1.1 = some (result.mapError (s.fail (some repository.id))) ∧
      s.project.Accounts host launch s.commands repository result := by
  obtain ⟨_, result, w', passage⟩ :=
    Project.exists_passage s.project host launch origin s.commands repository w
  have turn : s.Turn host w _ _ _ w' := .passed progress passage
  refine ⟨result, ?_, passage.accounts⟩
  rw [turn.run_next]

/-- Whatever the values are: all that a turn runs is, but for blanks around it, a command line
written in one of the texts that it reads as templates; hosts that answer such calls alike make no
difference; and what comes of the turn has the values in it as they are. -/
theorem calls_verbatim :
    (∀ call ∈ s.calls host w, ∃ text ∈ s.texts, call.Runs s.project.shell text) ∧
      (∀ host' : Host, (∀ text ∈ s.texts, ∀ call : Call, call.Runs s.project.shell text →
        host.answer call = host'.answer call) → s.next host = s.next host') ∧
      ∀ launch origin repository rest,
        s.progress = .running launch origin (repository :: rest) →
        ∃ result, ((s.next host).run w).1.1 =
            some (result.mapError (s.fail (some repository.id))) ∧
          s.project.Accounts host launch s.commands repository result :=
  ⟨s.runs_of_mem_calls host w, fun _ same => next_congr same,
    fun _ _ _ _ progress => s.accounts_next host w progress⟩

/-- A sweep with a constant, a variable and an id that look like commands, and a reserved attribute
that is one. -/
def lured : Sweep :=
  start
    { root := "/p", shell := "/bin/sh"
      repositories := [{
        id := "{__shell__:rm a}", path := "sub"
        attributes := [("x", .scalar (.text "{c}")), ("y", .list [.text "{__shell__: ls }"]),
          ("name", .scalar (.text "{__shell__:rm b}"))] }]
      constants := [("c", "{__shell__:rm c}")]
      environment := [("$E", "{__shell__:rm d}")] }
    ["{x} {$E|y} {name}"] ["{__shell__:rm a}"] {} Session.besides.world

/-- Only the command in the list is run, by any host and wherever the process is. -/
theorem calls_verbatim_lured :
    (∃ launch origin repository, lured.progress = .running launch origin [repository]) ∧
      ∀ host w, ∀ call ∈ lured.calls host w, call.arguments = ["-c", "ls"] := by
  refine ⟨⟨_, _, _, rfl⟩, fun host w call mem => ?_⟩
  obtain ⟨text, held, -, line, mentioned, same⟩ := (calls_verbatim host lured w).1 call mem
  have atoms : lured.texts.flatMap (fun text => (Template.parse text).atoms) =
      [.name "c", .command " ls ", .name "x", .name "$E", .name "y", .name "name"] := by
    decide +kernel
  have one : .command line ∈ lured.texts.flatMap fun text => (Template.parse text).atoms :=
    List.mem_flatMap.2 ⟨text, held, mentioned⟩
  rw [atoms] at one
  obtain rfl : line = " ls " := by simpa using one
  rw [same]
  decide +kernel

end Sweep

end Fleet
