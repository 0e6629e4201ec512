import Fleet.Proofs.Agreement
import Fleet.Proofs.Placement
import Fleet.Proofs.Selection

/-!
# Repositories do not influence each other

Sweeps through one project are open at once, and their turns are taken in any order. If the shell
leaves the file tree alone and the way back is open, none of them can tell that there are others,
and none of its items can tell what came before it.

* `settled_of_run`: every turn finds the process as it was at the start.
* `same_alone`: an item for a repository is the one that a sweep through it alone comes to.
-/

namespace Fleet

namespace Sweep

/-- An item, had these ids been selected. -/
def reselect (selection : List String) :
    Except SweepError Assignment → Except SweepError Assignment :=
  Except.mapError ({ · with selection := selection })

/-- A sweep through a project that was started in a world, whatever turns of it were taken. -/
structure StartedIn (s : Sweep) (p : Project) (w : World) : Prop where
  project : s.project = p
  running : ∀ launch origin remaining, s.progress = .running launch origin remaining →
    p.launch s.commands s.overrides = .ok launch ∧ w.currentPath = .ok origin ∧
      remaining ⊆ p.repositories

theorem startedIn_start (p : Project) (commands selection : List String) (overrides : Overrides)
    (w : World) : (start p commands selection overrides w).StartedIn p w := by
  refine ⟨rfl, ?_⟩
  intro launch origin remaining progress
  unfold start at progress
  dsimp only at progress
  match launched : p.launch commands overrides with
  | .error _ =>
    rw [launched] at progress
    cases progress
  | .ok _ =>
    rw [launched] at progress
    match here : w.currentPath with
    | .error _ =>
      rw [here] at progress
      cases progress
    | .ok _ =>
      rw [here] at progress
      cases progress
      exact ⟨rfl, rfl, List.filter_sublist.subset⟩

theorem StartedIn.turn {host : Host} {s s' : Sweep} {p : Project} {w v v' : World}
    {visits : List Visit} {item : Option (Except SweepError Assignment)}
    (started : s.StartedIn p w) (turn : s.Turn host v visits item s' v') : s'.StartedIn p w := by
  refine ⟨turn.keeps_project.trans started.project, ?_⟩
  intro launch origin remaining progress'
  cases turn with
  | spent | ended => exact started.running _ _ _ progress'
  | refused => cases progress'
  | passed progress passage =>
    cases progress'
    obtain ⟨launched, here, within⟩ := started.running _ _ _ progress
    exact ⟨launched, here, fun _ mem => within (List.mem_cons_of_mem _ mem)⟩

theorem start_of_launch {p : Project} {commands : List String} {overrides : Overrides} {w : World}
    {launch : Launch} {origin : String} (launched : p.launch commands overrides = .ok launch)
    (here : w.currentPath = .ok origin) (selection : List String) :
    start p commands selection overrides w =
      ⟨p, commands, selection, overrides, .running launch origin (p.select selection)⟩ := by
  rw [start, launched, here]

/-- If no id is given twice, an id selects its own repository alone. -/
theorem select_singleton {p : Project} {repository : Repository}
    (unique : (p.repositories.map Repository.id).Nodup) (listed : repository ∈ p.repositories) :
    p.select [repository.id] = [repository] := by
  unfold Project.select
  generalize p.repositories = table at unique listed
  induction table with
  | nil => exact absurd listed List.not_mem_nil
  | cons other rest ih =>
    rw [List.map_cons, List.nodup_cons] at unique
    obtain ⟨new, unique⟩ := unique
    rcases List.mem_cons.1 listed with rfl | listed
    · have others : ∀ another ∈ rest, ¬ [repository.id].contains another.id = true := by
        intro another mem same
        have same : another.id = repository.id := by simpa using same
        exact new (same ▸ List.mem_map_of_mem mem)
      rw [List.filter_cons_of_pos (by simp), List.filter_eq_nil_iff.2 others]
    · have differs : ¬ [repository.id].contains other.id = true := by
        intro same
        have same : other.id = repository.id := by simpa using same
        exact new (same ▸ List.mem_map_of_mem listed)
      rw [List.filter_cons, if_neg differs]
      exact ih unique listed

/-- Where a sweep was started, a sweep for the same commands through one of its repositories alone
comes to the same item for it. -/
theorem StartedIn.alone {host : Host} {s s' : Sweep} {p : Project} {w v v' : World}
    {visits : List Visit} {item : Except SweepError Assignment} {id : String}
    (started : s.StartedIn p w) (unique : (p.repositories.map Repository.id).Nodup)
    (agrees : w.Agrees v) (turn : s.Turn host v visits (some item) s' v')
    (subject : subject? item = some id) :
    (((start p s.commands [id] s.overrides w).next host).run w).1.1 =
      some (reselect [id] item) := by
  obtain ⟨rfl, running⟩ := started
  generalize paid : some item = answer at turn
  cases turn with
  | spent | ended => cases paid
  | refused =>
    cases paid
    cases subject
  | @passed launch origin repository rest _ result _ progress passage =>
    cases paid
    obtain rfl := Option.some.inj (subject.symm.trans (subject?_of_assign passage))
    obtain ⟨launched, here, listed⟩ := running _ _ _ progress
    let lone := start s.project s.commands [repository.id] s.overrides w
    have first : lone.progress = .running launch origin [repository] := by
      dsimp only [lone]
      rw [start_of_launch launched here, select_singleton unique (listed List.mem_cons_self)]
    obtain ⟨_, result', w', passage'⟩ := Project.exists_passage s.project host launch origin
      s.commands repository w
    have same : result' = result := by
      have alike :=
        (s.project.alike_assign host launch origin s.commands repository _ _ agrees).1
      rwa [passage'.run_assign, passage.run_assign] at alike
    have turn' : lone.Turn host w _ _ _ w' := .passed first passage'
    rw [turn'.run_next, same]
    cases result <;> rfl

end Sweep

namespace Session

open Sweep (reselect subject?)

/-- Only sweeps through one project are opened, their turns are taken with one host, nobody enters
another directory, and nobody else changes the file tree. -/
def Undisturbed (p : Project) (host : Host) (tree : FileTree) (deed : Deed) (s' : Session) : Prop :=
  match deed with
  | .opened _ project _ _ _ => project = p
  | .took _ host' _ => host' = host
  | .dropped _ => True
  | .entered _ => False
  | .changed => s'.world.tree = tree

/-- The process is as it was in a world, and what is open are sweeps through a project that were
started there. -/
structure Settled (p : Project) (w : World) (s : Session) : Prop where
  agrees : w.Agrees s.world
  started : ∀ handle sweep, s.sweeps handle = some sweep → sweep.StartedIn p w

section

variable {p : Project} {host : Host} {start s s' : Session} {deed : Deed}

theorem started_put {w : World} (started : ∀ handle sweep, s.sweeps handle = some sweep →
    sweep.StartedIn p w) {handle : Nat} {sweep : Option Sweep}
    (new : ∀ found, sweep = some found → found.StartedIn p w) :
    ∀ other found, (s.put handle sweep).sweeps other = some found → found.StartedIn p w := by
  intro other found isOpen
  rcases of_put isOpen with here | there
  · exact new found here
  · exact started other found there

/-- If the shell leaves the tree alone and the way back is open, a step of an undisturbed session
keeps it settled. -/
theorem settled_of_step {w : World} (spares : host.Spares p.shell)
    (home : ∀ origin, w.currentPath = .ok origin → w.directoryAt origin = .ok w.current)
    (settled : s.Settled p w) (begun : s.Begun) (step : Step s deed s')
    (undisturbed : Undisturbed p host w.tree deed s') : s'.Settled p w := by
  obtain ⟨agrees, started⟩ := settled
  cases step with
  | opened free =>
    obtain rfl := undisturbed
    refine ⟨agrees, started_put started fun found same => ?_⟩
    rw [← Option.some.inj same, Sweep.start_eq_of_agrees _ _ _ _ agrees.symm]
    exact Sweep.startedIn_start ..
  | @took handle _ sweep sweep' item v isOpen run =>
    obtain rfl := undisturbed
    obtain ⟨visits, turn⟩ := Sweep.turn_iff.1 run
    have first := started handle sweep isOpen
    have back : ∀ origin, sweep.origin? = some origin →
        s.world.directoryAt origin = .ok s.world.current := by
      intro origin opened
      unfold Sweep.origin? at opened
      split at opened
      · next progress =>
        cases opened
        rw [← agrees.directoryAt, ← agrees.current]
        exact home _ (first.running _ _ _ progress).2.1
      · cases opened
    refine ⟨agrees.trans (turn.agrees ?_ (begun handle sweep isOpen) back),
      started_put started fun found same => ?_⟩
    · rwa [first.project]
    · rw [← Option.some.inj same]
      exact first.turn turn
  | dropped => exact ⟨agrees, started_put started fun _ absent => nomatch absent⟩
  | entered => exact undisturbed.elim
  | changed same => exact ⟨⟨undisturbed.symm, agrees.current.trans same.symm⟩, started⟩

/-- So does a whole run. -/
theorem settled_of_run (closed : ∀ handle, start.sweeps handle = none)
    (spares : host.Spares p.shell)
    (home : ∀ origin, start.world.currentPath = .ok origin →
      start.world.directoryAt origin = .ok start.world.current)
    (run : Run (Undisturbed p host start.world.tree) start s) : s.Settled p start.world := by
  have unopened : ∀ {P : Sweep → Prop} handle sweep,
      start.sweeps handle = some sweep → P sweep := by
    intro P handle sweep isOpen
    rw [closed handle] at isOpen
    cases isOpen
  induction run with
  | start => exact ⟨.refl _, unopened⟩
  | step run step undisturbed ih =>
    exact settled_of_step spares home ih (begun_of_run unopened run) step undisturbed

/-- The item that a sweep comes to for a repository, whatever other sweeps through the project are
open, whatever else was selected, and whatever came of turns before: it is the item of a sweep for
the same commands through that repository alone, started where the session began. -/
theorem same_alone {handle : Nat} {sweep : Sweep} {item : Except SweepError Assignment}
    {id : String} (closed : ∀ handle, start.sweeps handle = none)
    (unique : (p.repositories.map Repository.id).Nodup) (spares : host.Spares p.shell)
    (home : ∀ origin, start.world.currentPath = .ok origin →
      start.world.directoryAt origin = .ok start.world.current)
    (run : Run (Undisturbed p host start.world.tree) start s)
    (isOpen : s.sweeps handle = some sweep) (step : Step s (.took handle host (some item)) s')
    (subject : subject? item = some id) :
    (((Sweep.start p sweep.commands [id] sweep.overrides start.world).next host).run
      start.world).1.1 = some (reselect [id] item) := by
  obtain ⟨agrees, started⟩ := settled_of_run closed spares home run
  cases step with
  | took isOpen' taken =>
    obtain rfl := Option.some.inj (isOpen.symm.trans isOpen')
    obtain ⟨visits, turn⟩ := Sweep.turn_iff.1 taken
    exact (started handle sweep isOpen).alone unique agrees turn subject

end

/-! ## Two sweeps through two repositories -/

/-- A repository whose path leads to the link. -/
def orderly : Repository :=
  { id := "b", path := "x/../link" }

/-- A repository whose path leads out of the root, and one that is in order. -/
def pair : Project :=
  { root := "/p", shell := "/bin/sh", repositories := [Sweep.stray, orderly] }

theorem directoryAt_apart {w : World} (same : w.tree = apart) : w.directoryAt "/o" = .ok 1 := by
  have path : FileTree.walkSegments "/o" = ["o"] := by decide +kernel
  have led : w.tree.resolve w.here? "/o" = .ok ["o"] := by
    rw [FileTree.resolve_eq_walk rfl path, same]
    simp +decide [FileTree.walk, FileTree.find?, apart]
  exact World.directoryAt_of_resolve led (by rw [same]; rfl)

theorem bindings_stray :
    (pair.bindingsOf Sweep.idle Sweep.stray).run besides.world =
      (.ok (.layered [] [] [("x", ""), (idName, "a"), (pathName, "../o")]), besides.world) := by
  have parsed : Template.parse "{__shell__:pwd}" = ⟨[.directive (.atom (.command "pwd"))]⟩ := by
    decide +kernel
  rw [Project.bindingsOf, Repository.bindings, Sweep.stray, evaluateAttributes,
    if_neg (by decide), Attribute.evaluate, Scalar.evaluate, Template.substitute, parsed]
  rfl

/-- The turn for the first repository fails. -/
theorem exists_turn_stray {s : Sweep} {launch : Launch} {origin : String} {rest : List Repository}
    (project : s.project = pair)
    (progress : s.progress = .running launch origin (Sweep.stray :: rest)) :
    ∃ e, s.Turn Sweep.idle besides.world [] (some (.error e))
      { s with progress := .running launch origin rest } besides.world := by
  match failed : besides.world.repositoryDirectory "/p" Sweep.stray.path with
  | .ok directory => exact absurd failed (Sweep.repositoryDirectory_stray _ directory)
  | .error cause =>
    have passage : Project.Passage pair Sweep.idle launch origin s.commands Sweep.stray
        besides.world [] (.error (.path cause)) besides.world := .unfound bindings_stray failed
    rw [← project] at passage
    exact ⟨_, Sweep.Turn.passed progress passage⟩

/-- A command without templates is assembled as it stands. -/
theorem assemble_true (w : World) :
    ((⟨false, .andThen, none, false⟩ : Launch).assemble (Sweep.idle.capture pair.shell) pair.shell
      (.layered [] [] [(idName, "b"), (pathName, "x/../link")]) ["true"]).run w =
        (.ok ["true"], w) := by
  have parsed : Template.parse "true" = ⟨[.text "true"]⟩ := by decide +kernel
  rw [Launch.assemble, Template.substituteAll, Template.substitute, parsed]
  rfl

/-- The stay for the second repository. -/
def stayPair : Project.Stay pair Sweep.idle ⟨false, .andThen, none, false⟩ ["true"]
    orderly besides.world where
  bindings := .layered [] [] [(idName, "b"), (pathName, "x/../link")]
  arriving := besides.world
  directory := ⟨true, ["p", "link"]⟩
  inside := { besides.world with current := 3 }
  assembled := .ok ["true"]
  leaving := { besides.world with current := 3 }
  bound := rfl
  found := repositoryDirectory_besides
  entered := enter_besides
  assembles := assemble_true _

/-- A sweep of a command through both repositories, with some of them left. -/
def going (command : String) (remaining : List Repository) : Sweep :=
  ⟨pair, [command], ["b", "a"], {}, .running {} "/o" remaining⟩

theorem start_pair (command : String) :
    Sweep.start pair [command] ["b", "a"] {} besides.world =
      going command pair.repositories :=
  Sweep.start_of_launch rfl rfl _

theorem step_opened (s : Session) (handle : Nat) (free : s.sweeps handle = none)
    (same : s.world = besides.world) (command : String) :
    Step s (.opened handle pair [command] ["b", "a"] {})
      (s.put handle (some (going command pair.repositories))) := by
  rw [← start_pair, ← same]
  exact .opened free

/-- Two sweeps are opened, and both fail for the first repository. -/
theorem exists_run_pair :
    ∃ s, Run (Undisturbed pair Sweep.idle apart) besides s ∧ s.world = besides.world ∧
      s.sweeps 0 = some (going "true" [orderly]) := by
  let first := going "true" pair.repositories
  let second := going "echo {y}" pair.repositories
  obtain ⟨_, failed⟩ := exists_turn_stray (s := first) rfl rfl
  obtain ⟨_, failed'⟩ := exists_turn_stray (s := second) rfl rfl
  have opened := step_opened besides 0 rfl rfl "true"
  have opened' := step_opened (besides.put 0 (some first)) 1 rfl rfl "echo {y}"
  have run : Run (Undisturbed pair Sweep.idle apart) besides
      ((besides.put 0 (some first)).put 1 (some second)) :=
    .step (.step .start opened rfl) opened' rfl
  have took := Step.took (put_self (besides.put 0 (some first)) 1 (some second)) failed'.run_next
  have run := Run.step run took rfl
  have isOpen : (((besides.put 0 (some first)).put 1 (some second)).put 1
      (some (going "echo {y}" [orderly]))).sweeps 0 = some first := rfl
  exact ⟨_, .step run (.took isOpen failed.run_next) rfl, rfl, rfl⟩

/-- Then one of them goes on, and comes to the same for the second repository as it does alone. -/
theorem same_alone_pair :
    (pair.repositories.map Repository.id).Nodup ∧ Sweep.idle.Spares pair.shell ∧
      besides.world.currentPath = .ok "/o" ∧ besides.world.directoryAt "/o" = .ok 1 ∧
      ∃ s s' sweep, Run (Undisturbed pair Sweep.idle apart) besides s ∧
        s.sweeps 0 = some sweep ∧
        Step s (.took 0 Sweep.idle (some (.ok ⟨"b", ["true"], "/p/link"⟩))) s' ∧
        (((Sweep.start pair ["true"] ["b"] {} besides.world).next Sweep.idle).run
          besides.world).1.1 = some (.ok ⟨"b", ["true"], "/p/link"⟩) := by
  have unique : (pair.repositories.map Repository.id).Nodup := by decide
  have spares : Sweep.idle.Spares pair.shell := by
    intro arguments directory tree outcome ran
    cases ran
    rfl
  have back : besides.world.directoryAt "/o" = .ok 1 := directoryAt_apart rfl
  have home : ∀ origin, besides.world.currentPath = .ok origin →
      besides.world.directoryAt origin = .ok besides.world.current := by
    intro origin here
    cases here
    exact back
  obtain ⟨s, run, same, isOpen⟩ := exists_run_pair
  have entered : stayPair.leaving.enter "/o" = .ok besides.world :=
    World.enter_of_directoryAt (directoryAt_apart rfl)
  have passage : Project.Passage pair Sweep.idle {} "/o" ["true"] orderly
      besides.world _ (.ok ⟨"b", ["true"], "/p/link"⟩) besides.world := .returned stayPair entered
  have ran := (Sweep.Turn.passed (s := going "true" [orderly]) rfl passage).run_next
  rw [← same] at ran
  have took := Step.took isOpen ran
  exact ⟨unique, spares, rfl, back, s, _, _, run, isOpen, took,
    same_alone (fun _ => rfl) unique spares home run isOpen took rfl⟩

end Session

end Fleet
