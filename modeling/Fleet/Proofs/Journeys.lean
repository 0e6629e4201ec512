import Fleet.CommandLine.Run
import Fleet.Proofs.Selection
import Fleet.Proofs.Sessions

/-!
# Journeys

Executing an order takes the items of a sweep one by one, and tries each of them before it asks for
the next. A `Journey` says which items were tried, what was run for each and what came of it, with
every world in between.

* `tries_iff`: trials are exactly what `runItem` does.
* `Journey.run_runAll`, `run_execute`: what executing an order does, told by its journey.
* `exists_journey`: there always is one.
* `Journey.stops`, `Journey.covers`: which items a journey takes.
-/

namespace Fleet

/-- A command line that is handed over to be run in a directory. -/
structure Spawn : Type where
  words : List String
  directory : String
  /-- How its program ended, or why it was not started. Without words there is no program. -/
  ending : Option (Except OsError Status)

/-- A command line is run in a world: what comes of it, and the world after it. -/
inductive Host.Runs (host : Host) (w : World) :
    Spawn → Except ExecutionError Unit → World → Prop where
  | unnamed {directory : String} : Runs host w ⟨[], directory, none⟩ (.error .emptyCommand) w
  | unstarted {program : String} {arguments : List String} {directory : String} {cause : OsError}
      (failed : host.startIn w program arguments directory = .error cause) :
      Runs host w ⟨program :: arguments, directory, some (.error cause)⟩
        (.error (.ofStart (Words.display (program :: arguments)) program cause)) w
  | ended {program : String} {arguments : List String} {directory : String} {outcome : Outcome}
      (started : host.startIn w program arguments directory = .ok outcome) :
      Runs host w ⟨program :: arguments, directory, some (.ok outcome.status)⟩
        (outcome.success (Words.display (program :: arguments)))
        { w with
          tree := outcome.tree
          output := w.output ++ outcome.output
          errors := w.errors ++ outcome.errors }

namespace Host

theorem Runs.run_execute {host : Host} {spawn : Spawn} {w w' : World}
    {result : Except ExecutionError Unit} (runs : host.Runs w spawn result w') :
    (host.execute spawn.words spawn.directory).run w = (result, w') := by
  rw [execute, ExceptT.run_mk]
  cases runs with
  | unnamed => rfl
  | unstarted failed =>
    dsimp only
    rw [failed]
  | ended started =>
    dsimp only
    rw [started]

theorem exists_runs (host : Host) (words : List String) (directory : String) (w : World) :
    ∃ ending result w', host.Runs w ⟨words, directory, ending⟩ result w' := by
  match words with
  | [] => exact ⟨_, _, _, .unnamed⟩
  | program :: arguments =>
    match started : host.startIn w program arguments directory with
    | .error cause => exact ⟨_, _, _, .unstarted started⟩
    | .ok outcome => exact ⟨_, _, _, .ended started⟩

end Host

end Fleet

namespace Fleet.CommandLine

/-- What came of one item of a sweep. -/
structure Trial : Type where
  item : Except SweepError Assignment
  /-- The command lines that were handed over to be run for it. -/
  spawned : List Spawn
  outcome : Except Failure Unit

namespace Trial

/-- The command lines that were handed over to be run for an item, each with its directory. One
without a word is among them, though nothing is started for it. -/
def lines (t : Trial) : List (List String × String) :=
  t.spawned.map fun spawn => (spawn.words, spawn.directory)

/-- Whether the item failed. -/
def failed (t : Trial) : Bool :=
  !t.outcome.isOk

theorem failed_iff {t : Trial} : t.failed = true ↔ ∃ f, t.outcome = .error f := by
  rw [failed]
  match t.outcome with
  | .ok () =>
    constructor
    · intro fails
      cases fails
    · rintro ⟨_, same⟩
      cases same
  | .error f => exact ⟨fun _ => ⟨f, rfl⟩, fun _ => rfl⟩

theorem failed_eq_false_iff {t : Trial} : t.failed = false ↔ t.outcome = .ok () := by
  rw [failed]
  match t.outcome with
  | .ok () => exact ⟨fun _ => rfl, fun _ => rfl⟩
  | .error _ =>
    constructor <;>
    · intro succeeds
      cases succeeds

end Trial

/-- Command lines, each with its directory. -/
def commandLines (items : List Assignment) : List (List String × String) :=
  items.map fun a => (a.words, a.directory)

/-- How many items failed. -/
def failures (trials : List Trial) : Nat :=
  trials.countP Trial.failed

theorem failures_eq_zero_iff {trials : List Trial} :
    failures trials = 0 ↔ ∀ t ∈ trials, t.outcome = .ok () := by
  simp only [failures, List.countP_eq_zero, Bool.not_eq_true, Trial.failed_eq_false_iff]

theorem forM_outcome_cons (t : Trial) (trials : List Trial) :
    (t :: trials).forM Trial.outcome = t.outcome >>= fun _ => trials.forM Trial.outcome :=
  rfl

theorem forM_outcome_eq_ok_iff {trials : List Trial} :
    trials.forM Trial.outcome = .ok () ↔ failures trials = 0 := by
  rw [failures_eq_zero_iff]
  induction trials with
  | nil => exact ⟨fun _ _ mem => absurd mem List.not_mem_nil, fun _ => rfl⟩
  | cons t trials ih =>
    rw [forM_outcome_cons, List.forall_mem_cons, ← ih]
    match t.outcome with
    | .ok () => exact ⟨fun others => ⟨rfl, others⟩, And.right⟩
    | .error _ =>
      constructor
      · intro succeeds
        cases succeeds
      · rintro ⟨succeeds, -⟩
        cases succeeds

/-- The first failure is what comes of all. -/
theorem forM_outcome_eq_error_iff {trials : List Trial} {f : Failure} :
    trials.forM Trial.outcome = .error f ↔
      ∃ before t after, trials = before ++ t :: after ∧
        (∀ earlier ∈ before, earlier.outcome = .ok ()) ∧ t.outcome = .error f := by
  constructor
  · intro fails
    induction trials with
    | nil => cases fails
    | cons t trials ih =>
      rw [forM_outcome_cons] at fails
      match same : t.outcome with
      | .ok () =>
        rw [same] at fails
        obtain ⟨before, failing, after, rfl, fine, fails⟩ := ih fails
        exact ⟨t :: before, failing, after, rfl, List.forall_mem_cons.2 ⟨same, fine⟩, fails⟩
      | .error _ =>
        rw [same] at fails
        cases fails
        exact ⟨[], t, trials, rfl, fun _ mem => absurd mem List.not_mem_nil, same⟩
  · rintro ⟨before, t, after, rfl, fine, fails⟩
    induction before with
    | nil =>
      rw [List.nil_append, forM_outcome_cons, fails]
      rfl
    | cons first before ih =>
      obtain ⟨succeeds, fine⟩ := List.forall_mem_cons.1 fine
      rw [List.cons_append, forM_outcome_cons, succeeds]
      exact ih fine

namespace Manner

/-- The world after the command line of a repository was announced. -/
def announced (m : Manner) (a : Assignment) (w : World) : World :=
  let shown :=
    w.print (paint m.coloured .mark "→" ++ " " ++ paint m.coloured .heading a.repository ++ "\n")
  if m.debug then
    shown.print ("  " ++ paint m.coloured .faint (Words.display a.words) ++ "\n")
  else shown

/-- The world after a failure was told, if there is one. -/
def told (m : Manner) (outcome : Except Failure Unit) (w : World) : World :=
  match outcome with
  | .ok () => w
  | .error f =>
    w.printError (paint m.coloured .bad "✗" ++ " " ++ f.line m.coloured ++ "\n")

/-- An item is tried in a world. A failure of the sweep is all that comes of it, and a command line
is run once. -/
inductive Tries (m : Manner) (w : World) : Trial → World → Prop where
  | refused {e : SweepError} : Tries m w ⟨.error e, [], .error (.sweep e)⟩ w
  | ran {a : Assignment} {ending : Option (Except OsError Status)}
      {result : Except ExecutionError Unit} {w' : World}
      (runs : m.host.Runs (m.announced a w) ⟨a.words, a.directory, ending⟩ result w') :
      Tries m w
        ⟨.ok a, [⟨a.words, a.directory, ending⟩], result.mapError (.execution a.repository)⟩ w'

/-- A journey through a sweep: the items that are tried, and the world at its end. It ends when no
item is left, or with a failure if one does not go on after that. -/
inductive Journey (m : Manner) : Sweep → World → List Trial → World → Prop where
  | ended {s s' : Sweep} {w w' : World} (turn : (s.next m.host).run w = ((none, s'), w')) :
      Journey m s w [] w'
  | stopped {s s' : Sweep} {w v w' : World} {t : Trial}
      (turn : (s.next m.host).run w = ((some t.item, s'), v)) (tries : m.Tries v t w')
      (fails : t.failed = true) (strict : m.keepGoing = false) : Journey m s w [t] w'
  | onward {s s' : Sweep} {w v u w' : World} {t : Trial} {trials : List Trial}
      (turn : (s.next m.host).run w = ((some t.item, s'), v)) (tries : m.Tries v t u)
      (goes : t.failed = true → m.keepGoing = true)
      (rest : Journey m s' (m.told t.outcome u) trials w') : Journey m s w (t :: trials) w'

variable {m : Manner} {s s' : Sweep} {w v w' : World} {t : Trial} {trials : List Trial}

/-! ## One item -/

theorem run_runOne (m : Manner) (a : Assignment) (w : World) :
    (m.runOne a).run w =
      (((m.host.execute a.words a.directory).run (m.announced a w)).1.mapError
          (.execution a.repository),
        ((m.host.execute a.words a.directory).run (m.announced a w)).2) := by
  unfold runOne announced
  cases m.debug <;> rfl

theorem Tries.run_runItem (tries : m.Tries w t w') :
    (m.runItem t.item).run w = (t.outcome, w') := by
  cases tries with
  | refused => rfl
  | ran runs =>
    show (m.runOne _).run w = _
    rw [run_runOne, runs.run_execute]

theorem exists_tries (m : Manner) (item : Except SweepError Assignment) (w : World) :
    ∃ t w', t.item = item ∧ m.Tries w t w' := by
  cases item with
  | error e => exact ⟨_, _, rfl, .refused⟩
  | ok a =>
    obtain ⟨_, _, _, runs⟩ := m.host.exists_runs a.words a.directory (m.announced a w)
    exact ⟨_, _, rfl, .ran runs⟩

/-- Trials are exactly what `runItem` does. -/
theorem tries_iff {item : Except SweepError Assignment} {outcome : Except Failure Unit} :
    (m.runItem item).run w = (outcome, w') ↔ ∃ spawned, m.Tries w ⟨item, spawned, outcome⟩ w' := by
  constructor
  · intro run
    obtain ⟨t, v, rfl, tries⟩ := exists_tries m item w
    obtain ⟨rfl, rfl⟩ := Prod.mk.inj (tries.run_runItem.symm.trans run)
    exact ⟨t.spawned, tries⟩
  · rintro ⟨_, tries⟩
    exact tries.run_runItem

/-- A failure ends it if one does not go on after that. -/
theorem Tries.run_attemptItem_stopped {f : Failure} (tries : m.Tries w t w')
    (fails : t.outcome = .error f) (strict : m.keepGoing = false) :
    (m.attemptItem t.item).run w = (.error f, w') := by
  have run : (do m.runItem t.item; pure true : Attempting World Failure Bool).run w =
      (.error f, w') :=
    Attempting.run_bind_error (tries.run_runItem.trans (by rw [fails]))
  rw [attemptItem, Attempting.run_tryCatch, run, strict]
  rfl

/-- Otherwise it is told whether the item succeeded. -/
theorem Tries.run_attemptItem_onward (tries : m.Tries w t w')
    (goes : t.failed = true → m.keepGoing = true) :
    (m.attemptItem t.item).run w = (.ok (!t.failed), m.told t.outcome w') := by
  have ran := tries.run_runItem
  rw [attemptItem, Attempting.run_tryCatch]
  match same : t.outcome with
  | .ok () =>
    rw [Attempting.run_bind_ok (ran.trans (by rw [same])), Trial.failed, same]
    rfl
  | .error f =>
    have fails : t.failed = true := Trial.failed_iff.2 ⟨f, same⟩
    rw [Attempting.run_bind_error (ran.trans (by rw [same])), goes fails, fails]
    rfl

/-! ## What executing an order does -/

/-- What comes of the trials of a journey by itself: a failure that ended it. -/
def halted (m : Manner) (trials : List Trial) : Except Failure Unit :=
  if m.keepGoing then .ok () else trials.forM Trial.outcome

theorem halted_cons (goes : t.failed = true → m.keepGoing = true) :
    m.halted (t :: trials) = m.halted trials := by
  unfold halted
  split
  · rfl
  · next strict =>
    match same : t.outcome with
    | .ok () =>
      rw [forM_outcome_cons, same]
      rfl
    | .error f => exact absurd (goes (Trial.failed_iff.2 ⟨f, same⟩)) strict

/-- The next item is tried before the others are taken. -/
theorem run_runAll_some {item : Except SweepError Assignment}
    (turn : (s.next m.host).run w = ((some item, s'), v)) (tally : Tally) :
    (m.runAll s.size s tally).run w =
      (do m.runAll s'.size s' (tally.count (← m.attemptItem item)) :
        Attempting World Failure Tally).run v := by
  have turn : s.next m.host w = ((some item, s'), v) := turn
  rw [Sweep.size_of_next_some turn, runAll]
  refine (Attempting.run_lift_bind _ _ w).trans ?_
  rw [turn]

/-- Taking the items of a sweep one by one is a journey through it. -/
theorem Journey.run_runAll (journey : m.Journey s w trials w') (tally : Tally) :
    (m.runAll s.size s tally).run w =
      ((m.halted trials).map fun _ =>
        ⟨tally.total + trials.length, tally.failed + failures trials⟩, w') := by
  induction journey generalizing tally with
  | ended turn =>
    obtain ⟨size, rfl⟩ := Sweep.of_next_none turn
    rw [size, halted]
    split <;> rfl
  | @stopped _ _ _ _ _ t turn tries fails strict =>
    obtain ⟨f, same⟩ := Trial.failed_iff.1 fails
    have halts : m.halted [t] = .error f := by
      rw [halted, strict, forM_outcome_cons, same]
      rfl
    rw [run_runAll_some turn, halts,
      Attempting.run_bind_error (tries.run_attemptItem_stopped same strict)]
    rfl
  | @onward _ _ _ _ _ _ t trials turn tries goes rest ih =>
    rw [run_runAll_some turn, Attempting.run_bind_ok (tries.run_attemptItem_onward goes), ih,
      halted_cons goes]
    have total : tally.total + 1 + trials.length = tally.total + (t :: trials).length := by
      rw [List.length_cons]
      omega
    have failed : (tally.count (!t.failed)).failed + failures trials =
        tally.failed + failures (t :: trials) := by
      rw [failures, failures, List.countP_cons, Tally.count]
      cases t.failed with
      | true =>
        show tally.failed + 1 + _ = tally.failed + (_ + 1)
        omega
      | false => rfl
    show (Except.map (fun _ => (⟨tally.total + 1 + trials.length, _⟩ : Tally)) _, _) = _
    rw [failed, total]

/-- There always is a journey. -/
theorem exists_journey (m : Manner) (s : Sweep) (w : World) :
    ∃ trials w', m.Journey s w trials w' := by
  match turn : (s.next m.host).run w with
  | ((none, _), _) => exact ⟨_, _, .ended turn⟩
  | ((some item, s'), v) =>
    obtain ⟨t, u, rfl, tries⟩ := exists_tries m item v
    by_cases goes : t.failed = true → m.keepGoing = true
    · have smaller : s'.size < s.size := by
        rw [Sweep.size_of_next_some turn]
        exact s'.size.lt_succ_self
      obtain ⟨_, _, rest⟩ := exists_journey m s' (m.told t.outcome u)
      exact ⟨_, _, .onward turn tries goes rest⟩
    · obtain ⟨fails, strict⟩ := Classical.not_imp.1 goes
      exact ⟨_, _, .stopped turn tries fails ((Bool.not_eq_true _).mp strict)⟩
termination_by s.size

/-! ## The items of a journey -/

theorem Tries.spawned (tries : m.Tries w t w') :
    t.lines = commandLines t.item.toOption.toList := by
  cases tries with
  | refused => rfl
  | ran runs => rfl

/-- Without a command line nothing is run, and the reason for that is what comes of an item. -/
theorem Tries.eq_of_refused {e : SweepError} (tries : m.Tries w t w')
    (refused : t.item = .error e) : t = ⟨.error e, [], .error (.sweep e)⟩ := by
  cases tries with
  | refused =>
    cases refused
    rfl
  | ran => cases refused

theorem Journey.tried (journey : m.Journey s w trials w') : ∀ t ∈ trials, ∃ v u, m.Tries v t u := by
  induction journey with
  | ended => exact fun _ mem => absurd mem List.not_mem_nil
  | stopped _ tries => exact List.forall_mem_singleton.2 ⟨_, _, tries⟩
  | onward _ tries _ _ ih => exact List.forall_mem_cons.2 ⟨⟨_, _, tries⟩, ih⟩

/-- What is run are the command lines of the items, one after the other. -/
theorem Journey.spawned (journey : m.Journey s w trials w') :
    trials.flatMap Trial.lines = commandLines (trials.filterMap fun t => t.item.toOption) := by
  induction journey with
  | ended => rfl
  | @stopped _ _ _ _ _ t _ tries =>
    rw [List.flatMap_singleton, tries.spawned, List.filterMap_cons]
    cases t.item <;> rfl
  | @onward _ _ _ _ _ _ t _ _ tries _ _ ih =>
    rw [List.flatMap_cons, tries.spawned, ih, List.filterMap_cons]
    cases t.item <;> rfl

/-- Unless one goes on after a failure, the first one ends the journey. -/
theorem Journey.stops {before after : List Trial} (journey : m.Journey s w trials w')
    (strict : m.keepGoing = false) (split : trials = before ++ t :: after)
    (fails : t.failed = true) : after = [] := by
  induction journey generalizing before with
  | ended => cases before <;> cases split
  | stopped =>
    cases before with
    | nil => exact (List.cons.inj split).2.symm
    | cons _ before => cases before <;> cases split
  | onward _ _ goes _ ih =>
    cases before with
    | nil =>
      rw [(List.cons.inj split).1, strict] at goes
      cases goes fails
    | cons => exact ih (List.cons.inj split).2

/-- A journey without failures takes every item, and so does any if one goes on after them. -/
theorem Journey.covers (journey : m.Journey s w trials w')
    (goes : m.keepGoing = true ∨ failures trials = 0) :
    trials.length = s.size := by
  induction journey with
  | ended turn => rw [(Sweep.of_next_none turn).1, List.length_nil]
  | @stopped _ _ _ _ _ t _ _ fails strict =>
    rcases goes with goes | none
    · rw [goes] at strict
      cases strict
    · rw [failures, List.countP_singleton, if_pos fails] at none
      cases none
  | onward turn _ _ _ ih =>
    rw [List.length_cons, Sweep.size_of_next_some turn, ih]
    exact goes.imp_right fun none => by
      rw [failures_eq_zero_iff] at none ⊢
      exact (List.forall_mem_cons.1 none).2

end Manner

/-- How the commands of an order are run. -/
def Order.manner (o : Order) (host : Host) (coloured keepGoing : Bool) : Manner :=
  ⟨host, coloured, o.overrides.debug.getD false, keepGoing⟩

/-- The world after it was told that nothing was selected, if so. -/
def noted (coloured : Bool) (trials : List Trial) (w : World) : World :=
  if trials = [] then
    w.print (paint coloured .note "No repository selected. Nothing to execute." ++ "\n")
  else w

/-- What comes of trials: the first failure, or if one goes on after failures the number of them. -/
def verdict (keepGoing : Bool) (trials : List Trial) : Except Failure Unit :=
  if keepGoing then
    if failures trials = 0 then .ok () else .error (.some (failures trials) trials.length)
  else trials.forM Trial.outcome

theorem verdict_eq_ok_iff {keepGoing : Bool} {trials : List Trial} :
    verdict keepGoing trials = .ok () ↔ ∀ t ∈ trials, t.outcome = .ok () := by
  rw [← failures_eq_zero_iff]
  cases keepGoing with
  | true =>
    rw [verdict, if_pos rfl]
    split
    · next none => exact ⟨fun _ => none, fun _ => rfl⟩
    · next some =>
      constructor
      · intro same
        cases same
      · intro none
        exact absurd none some
  | false => exact forM_outcome_eq_ok_iff

/-- Executing an order is a journey through its sweep. -/
theorem run_execute {host : Host} {coloured keepGoing : Bool} {p : Project} {o : Order}
    {w w' : World} {trials : List Trial}
    (journey : (o.manner host coloured keepGoing).Journey (o.sweep p w) w trials w') :
    (execute host coloured p o keepGoing).run w =
      (verdict keepGoing trials, noted coloured trials w') := by
  have ran := journey.run_runAll {}
  rw [execute, Attempting.run_get_bind]
  match halts : (o.manner host coloured keepGoing).halted trials with
  | .error f =>
    rw [halts] at ran
    refine (Attempting.run_bind_error ran).trans ?_
    have ends : verdict keepGoing trials = .error f := by
      cases keepGoing with
      | true => cases halts
      | false => exact halts
    have tried : trials ≠ [] := by
      rintro rfl
      cases keepGoing <;> cases halts
    rw [ends, noted, if_neg tried]
  | .ok () =>
    rw [halts] at ran
    refine (Attempting.run_bind_ok ran).trans ?_
    have ends : verdict keepGoing trials =
        if failures trials = 0 then .ok () else .error (.some (failures trials) trials.length) := by
      cases keepGoing with
      | true => rfl
      | false =>
        rw [if_pos (forM_outcome_eq_ok_iff.1 halts)]
        exact halts
    rw [ends]
    simp only [Nat.zero_add, List.length_eq_zero_iff]
    by_cases none : trials = []
    · subst none
      rfl
    · rw [if_neg none, noted, if_neg none]
      by_cases fine : failures trials = 0
      · rw [if_pos fine, if_neg (not_not_intro fine)]
        rfl
      · rw [if_neg fine, if_pos fine]
        rfl

/-- Executing an order in a world goes by trials and comes to a result. After the journey there is
nothing left but to note that no item was there. -/
def Executes (host : Host) (coloured : Bool) (p : Project) (o : Order) (keepGoing : Bool)
    (w : World) (trials : List Trial) (result : Except Failure Unit) : Prop :=
  ∃ w', (o.manner host coloured keepGoing).Journey (o.sweep p w) w trials w' ∧
    (execute host coloured p o keepGoing).run w = (result, noted coloured trials w')

/-- There always are trials that executing an order goes by. -/
theorem exists_executes (host : Host) (coloured : Bool) (p : Project) (o : Order)
    (keepGoing : Bool) (w : World) :
    ∃ trials w', (o.manner host coloured keepGoing).Journey (o.sweep p w) w trials w' ∧
      Executes host coloured p o keepGoing w trials (verdict keepGoing trials) := by
  obtain ⟨trials, w', journey⟩ :=
    Manner.exists_journey (o.manner host coloured keepGoing) (o.sweep p w) w
  exact ⟨trials, w', journey, w', journey, run_execute journey⟩

/-! ## A process in a project -/

/-- A configuration with a repository that is there and one that is not. -/
def table : String :=
  "[[repos]]\nid = \"a\"\npath = \"sub\"\n[[repos]]\nid = \"b\"\npath = \"gone\"\n"

/-- A directory `/p` with that configuration and the directory of the first repository. -/
def housed : FileTree :=
  { entries := [(["p"], .directory 1), (["p", "repomux.toml"], .file (Text.encodeUtf8 table) 0o644),
      (["p", "sub"], .directory 2)]
    nextSerial := 3 }

/-- A process in `/p`. -/
def inside : World :=
  ⟨housed, 1, [], []⟩

/-- The repository that is there. -/
def standing : Repository :=
  { id := "a", path := "sub" }

/-- The repository that is not. -/
def gone : Repository :=
  { id := "b", path := "gone" }

/-- The project of the configuration. -/
def house : Project :=
  { root := "/p", shell := "/bin/sh", repositories := [standing, gone] }

/-- A host on which every program ends with a code. -/
def ending (code : Nat) : Host :=
  ⟨fun _ _ _ t => .ok ⟨.exited code, [], [], t⟩⟩

/-- A sweep of a command through the project, with some of the repositories left. -/
def round (command : String) (remaining : List Repository) : Sweep :=
  ⟨house, [command], ["a", "b"], {}, .running {} "/p" remaining⟩

theorem sweep_house (command : String) :
    (⟨[command], [], {}⟩ : Order).sweep house inside = round command [standing, gone] :=
  rfl

theorem resolve_housed_root (here : Option Location) : housed.resolve here "/p" = .ok ["p"] := by
  have path : FileTree.walkSegments "/p" = ["p"] := by decide +kernel
  rw [FileTree.resolve_eq_walk rfl path]
  simp +decide [FileTree.walk, FileTree.find?, housed]

theorem resolve_housed_sub (here : Option Location) :
    housed.resolve here "/p/sub" = .ok ["p", "sub"] := by
  have path : FileTree.walkSegments "/p/sub" = ["p", "sub"] := by decide +kernel
  rw [FileTree.resolve_eq_walk rfl path]
  simp +decide [FileTree.walk, FileTree.find?, housed, List.lookup_cons]

theorem resolve_housed_file (here : Option Location) :
    housed.resolve here "/p/repomux.toml" = .ok ["p", "repomux.toml"] := by
  have path : FileTree.walkSegments "/p/repomux.toml" = ["p", "repomux.toml"] := by decide +kernel
  rw [FileTree.resolve_eq_walk rfl path]
  simp +decide [FileTree.walk, FileTree.find?, housed, List.lookup_cons]

theorem resolve_housed_gone (here : Option Location) :
    housed.resolve here "/p/gone" = .error .noSuchFile := by
  have path : FileTree.walkSegments "/p/gone" = ["p", "gone"] := by decide +kernel
  rw [FileTree.resolve_eq_walk rfl path]
  simp +decide [FileTree.walk, FileTree.find?, housed, List.lookup_cons]

theorem shallow_housed : housed.Shallow := by
  decide +kernel

theorem repositoryDirectory_standing :
    inside.repositoryDirectory "/p" "sub" = .ok ⟨true, ["p", "sub"]⟩ := by
  exact (World.repositoryDirectory_eq_ok_iff Session.isName_of_mem_root).2 <|
    .of_resolve shallow_housed (by decide +kernel) rfl (by decide) (resolve_housed_sub _) rfl
      (resolve_housed_root _) (by decide)

/-- What assembling a command comes to in the directory of the repository that is there. -/
def assembling (host : Host) (command : String) : Except AssemblyError (List String) × World :=
  (({} : Launch).assemble (host.capture "/bin/sh") "/bin/sh"
    (.layered [] [] [(idName, "a"), (pathName, "sub")]) [command]).run { inside with current := 2 }

/-- The directory is entered, the command assembled, and the way back taken. -/
theorem next_standing {host : Host} {command : String}
    {assembled : Except AssemblyError (List String)}
    (assembles : assembling host command = (assembled, { inside with current := 2 }))
    (rest : List Repository) :
    ((round command (standing :: rest)).next host).run inside =
      ((some (((assembled.mapError .assembly).map (⟨"a", ·, "/p/sub"⟩)).mapError
        ((round command (standing :: rest)).fail (some "a"))), round command rest), inside) := by
  let stay : Project.Stay house host {} [command] standing inside :=
    { bindings := .layered [] [] [(idName, "a"), (pathName, "sub")]
      arriving := inside
      directory := ⟨true, ["p", "sub"]⟩
      inside := { inside with current := 2 }
      assembled := assembled
      leaving := { inside with current := 2 }
      bound := rfl
      found := repositoryDirectory_standing
      entered :=
        World.enter_of_directoryAt (World.directoryAt_of_resolve (resolve_housed_sub _) rfl)
      assembles := assembles }
  have back : stay.leaving.enter "/p" = .ok inside :=
    World.enter_of_directoryAt (World.directoryAt_of_resolve (resolve_housed_root _) rfl)
  have turn : (round command (standing :: rest)).Turn host inside _ _ _ _ :=
    .passed rfl (.returned stay back)
  exact turn.run_next

end Fleet.CommandLine
