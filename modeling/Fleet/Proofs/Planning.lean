import Fleet.Proofs.Agreement
import Fleet.Proofs.Journeys

/-!
# Plans

Planning an order collects the items of a sweep and runs nothing; executing it tries each item
before it asks for the next. If programs leave the file tree alone, both come to the same items:
what a plan shows is what is run, and a plan that fails tells how far executing would get.

* `collects_gather`: a plan is what the items of the sweep come to.
* `Journey.items_prefix`: a journey tries these items in order.
* `plan_foretells`: plans tell what executing comes to.
-/

namespace Fleet

namespace Sweep

variable {host : Host} {s s' : Sweep} {w w' : World} {item : Except SweepError Assignment}

/-- The items of a sweep are the next one and those of the sweep after it. -/
theorem run_items_some (turn : (s.next host).run w = ((some item, s'), w')) :
    ((s.items host).run w).1 = item :: ((s'.items host).run w').1 := by
  rw [items, size_of_next_some turn, take, StateT.run_bind, turn]
  rfl

theorem run_items_none (turn : (s.next host).run w = ((none, s'), w')) :
    ((s.items host).run w).1 = [] := by
  rw [items, (of_next_none turn).1]
  rfl

/-- There are as many items as were announced. -/
theorem length_items (host : Host) (s : Sweep) (w : World) :
    ((s.items host).run w).1.length = s.size := by
  match turn : (s.next host).run w with
  | ((none, _), _) => rw [run_items_none turn, (of_next_none turn).1, List.length_nil]
  | ((some _, s'), v) =>
    have size := size_of_next_some turn
    rw [run_items_some turn, List.length_cons, length_items host s' v, size]
termination_by s.size

/-- A turn prints nothing by itself. -/
theorem output_next (host : Host) (s : Sweep) (w : World) :
    ((s.next host).run w).2.output = w.output := by
  obtain ⟨_, _, _, _, turn⟩ := exists_turn host s w
  rw [turn.run_next]
  exact (kept_output host s.project.shell).turn turn

end Sweep

namespace CommandLine

/-- What a list of items comes to as a whole: all command lines, or the first failure. -/
inductive Collects :
    List (Except SweepError Assignment) → Except Failure (List Assignment) → Prop where
  | all (results : List Assignment) : Collects (results.map .ok) (.ok results)
  | failed (before : List Assignment) (e : SweepError)
      (after : List (Except SweepError Assignment)) :
      Collects (before.map .ok ++ .error e :: after) (.error (.sweep e))

theorem Collects.cons {items : List (Except SweepError Assignment)}
    {result : Except Failure (List Assignment)} (collects : Collects items result)
    (a : Assignment) : Collects (.ok a :: items) (result.map (a :: ·)) := by
  cases collects with
  | all results => exact .all (a :: results)
  | failed before e after => exact .failed (a :: before) e after

theorem run_gather_some {host : Host} {s s' : Sweep} {w v : World}
    {item : Except SweepError Assignment} (turn : (s.next host).run w = ((some item, s'), v)) :
    (gather host s.size s).run w =
      (match item with
        | .error e => throw (.sweep e)
        | .ok a => (a :: ·) <$> gather host s'.size s' :
          Attempting World Failure (List Assignment)).run v := by
  have turn : s.next host w = ((some item, s'), v) := turn
  rw [Sweep.size_of_next_some turn, gather]
  refine (Attempting.run_lift_bind _ _ w).trans ?_
  rw [turn]
  cases item with
  | error => rfl
  | ok a =>
    dsimp only
    rw [bind_pure_comp]

/-- Collecting comes to what the items of the sweep come to as a whole, and prints nothing. -/
theorem collects_gather (host : Host) (s : Sweep) (w : World) :
    Collects ((s.items host).run w).1 ((gather host s.size s).run w).1 ∧
      ((gather host s.size s).run w).2.output = w.output := by
  have printed := s.output_next host w
  match turn : (s.next host).run w with
  | ((none, _), _) =>
    rw [Sweep.run_items_none turn, (Sweep.of_next_none turn).1]
    exact ⟨.all [], rfl⟩
  | ((some item, s'), v) =>
    have size := Sweep.size_of_next_some turn
    rw [turn] at printed
    rw [run_gather_some turn, Sweep.run_items_some turn]
    match item with
    | .error e => exact ⟨.failed [] e _, printed⟩
    | .ok a =>
      obtain ⟨collects, quiet⟩ := collects_gather host s' v
      dsimp only
      rw [Attempting.run_map]
      exact ⟨collects.cons a, quiet.trans printed⟩
termination_by s.size

/-! ## Executing beside planning -/

variable {m : Manner} {s : Sweep} {w v w' : World} {t : Trial} {trials : List Trial}

theorem Manner.agrees_announced (m : Manner) (a : Assignment) (w : World) :
    w.Agrees (m.announced a w) := by
  unfold announced
  split <;> exact ⟨rfl, rfl⟩

theorem Manner.agrees_told (m : Manner) (outcome : Except Failure Unit) (w : World) :
    w.Agrees (m.told outcome w) := by
  cases outcome <;> exact ⟨rfl, rfl⟩

/-- Trying an item leaves the world as it is, but for what was written. -/
theorem Manner.Tries.agrees (spares : ∀ program, m.host.Spares program)
    (tries : m.Tries w t w') : w.Agrees w' := by
  cases tries with
  | refused => exact .refl w
  | @ran a _ _ _ runs =>
    refine (m.agrees_announced a w).trans ?_
    generalize spawned : Spawn.mk a.words a.directory _ = spawn at runs
    cases runs with
    | unnamed | unstarted => exact .refl _
    | ended started => exact ⟨(Host.tree_of_startIn (spares _) started).symm, rfl⟩

/-- The items that are tried are the first ones that the sweep comes to in any world that agrees
with the one at the start. -/
theorem Manner.Journey.items_prefix (spares : ∀ program, m.host.Spares program)
    (journey : m.Journey s v trials w') (agrees : w.Agrees v) :
    trials.map Trial.item <+: ((s.items m.host).run w).1 := by
  induction journey generalizing w with
  | ended => exact List.nil_prefix
  | stopped turn =>
    obtain ⟨_, turn', _⟩ := Sweep.next_agrees agrees turn
    rw [Sweep.run_items_some turn']
    exact List.prefix_append [_] _
  | onward turn tries _ _ ih =>
    obtain ⟨_, turn', related⟩ := Sweep.next_agrees agrees turn
    rw [Sweep.run_items_some turn', List.map_cons, List.cons_prefix_cons]
    exact ⟨rfl, ih ((related.trans (tries.agrees spares)).trans (m.agrees_told _ _))⟩

/-! ## What a plan tells -/

/-- If there was a command line to run, it succeeded. -/
def Trial.Sound (t : Trial) : Prop :=
  ∀ a, t.item = .ok a → t.outcome = .ok ()

/-- What a plan that is made in one world tells about executing the order in another one. -/
inductive Foretells (host : Host) (coloured : Bool) (p : Project) (o : Order) (json : Bool)
    (w v : World) : Except Failure Unit × World → Prop where
  /-- The plan prints results, and these are all items of the sweep. Their command lines are run one
  after the other, up to one that fails if that is the end of it. -/
  | results {results : List Assignment} {u w' : World}
      (all : (((o.sweep p w).items host).run w).1 = results.map .ok)
      (quiet : u.output = w.output)
      (shown : (printLines
        (if json then [planJson results] else results.map (planLine coloured))).run u = ((), w'))
      (executed : ∀ keepGoing, ∃ trials result,
        Executes host coloured p o keepGoing v trials result ∧
        trials.flatMap Trial.lines <+: commandLines results ∧
        (keepGoing = true → trials.flatMap Trial.lines = commandLines results) ∧
        ((∀ t ∈ trials, t.Sound) →
          trials.flatMap Trial.lines = commandLines results ∧ result = .ok ())) :
      Foretells host coloured p o json w v (.ok (), w')
  /-- The plan fails for an item and prints nothing. If one does not go on after failures, the
  command lines of the items before it are run, and then executing fails for the same item. -/
  | failure {before : List Assignment} {e : SweepError}
      {after : List (Except SweepError Assignment)} {w' : World}
      (first : (((o.sweep p w).items host).run w).1 = before.map .ok ++ .error e :: after)
      (quiet : w'.output = w.output)
      (executed : ∃ trials result, Executes host coloured p o false v trials result ∧
        ((∀ t ∈ trials, t.Sound) →
          trials.flatMap Trial.lines = commandLines before ∧ result = .error (.sweep e))) :
      Foretells host coloured p o json w v (.error (.sweep e), w')

theorem filterMap_toOption_map_ok (results : List Assignment) :
    (results.map (Except.ok (ε := SweepError))).filterMap Except.toOption = results := by
  rw [List.filterMap_map]
  exact List.filterMap_some

/-- What is run are the command lines among the items that are tried. -/
theorem Manner.Journey.lines_eq (journey : m.Journey s w trials w') :
    trials.flatMap Trial.lines =
      commandLines ((trials.map Trial.item).filterMap Except.toOption) := by
  rw [journey.spawned, List.filterMap_map]
  rfl

theorem fine_of_sound {results : List Assignment}
    (first : trials.map Trial.item <+: results.map .ok) (sound : ∀ t ∈ trials, t.Sound) :
    ∀ t ∈ trials, t.outcome = .ok () := by
  intro t mem
  obtain ⟨a, -, same⟩ := List.mem_map.1 (first.subset (List.mem_map_of_mem mem))
  exact sound t mem a same.symm

/-- A journey whose items are command lines runs all of them if none fails, or if one goes on after
failures. -/
theorem Manner.Journey.complete {results : List Assignment} (journey : m.Journey s w trials w')
    (first : trials.map Trial.item <+: results.map .ok) (size : results.length = s.size)
    (goes : m.keepGoing = true ∨ ∀ t ∈ trials, t.Sound) :
    trials.flatMap Trial.lines = commandLines results := by
  have length : trials.length = s.size := journey.covers
    (goes.imp_right fun sound => failures_eq_zero_iff.2 (fine_of_sound first sound))
  have whole : trials.map Trial.item = results.map .ok :=
    first.eq_of_length (by rw [List.length_map, List.length_map, length, size])
  rw [journey.lines_eq, whole, filterMap_toOption_map_ok]

/-- A journey whose command lines succeed gets to the first item without one. -/
theorem Manner.Journey.reaches {before : List Assignment} {e : SweepError}
    {after : List (Except SweepError Assignment)} (journey : m.Journey s w trials w')
    (strict : m.keepGoing = false)
    (first : trials.map Trial.item <+: before.map .ok ++ .error e :: after)
    (size : before.length < s.size) (sound : ∀ t ∈ trials, t.Sound) :
    ∃ front t, trials = front ++ [t] ∧ front.map Trial.item = before.map .ok ∧
      t.item = .error e ∧ t.outcome = .error (.sweep e) := by
  have further : ¬trials.map Trial.item <+: before.map .ok := by
    intro short
    have length := journey.covers (.inr (failures_eq_zero_iff.2 (fine_of_sound short sound)))
    have bound := short.length_le
    rw [List.length_map, List.length_map, length] at bound
    exact absurd bound (Nat.not_le.2 size)
  obtain ⟨rest, same⟩ :=
    (List.prefix_or_prefix_of_prefix first (List.prefix_append _ _)).resolve_left further
  cases rest with
  | nil =>
    rw [List.append_nil] at same
    exact absurd (same ▸ List.prefix_refl _) further
  | cons item rest =>
    rw [← same, List.prefix_append_right_inj, List.cons_prefix_cons] at first
    obtain ⟨front, tail, rfl, items, same⟩ := List.map_eq_append_iff.1 same.symm
    obtain ⟨t, back, rfl, here, -⟩ := List.map_eq_cons_iff.1 same
    have refused : t.item = .error e := here.trans first.1
    obtain ⟨_, _, tries⟩ := journey.tried t (List.mem_append_right _ List.mem_cons_self)
    have fails : t.outcome = .error (.sweep e) := by rw [tries.eq_of_refused refused]
    rw [journey.stops strict rfl (Trial.failed_iff.2 ⟨_, fails⟩)]
    exact ⟨front, t, rfl, items, refused, fails⟩

theorem run_plan_ok {host : Host} {coloured json : Bool} {p : Project} {o : Order}
    {results : List Assignment} {u : World}
    (ran : (gather host (o.sweep p w).size (o.sweep p w)).run w = (.ok results, u)) :
    (plan host coloured p o json).run w =
      (.ok (), ((printLines
        (if json then [planJson results] else results.map (planLine coloured))).run u).2) := by
  rw [plan, Attempting.run_get_bind, Attempting.run_bind_ok ran]
  rfl

theorem run_plan_error {host : Host} {coloured json : Bool} {p : Project} {o : Order}
    {f : Failure} {u : World}
    (ran : (gather host (o.sweep p w).size (o.sweep p w)).run w = (.error f, u)) :
    (plan host coloured p o json).run w = (.error f, u) := by
  rw [plan, Attempting.run_get_bind, Attempting.run_bind_error ran]

/-- If programs leave the file tree alone, a plan tells what executing the order comes to in any
world that agrees with the one that the plan was made in. -/
theorem plan_foretells {host : Host} (coloured : Bool) (p : Project) (o : Order) (json : Bool)
    (spares : ∀ program, host.Spares program) (agrees : w.Agrees v) :
    Foretells host coloured p o json w v ((plan host coloured p o json).run w) := by
  have same : o.sweep p v = o.sweep p w := Sweep.start_eq_of_agrees _ _ _ _ agrees.symm
  have tried : ∀ keepGoing, ∃ trials w',
      (o.manner host coloured keepGoing).Journey (o.sweep p w) v trials w' ∧
        Executes host coloured p o keepGoing v trials (verdict keepGoing trials) := by
    intro keepGoing
    rw [← same]
    exact exists_executes host coloured p o keepGoing v
  obtain ⟨collects, quiet⟩ := collects_gather host (o.sweep p w) w
  have length := (o.sweep p w).length_items host w
  generalize all : (((o.sweep p w).items host).run w).1 = items at collects length
  match ran : (gather host (o.sweep p w).size (o.sweep p w)).run w, collects, quiet with
  | (.ok _, u), .all results, quiet =>
    rw [run_plan_ok ran]
    refine .results all quiet rfl fun keepGoing => ?_
    obtain ⟨trials, w', journey, executes⟩ := tried keepGoing
    have first := journey.items_prefix spares agrees
    rw [List.length_map] at length
    have complete := journey.complete (all ▸ first) length
    refine ⟨trials, _, executes, ?_, fun goes => complete (.inl goes), fun sound =>
      ⟨complete (.inr sound), verdict_eq_ok_iff.2 (fine_of_sound (all ▸ first) sound)⟩⟩
    rw [journey.lines_eq, ← filterMap_toOption_map_ok results, ← all]
    exact (first.filterMap _).map _
  | (.error _, w'), .failed before e after, quiet =>
    rw [run_plan_error ran]
    refine .failure all quiet ?_
    obtain ⟨trials, w', journey, executes⟩ := tried false
    refine ⟨trials, _, executes, fun sound => ?_⟩
    have size : before.length < (o.sweep p w).size := by
      rw [← length, List.length_append, List.length_map, List.length_cons]
      omega
    obtain ⟨front, t, rfl, items, refused, fails⟩ :=
      journey.reaches rfl (all ▸ journey.items_prefix spares agrees) size sound
    have short : front.map Trial.item <+: before.map .ok := items ▸ List.prefix_rfl
    have fine := fine_of_sound short (List.forall_mem_append.1 sound).1
    constructor
    · rw [journey.lines_eq, List.map_append, items, List.filterMap_append,
        filterMap_toOption_map_ok, List.map_singleton, refused]
      exact congrArg commandLines (List.append_nil before)
    · exact forM_outcome_eq_error_iff.2 ⟨front, t, [], rfl, fine, fails⟩

/-! ## A plan that fails -/

/-- The second repository has no directory. -/
theorem exists_next_gone (host : Host) (command : String) :
    ∃ cause, ((round command [gone]).next host).run inside =
      ((some (.error ⟨some "b", [command], ["a", "b"], {}, .path cause⟩), round command []),
        inside) := by
  have bound : (house.bindingsOf host gone).run inside =
      (.ok (.layered [] [] [(idName, "b"), (pathName, "gone")]), inside) := rfl
  match failed : inside.repositoryDirectory "/p" "gone" with
  | .error cause =>
    have turn : (round command [gone]).Turn host inside _ _ _ _ :=
      .passed rfl (.unfound bound failed)
    exact ⟨cause, turn.run_next⟩
  | .ok directory =>
    have found := (World.repositoryDirectory_eq_ok_iff Session.isName_of_mem_root).1 failed
    have normal : Path.normalize? (Path.join (FileTree.pathOf ["p"]) "gone") =
        some ⟨true, ["p", "gone"]⟩ := by decide +kernel
    obtain rfl := Option.some.inj (normal.symm.trans found.normal)
    have stands : housed.isDirectory inside.here? "/p/gone" = true := found.stands
    rw [FileTree.isDirectory, FileTree.entryAt, resolve_housed_gone] at stands
    cases stands

/-- The command of the first repository is run, and then executing fails as the plan did. -/
theorem plan_foretells_house :
    (∀ program, (ending 0).Spares program) ∧ inside.Agrees inside ∧
      ∃ e, e.repository = some "b" ∧
        ((plan (ending 0) false house ⟨["true"], [], {}⟩ false).run inside).1 =
          .error (.sweep e) ∧
        ∃ trials result,
          Executes (ending 0) false house ⟨["true"], [], {}⟩ false inside trials result ∧
            ((∀ t ∈ trials, t.Sound) → trials.flatMap Trial.lines = [(["true"], "/p/sub")] ∧
              result = .error (.sweep e)) := by
  have spares : ∀ program, (ending 0).Spares program := by
    intro program arguments directory tree outcome ran
    cases ran
    rfl
  have parsed : Template.parse "true" = ⟨[.text "true"]⟩ := by decide +kernel
  have assembles : assembling (ending 0) "true" =
      (.ok ["true"], { inside with current := 2 }) := by
    rw [assembling, Launch.assemble, Template.substituteAll, Template.substitute, parsed]
    rfl
  have turn := next_standing assembles [gone]
  obtain ⟨cause, turn'⟩ := exists_next_gone (ending 0) "true"
  have items : ((((⟨["true"], [], {}⟩ : Order).sweep house inside).items (ending 0)).run inside).1 =
      [.ok ⟨"a", ["true"], "/p/sub"⟩,
        .error ⟨some "b", ["true"], ["a", "b"], {}, .path cause⟩] := by
    rw [sweep_house, Sweep.run_items_some turn, Sweep.run_items_some turn']
    rfl
  have told := plan_foretells false house ⟨["true"], [], {}⟩ false spares (.refl inside)
  generalize ran : (plan (ending 0) false house ⟨["true"], [], {}⟩ false).run inside = made at told
  cases told with
  | @results results _ _ all =>
    rw [items] at all
    match results, all with
    | _ :: _ :: _, all => cases all
  | @failure before e _ _ first _ executed =>
    rw [items] at first
    match before, first with
    | [_], rfl => exact ⟨spares, .refl inside, _, rfl, rfl, executed⟩
    | _ :: _ :: _, first => cases first

end CommandLine

end Fleet
