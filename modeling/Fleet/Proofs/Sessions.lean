import Fleet.Proofs.Directories
import Fleet.Proofs.Passages

/-!
# Sessions

A process can have any number of sweeps open at once. Between their turns, which come in any order,
it may change its working directory, and the file tree may change in any way.

* `working_directory`: what each step does to the working directory, and when it stays the same.
-/

namespace Fleet

/-- A process with the sweeps it has open. -/
structure Session : Type where
  world : World
  sweeps : Nat → Option Sweep

/-- What is done in a session. -/
inductive Deed : Type where
  | opened (handle : Nat) (project : Project) (commands selection : List String)
      (overrides : Overrides)
  | took (handle : Nat) (host : Host) (item : Option (Except SweepError Assignment))
  | dropped (handle : Nat)
  | entered (path : String)
  /-- Anything that leaves the working directory alone. -/
  | changed

namespace Session

/-- The session with another sweep, or none, at a handle. -/
def put (s : Session) (handle : Nat) (sweep : Option Sweep) : Session :=
  { s with sweeps := fun other => if other = handle then sweep else s.sweeps other }

@[simp]
theorem put_self (s : Session) (handle : Nat) (sweep : Option Sweep) :
    (s.put handle sweep).sweeps handle = sweep :=
  if_pos rfl

/-- What is open after a sweep was put at a handle. -/
theorem of_put {s : Session} {handle other : Nat} {sweep : Option Sweep} {found : Sweep}
    (isOpen : (s.put handle sweep).sweeps other = some found) :
    sweep = some found ∨ s.sweeps other = some found := by
  unfold put at isOpen
  dsimp only at isOpen
  split at isOpen
  · exact .inl isOpen
  · exact .inr isOpen

/-- One step of a session. -/
inductive Step : Session → Deed → Session → Prop where
  | opened {s : Session} {handle : Nat} {project : Project} {commands selection : List String}
      {overrides : Overrides} (free : s.sweeps handle = none) :
      Step s (.opened handle project commands selection overrides)
        (s.put handle (some (Sweep.start project commands selection overrides s.world)))
  | took {s : Session} {handle : Nat} {host : Host} {sweep sweep' : Sweep}
      {item : Option (Except SweepError Assignment)} {w : World}
      (isOpen : s.sweeps handle = some sweep)
      (run : (sweep.next host).run s.world = ((item, sweep'), w)) :
      Step s (.took handle host item) { s.put handle (some sweep') with world := w }
  | dropped {s : Session} {handle : Nat} : Step s (.dropped handle) (s.put handle none)
  | entered {s : Session} {path : String} {w : World} (run : s.world.enter path = .ok w) :
      Step s (.entered path) { s with world := w }
  | changed {s : Session} {w : World} (same : w.current = s.world.current) :
      Step s .changed { s with world := w }

/-- The sessions that steps lead to, each of them being allowed by what it is and leads to. -/
inductive Run (Allowed : Deed → Session → Prop) (start : Session) : Session → Prop where
  | start : Run Allowed start start
  | step {s s' : Session} {deed : Deed} (run : Run Allowed start s) (step : Step s deed s')
      (allowed : Allowed deed s') : Run Allowed start s'

/-! ## Open sweeps -/

/-- All open sweeps have begun in a directory, or did not begin. -/
def Begun (s : Session) : Prop :=
  ∀ handle sweep, s.sweeps handle = some sweep → sweep.Begun

theorem begun_put {s : Session} (begun : s.Begun) {handle : Nat} {sweep : Option Sweep}
    (new : ∀ found, sweep = some found → found.Begun) : (s.put handle sweep).Begun := by
  intro other found isOpen
  rcases of_put isOpen with here | there
  · exact new found here
  · exact begun other found there

theorem begun_of_step {s s' : Session} {deed : Deed} (begun : s.Begun) (step : Step s deed s') :
    s'.Begun := by
  cases step with
  | opened free =>
    refine begun_put begun fun found same => ?_
    rw [← Option.some.inj same]
    exact Sweep.begun_start ..
  | took isOpen run =>
    obtain ⟨_, turn⟩ := Sweep.turn_iff.1 run
    refine fun handle => begun_put begun (fun found same => ?_) handle
    rw [← Option.some.inj same]
    exact turn.begun (begun _ _ isOpen)
  | dropped => exact begun_put begun fun _ absent => nomatch absent
  | entered => exact begun
  | changed => exact begun

theorem begun_of_run {Allowed : Deed → Session → Prop} {start s : Session} (begun : start.Begun)
    (run : Run Allowed start s) : s.Begun := by
  induction run with
  | start => exact begun
  | step _ step _ ih => exact begun_of_step ih step

/-! ## The working directory -/

/-- What a step does to the working directory. -/
def Keeps (s : Session) (deed : Deed) (s' : Session) : Prop :=
  match deed with
  | .opened .. | .dropped _ | .changed => s'.world.current = s.world.current
  | .entered path => s.world.directoryAt path = .ok s'.world.current
  | .took handle host item =>
    ∃ sweep, s.sweeps handle = some sweep ∧ sweep.Lands host s.world item s'.world ∧
      ((∃ e origin cause, item = some (.error e) ∧ e.cause = .notRestored origin cause) ↔
        sweep.Strands host s.world)

theorem keeps_of_step {s s' : Session} {deed : Deed} (begun : s.Begun) (step : Step s deed s') :
    Keeps s deed s' := by
  cases step with
  | opened free => rfl
  | @took handle host sweep sweep' item w isOpen run =>
    obtain ⟨visits, turn⟩ := Sweep.turn_iff.1 run
    have first := begun handle sweep isOpen
    exact ⟨sweep, isOpen, turn.lands first, turn.notRestored_iff first⟩
  | dropped => rfl
  | entered run =>
    obtain ⟨serial, leads, rfl⟩ := World.current_enter run
    exact leads
  | changed same => exact same

/-- A step that leaves no way out of a directory: nobody enters another one, no way back is lost,
and the path of no origin leads anywhere else. -/
def Steady (directory : Nat) (deed : Deed) (s' : Session) : Prop :=
  (∀ path, deed ≠ .entered path) ∧
    (∀ handle host e origin cause, deed = .took handle host (some (.error e)) →
      e.cause ≠ .notRestored origin cause) ∧
    ∀ handle sweep origin serial, s'.sweeps handle = some sweep → sweep.origin? = some origin →
      s'.world.directoryAt origin = .ok serial → serial = directory

theorem current_of_steady {s s' : Session} {deed : Deed} {directory : Nat} (begun : s.Begun)
    (there : s.world.current = directory) (step : Step s deed s')
    (steady : Steady directory deed s') : s'.world.current = directory := by
  obtain ⟨still, found, fixed⟩ := steady
  cases step with
  | opened free => exact there
  | @took handle host sweep sweep' item w isOpen run =>
    obtain ⟨visits, turn⟩ := Sweep.turn_iff.1 run
    have landed := turn.lands (begun handle sweep isOpen)
    have home : sweep.Returned w → w.current = directory := by
      rintro ⟨origin, opened, leads⟩
      exact fixed handle sweep' origin w.current (put_self ..) (turn.keeps_origin opened) leads
    match item, landed, found with
    | none, landed, _ => exact landed.trans there
    | some (.ok _), landed, _ => exact home landed
    | some (.error e), landed, found =>
      dsimp only [Sweep.Lands] at landed
      match cause : e.cause, landed with
      | .unknownVirtualenv _, landed | .noWorkingDirectory _, landed | .parameters _, landed
      | .path _, landed | .notEntered _ _, landed => exact landed.trans there
      | .assembly _, landed => exact home landed
      | .notRestored origin _, _ => exact absurd cause (found handle host e origin _ rfl)
  | dropped => exact there
  | entered => exact absurd rfl (still _)
  | changed same => exact same.trans there

/-- The working directory in a session that begins with nothing open. Each step does to it what
`Keeps` says, whatever came before; and if nobody enters another directory, no way back is lost
and origins stay where they are, the process is where it was. -/
theorem working_directory {start : Session} (closed : ∀ handle, start.sweeps handle = none) :
    (∀ {s s' : Session} {deed : Deed}, Run (fun _ _ => True) start s → Step s deed s' →
      Keeps s deed s') ∧
    ∀ {s : Session}, Run (Steady start.world.current) start s →
      s.world.current = start.world.current := by
  have begun : start.Begun := fun handle sweep isOpen => by
    rw [closed handle] at isOpen
    cases isOpen
  constructor
  · intro s s' deed run step
    exact keeps_of_step (begun_of_run begun run) step
  · intro s run
    induction run with
    | start => rfl
    | step run step steady ih => exact current_of_steady (begun_of_run begun run) ih step steady

/-! ## A process beside a project -/

/-- A directory `/o`, and a project's root `/p` with a directory and a link to it. -/
def apart : FileTree :=
  { entries := [(["o"], .directory 1), (["p"], .directory 2),
      (["p", "repomux.toml"], .file [] 0o644), (["p", "sub"], .directory 3),
      (["p", "link"], .link "sub")]
    nextSerial := 4 }

/-- A process in `/o` that has nothing open. -/
def besides : Session :=
  ⟨⟨apart, 1, [], []⟩, fun _ => none⟩

/-- A repository whose path takes a detour to the link. -/
def detour : Repository :=
  { id := "a", path := "x/../link" }

/-- The project of that repository. -/
def linked : Project :=
  { root := "/p", shell := "/bin/sh", repositories := [detour] }

/-- A host on which every program removes all but the project, and fails. -/
def removing : Host :=
  ⟨fun _ _ _ t => .ok ⟨.exited 1, [], [],
    { t with entries := t.entries.filter fun entry => entry.1.head? == some "p" }⟩⟩

theorem resolve_apart_link (here : Option Location) :
    apart.resolve here "/p/link" = .ok ["p", "sub"] := by
  have path : FileTree.walkSegments "/p/link" = ["p", "link"] := by decide +kernel
  have target : FileTree.walkSegments "sub" = ["sub"] := by decide +kernel
  rw [FileTree.resolve_eq_walk rfl path, FileTree.linkLimit]
  simp +decide [FileTree.walk, FileTree.find?, apart, List.lookup_cons, target]

theorem resolve_apart_root (here : Option Location) : apart.resolve here "/p" = .ok ["p"] := by
  have path : FileTree.walkSegments "/p" = ["p"] := by decide +kernel
  rw [FileTree.resolve_eq_walk rfl path]
  simp +decide [FileTree.walk, FileTree.find?, apart, List.lookup_cons]

theorem shallow_apart : apart.Shallow := by
  decide +kernel

theorem isName_of_mem_root : ∀ name ∈ ["p"], Path.IsName name := by
  intro name mem
  rw [List.mem_singleton.1 mem]
  exact ⟨by decide, by decide, by decide, by decide⟩

theorem repositoryDirectory_besides :
    besides.world.repositoryDirectory "/p" "x/../link" = .ok ⟨true, ["p", "link"]⟩ := by
  exact (World.repositoryDirectory_eq_ok_iff isName_of_mem_root).2 <|
    .of_resolve shallow_apart (by decide +kernel) rfl (by decide) (resolve_apart_link _) rfl
      (resolve_apart_root _) (by decide)

theorem enter_besides :
    besides.world.enter "/p/link" = .ok { besides.world with current := 3 } :=
  World.enter_of_directoryAt (World.directoryAt_of_resolve (resolve_apart_link _) rfl)

theorem bindings_besides :
    (linked.bindingsOf removing detour).run besides.world =
      (.ok (.layered [] [] [(idName, "a"), (pathName, "x/../link")]), besides.world) :=
  rfl

/-- The stay that the first turn begins with: a command of a template removes `/o` and fails. -/
def stayBesides : Project.Stay linked removing ⟨false, .andThen, none, false⟩
    ["{__shell__:rm}"] detour besides.world where
  bindings := .layered [] [] [(idName, "a"), (pathName, "x/../link")]
  arriving := besides.world
  directory := ⟨true, ["p", "link"]⟩
  inside := { besides.world with current := 3 }
  assembled := .error (.template (.atom (.command "rm" (.nonZeroExit "rm" 1))))
  leaving := { besides.world with
    current := 3
    tree := { apart with entries := apart.entries.filter fun entry => entry.1.head? == some "p" } }
  bound := bindings_besides
  found := repositoryDirectory_besides
  entered := enter_besides
  assembles := by
    have parsed : Template.parse "{__shell__:rm}" = ⟨[.directive (.atom (.command "rm"))]⟩ := by
      decide +kernel
    rw [Launch.assemble, Template.substituteAll, Template.substitute, parsed]
    rfl

/-- A sweep is opened in `/o`. Its first turn removes `/o` from within the repository's directory,
and ends there. -/
theorem working_directory_removed :
    (∀ handle, besides.sweeps handle = none) ∧
      ∃ s item s', Run (fun _ _ => True) besides s ∧ Step s (.took 0 removing item) s' ∧
        Keeps s (.took 0 removing item) s' ∧ s'.world.current = 3 ∧
        ∃ e origin cause, item = some (.error e) ∧ e.cause = .notRestored origin cause := by
  have gone : stayBesides.leaving.enter "/o" = .error .noSuchFile := by
    have path : FileTree.walkSegments "/o" = ["o"] := by decide +kernel
    have lost : stayBesides.leaving.tree.resolve stayBesides.leaving.here? "/o" =
        .error .noSuchFile := by
      rw [FileTree.resolve_eq_walk rfl path]
      simp +decide [FileTree.walk, FileTree.find?, stayBesides, apart, List.lookup_cons]
    rw [World.enter, World.directoryAt, FileTree.entryAt, lost]
    rfl
  let sweep := Sweep.start linked ["{__shell__:rm}"] ["a"] {} besides.world
  have opened : Step besides (.opened 0 linked ["{__shell__:rm}"] ["a"] {})
      (besides.put 0 (some sweep)) := .opened rfl
  have run : Run (fun _ _ => True) besides (besides.put 0 (some sweep)) :=
    .step .start opened trivial
  have turn : sweep.Turn removing besides.world _ _ _ _ := .passed rfl (.lost stayBesides gone)
  have took : Step (besides.put 0 (some sweep)) (.took 0 removing _) _ :=
    .took (put_self ..) turn.run_next
  exact ⟨fun _ => rfl, _, _, _, run, took, (working_directory fun _ => rfl).1 run took, rfl,
    _, _, _, rfl, rfl⟩

end Session

end Fleet
