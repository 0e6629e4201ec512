import Fleet.Proofs.Directories
import Fleet.Proofs.Sessions

/-!
# Sweeps stay within their projects

A repository's path can be any text, and any symbolic links can be in the way. Still a sweep enters
nothing but directories of its project, by name and in fact, and goes back to where it began.

* `contains_of_repositoryDirectory`: the directory of a repository is within the root.
* `visits_contained`: so is every directory that a sweep enters, its origin apart.
-/

namespace Fleet

open Fleet.Path (IsName)

/-- A directory within a root. By name: it is an absolute path of names alone that begins with the
steps of the root. In fact: it is a directory, which really lies at or below where the root really
lies. -/
structure World.Contains (w : World) (root directory : String) : Prop where
  plain : ∃ names, (∀ name ∈ names, IsName name) ∧ directory = FileTree.pathOf names
  under : Path.steps root <+: Path.steps directory
  stands : w.tree.isDirectory w.here? directory = true
  contained : ∃ real realRoot, w.tree.resolve w.here? directory = .ok real ∧
    w.tree.resolve w.here? root = .ok realRoot ∧ realRoot <+: real

/-- A project with the root of one that was loaded from a file or discovered from a directory, in
a file tree as there are. -/
def Project.Loaded (p : Project) : Prop :=
  ∃ (w : World) (path : String) (loaded : LoadedProject), w.tree.WellNamed ∧
    (Project.load w path = .ok loaded ∨ Project.discover w path = .ok loaded) ∧
    p.root = loaded.root

theorem Project.Loaded.root {p : Project} (loaded : p.Loaded) :
    ∃ location, (∀ name ∈ location, IsName name) ∧ p.root = FileTree.pathOf location := by
  obtain ⟨w, path, found, named, how, same⟩ := loaded
  rw [same]
  rcases how with read | discovered
  · exact Project.root_of_load named read
  · exact Project.root_of_discover named discovered

theorem NormalPath.toPath_of_absolute {p : NormalPath} (absolute : p.absolute = true) :
    p.toPath = FileTree.pathOf p.names := by
  rw [NormalPath.toPath, if_pos absolute]
  rfl

/-- The directory of a repository is within the root. -/
theorem World.contains_of_repositoryDirectory {w : World} {p : Project} {path : String}
    {directory : NormalPath} (loaded : p.Loaded)
    (found : w.repositoryDirectory p.root path = .ok directory) :
    w.Contains p.root directory.toPath := by
  obtain ⟨root, proper, same⟩ := loaded.root
  rw [same] at found ⊢
  obtain ⟨normal, absolute, under, stands, real, realRoot, leads, rootLeads, below⟩ :=
    (World.repositoryDirectory_eq_ok_iff proper).1 found
  have named := Path.isName_of_normalize? normal
  have written := NormalPath.toPath_of_absolute absolute
  refine ⟨⟨directory.names, named, written⟩, ?_, stands, real, realRoot,
    resolve_of_realLocation leads, resolve_of_realLocation rootLeads, below⟩
  rw [written, Path.steps_pathOf proper, Path.steps_pathOf named]
  exact (List.prefix_cons_inj _).2 (under.map Step.down)

/-! ## Visits of a turn -/

namespace Sweep

/-- A visit to the directory of the repository whose turn it is. -/
def Enters (s : Sweep) (visit : Visit) : Prop :=
  ∃ launch origin repository rest directory,
    s.progress = .running launch origin (repository :: rest) ∧
    visit.before.repositoryDirectory s.project.root repository.path = .ok directory ∧
    visit.path = directory.toPath

variable {host : Host} {s s' : Sweep} {w w' : World} {visits : List Visit}
  {item : Option (Except SweepError Assignment)}

/-- A turn enters the repository's directory or goes back to the origin. -/
theorem Turn.enters (turn : Turn host s w visits item s' w') :
    ∀ visit ∈ visits, s.origin? = some visit.path ∨ s.Enters visit := by
  cases turn with
  | spent | ended | refused => exact fun _ mem => absurd mem List.not_mem_nil
  | @passed launch origin repository rest _ _ _ progress passage =>
    have opened : s.origin? = some origin := by
      rw [origin?, progress]
    intro visit mem
    cases passage with
    | unbound | unfound | unentered => exact absurd mem List.not_mem_nil
    | lost stay failed =>
      rw [List.mem_singleton.1 mem]
      exact .inr ⟨launch, origin, repository, rest, stay.directory, progress, stay.found, rfl⟩
    | returned stay back =>
      rcases List.mem_cons.1 mem with rfl | mem
      · exact .inr ⟨launch, origin, repository, rest, stay.directory, progress, stay.found, rfl⟩
      · rw [List.mem_singleton.1 mem]
        exact .inl opened

/-- The directory of an assignment is one that was entered. -/
theorem Turn.enters_of_ok {a : Assignment} (turn : Turn host s w visits item s' w')
    (assigned : item = some (.ok a)) :
    ∃ visit ∈ visits, s.Enters visit ∧ visit.path = a.directory := by
  cases turn with
  | spent | ended | refused => cases assigned
  | @passed launch origin repository rest _ _ _ progress passage =>
    cases passage with
    | unbound | unfound | unentered | lost => cases assigned
    | returned stay back =>
      match outcome : stay.assembled with
      | .error _ =>
        rw [outcome] at assigned
        cases assigned
      | .ok words =>
        rw [outcome] at assigned
        cases assigned
        exact ⟨_, List.mem_cons_self,
          ⟨launch, origin, repository, rest, stay.directory, progress, stay.found, rfl⟩, rfl⟩

end Sweep

/-! ## Whole sessions -/

namespace Session

/-- Only sweeps of loaded projects are opened. -/
def Loading (deed : Deed) (_ : Session) : Prop :=
  ∀ handle project commands selection overrides,
    deed = .opened handle project commands selection overrides → project.Loaded

/-- All open sweeps are those of loaded projects. -/
def Loaded (s : Session) : Prop :=
  ∀ handle sweep, s.sweeps handle = some sweep → sweep.project.Loaded

theorem loaded_of_step {s s' : Session} {deed : Deed} (loaded : s.Loaded) (step : Step s deed s')
    (loading : Loading deed s') : s'.Loaded := by
  intro other found isOpen
  cases step with
  | opened free =>
    rcases of_put isOpen with here | there
    · rw [← Option.some.inj here]
      exact loading _ _ _ _ _ rfl
    · exact loaded other found there
  | took held run =>
    obtain ⟨_, turn⟩ := Sweep.turn_iff.1 run
    rcases of_put isOpen with here | there
    · rw [← Option.some.inj here, turn.keeps_project]
      exact loaded _ _ held
    · exact loaded other found there
  | dropped =>
    rcases of_put isOpen with here | there
    · cases here
    · exact loaded other found there
  | entered => exact loaded other found isOpen
  | changed => exact loaded other found isOpen

theorem loaded_of_run {start s : Session} (closed : ∀ handle, start.sweeps handle = none)
    (run : Run Loading start s) : s.Loaded := by
  induction run with
  | start =>
    intro handle sweep isOpen
    rw [closed handle] at isOpen
    cases isOpen
  | step _ step loading ih => exact loaded_of_step ih step loading

/-- Every turn of a sweep through a loaded project, in any session: the working directory changes
by visits only, each visit is to the origin or to the directory of the repository whose turn it
is, such a directory is within the project's root when it is found, and so is the directory of
an assignment. -/
theorem visits_contained {start s s' : Session} {handle : Nat} {host : Host}
    {item : Option (Except SweepError Assignment)}
    (closed : ∀ handle, start.sweeps handle = none) (run : Run Loading start s)
    (step : Step s (.took handle host item) s') :
    ∃ sweep sweep' visits, s.sweeps handle = some sweep ∧
      sweep.Turn host s.world visits item sweep' s'.world ∧
      Tour s.world.current visits s'.world.current ∧
      (∀ visit ∈ visits, sweep.origin? = some visit.path ∨ sweep.Enters visit) ∧
      (∀ visit, sweep.Enters visit → visit.before.Contains sweep.project.root visit.path) ∧
      ∀ a, item = some (.ok a) → ∃ visit ∈ visits, sweep.Enters visit ∧
        visit.path = a.directory := by
  cases step with
  | @took _ _ sweep sweep' _ w isOpen taken =>
    obtain ⟨visits, turn⟩ := Sweep.turn_iff.1 taken
    have loaded := loaded_of_run closed run handle sweep isOpen
    refine ⟨sweep, sweep', visits, isOpen, turn, turn.tour, turn.enters, ?_,
      fun a assigned => turn.enters_of_ok assigned⟩
    rintro visit ⟨launch, origin, repository, rest, directory, progress, found, same⟩
    rw [same]
    exact World.contains_of_repositoryDirectory loaded found

theorem wellNamed_apart : apart.WellNamed := by
  have checked : ∀ entry ∈ apart.entries, ∀ name ∈ entry.1,
      name ≠ "" ∧ name ≠ "." ∧ name ≠ ".." ∧ '/' ∉ name.toList := by decide
  intro entry held name mem
  obtain ⟨nonempty, notHere, notUp, whole⟩ := checked entry held name mem
  exact ⟨nonempty, notHere, notUp, whole⟩

/-- An empty configuration file is one. -/
theorem loaded_linked : linked.Loaded := by
  have path : FileTree.walkSegments "/p/repomux.toml" = ["p", "repomux.toml"] := by
    decide +kernel
  have led : besides.world.tree.resolve besides.world.here? "/p/repomux.toml" =
      .ok ["p", "repomux.toml"] := by
    rw [FileTree.resolve_eq_walk rfl path]
    simp +decide [FileTree.walk, FileTree.find?, besides, apart, List.lookup_cons]
  have text : besides.world.readText "/p/repomux.toml" = .ok "" := by
    rw [World.readText, bind_ok (FileTree.entryAt_of_resolve led rfl)]
    rfl
  obtain ⟨configuration, parsed⟩ :
    ∃ configuration, Configuration.ofText "/p/repomux.toml" "" = .ok configuration := ⟨_, rfl⟩
  have root : Project.rootOf "/p/repomux.toml" = "/p" := rfl
  have rootLed : apart.resolve besides.world.here? (Project.rootOf "/p/repomux.toml") =
      .ok ["p"] := by
    rw [root]
    exact resolve_apart_root _
  have rootReal := FileTree.canonicalize_of_shallow shallow_apart rootLed
  exact ⟨besides.world, "/p/repomux.toml", _, wellNamed_apart,
    .inl (Project.load_of_canonicalize text parsed rootReal), rfl⟩

/-- The stay of a turn in which nothing goes wrong. -/
def stayLinked : Project.Stay linked removing ⟨false, .andThen, none, false⟩ ["true"]
    detour besides.world where
  bindings := .layered [] [] [(idName, "a"), (pathName, "x/../link")]
  arriving := besides.world
  directory := ⟨true, ["p", "link"]⟩
  inside := { besides.world with current := 3 }
  assembled := .ok ["true"]
  leaving := { besides.world with current := 3 }
  bound := bindings_besides
  found := repositoryDirectory_besides
  entered := enter_besides
  assembles := by
    have parsed : Template.parse "true" = ⟨[.text "true"]⟩ := by decide +kernel
    rw [Launch.assemble, Template.substituteAll, Template.substitute, parsed]
    rfl

/-- A path with a detour and a link: the directory of the assignment is within the root. -/
theorem visits_contained_linked :
    (∀ handle, besides.sweeps handle = none) ∧
      ∃ s s' a, Run Loading besides s ∧ Step s (.took 0 removing (some (.ok a))) s' ∧
        a.directory = "/p/link" ∧
        ∃ visit : Visit, visit.path = "/p/link" ∧ visit.before.Contains "/p" visit.path := by
  have home : stayLinked.leaving.enter "/o" = .ok besides.world := by
    have path : FileTree.walkSegments "/o" = ["o"] := by decide +kernel
    have led : stayLinked.leaving.tree.resolve stayLinked.leaving.here? "/o" = .ok ["o"] := by
      rw [FileTree.resolve_eq_walk rfl path]
      simp +decide [FileTree.walk, FileTree.find?, stayLinked, besides, apart]
    exact World.enter_of_directoryAt (World.directoryAt_of_resolve led rfl)
  let sweep := Sweep.start linked ["true"] ["a"] {} besides.world
  have opened : Step besides (.opened 0 linked ["true"] ["a"] {})
      (besides.put 0 (some sweep)) := .opened rfl
  have loading : Loading (.opened 0 linked ["true"] ["a"] {}) (besides.put 0 (some sweep)) := by
    intro handle project commands selection overrides same
    cases same
    exact loaded_linked
  have run : Run Loading besides (besides.put 0 (some sweep)) := .step .start opened loading
  have turn : sweep.Turn removing besides.world _ _ _ _ := .passed rfl (.returned stayLinked home)
  have took : Step (besides.put 0 (some sweep))
      (.took 0 removing (some (.ok ⟨"a", ["true"], "/p/link"⟩))) _ :=
    .took (put_self ..) turn.run_next
  obtain ⟨sweep', _, visits, isOpen, _, _, _, contained, assigned⟩ :=
    visits_contained (fun _ => rfl) run took
  obtain rfl := Option.some.inj ((put_self ..).symm.trans isOpen)
  obtain ⟨visit, _, enters, same⟩ := assigned _ rfl
  exact ⟨fun _ => rfl, _, _, _, run, took, rfl, visit, same, contained visit enters⟩

end Session

end Fleet
