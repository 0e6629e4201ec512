import Fleet.Proofs.ExitCodes
import Fleet.Proofs.Spellings
import Mathlib.Data.List.Nodup

/-!
# One item for each id

The ids of a configuration all differ, because a text that repeats one is refused. So a sweep
through a project that was loaded comes to a single item for each selected id of the table, and an
order that names no repositories comes to one for each entry, in the order of the document. As for
any sweep, the turns may be taken with any hosts and in any worlds.

* `Configuration.decides`: what becomes of a text.
* `Sweep.map_subject?_yields`: what turns come to is for the repositories that are due.
* `Sweep.oncePerId`: sweeps through tables without repeated ids.
* `Project.one_item_per_id`: the two together.
-/

namespace Fleet

/-- The earliest of several ids that equals one before it. -/
def EarliestRepeat (ids : List String) (id : String) : Prop :=
  ∃ before after, ids = before ++ id :: after ∧ before.Nodup ∧ id ∈ before

namespace Configuration

/-- The configuration that a text has the shape of. Its ids may be repeated. -/
def shape? (text : String) : Option Configuration :=
  (Toml.parse? text).bind ofEntries?

/-- The ids of the repositories, in the order of the document. -/
def ids (c : Configuration) : List String :=
  c.repositories.map Repository.id

/-- What becomes of the text of a file. -/
structure Decides (path text : String) : Prop where
  accepted : ∀ c, ofText path text = .ok c ↔ shape? text = some c ∧ c.ids.Nodup
  repeated : ∀ c, shape? text = some c → ¬c.ids.Nodup →
    ∃ id, EarliestRepeat c.ids id ∧ ofText path text = .error (.repeated id)
  malformed : shape? text = none → ofText path text = .error (.malformed path)

/-! ## Texts of files -/

theorem earliestRepeat_iff {ids : List String} {id : String} :
    firstRepeated? [] ids = some id ↔ EarliestRepeat ids id := by
  rw [firstRepeated?_eq_some_iff List.nodup_nil]
  simp only [List.append_nil, List.nodup_reverse, List.mem_reverse]
  rfl

theorem firstRepeated?_nil_eq_none_iff {ids : List String} :
    firstRepeated? [] ids = none ↔ ids.Nodup := by
  rw [firstRepeated?_eq_none_iff]
  exact and_iff_left fun _ _ => List.not_mem_nil

section OfText

variable {path text : String} {c : Configuration}

theorem ofText_of_shapeless (shapeless : shape? text = none) :
    ofText path text = .error (.malformed path) := by
  rw [ofText, parse, show (Toml.parse? text).bind ofEntries? = none from shapeless]
  rfl

theorem ofText_of_repeat (shaped : shape? text = some c) {id : String}
    (again : EarliestRepeat c.ids id) : ofText path text = .error (.repeated id) := by
  have found : firstRepeated? [] (c.repositories.map Repository.id) = some id :=
    earliestRepeat_iff.2 again
  rw [ofText, parse, show (Toml.parse? text).bind ofEntries? = some c from shaped]
  dsimp only
  rw [found]
  rfl

theorem ofText_of_nodup (shaped : shape? text = some c) (nodup : c.ids.Nodup) :
    ofText path text = .ok c := by
  have none : firstRepeated? [] (c.repositories.map Repository.id) = none :=
    firstRepeated?_nil_eq_none_iff.2 nodup
  rw [ofText, parse, show (Toml.parse? text).bind ofEntries? = some c from shaped]
  dsimp only
  rw [none]
  rfl

end OfText

theorem exists_earliestRepeat {ids : List String} (repeats : ¬ids.Nodup) :
    ∃ id, EarliestRepeat ids id := by
  cases found : firstRepeated? [] ids with
  | none => exact absurd (firstRepeated?_nil_eq_none_iff.1 found) repeats
  | some id => exact ⟨id, earliestRepeat_iff.1 found⟩

/-- A text is a configuration if it has the shape of one and its ids differ. -/
theorem decides (path text : String) : Decides path text where
  accepted c := by
    constructor
    · intro accepted
      cases shaped : shape? text with
      | none =>
        rw [ofText_of_shapeless shaped] at accepted
        cases accepted
      | some c' =>
        by_cases nodup : c'.ids.Nodup
        · rw [ofText_of_nodup shaped nodup] at accepted
          obtain rfl := Except.ok.inj accepted
          exact ⟨rfl, nodup⟩
        · obtain ⟨id, again⟩ := exists_earliestRepeat nodup
          rw [ofText_of_repeat shaped again] at accepted
          cases accepted
    · rintro ⟨shaped, nodup⟩
      exact ofText_of_nodup shaped nodup
  repeated c shaped repeats := by
    obtain ⟨id, again⟩ := exists_earliestRepeat repeats
    exact ⟨id, again, ofText_of_repeat shaped again⟩
  malformed shapeless := ofText_of_shapeless shapeless

end Configuration

/-! ## Items of a sweep -/

/-- A sweep of commands through a project can start in a world: the virtualenv is known if there is
one, and the working directory has a path. -/
structure Project.Startable (p : Project) (commands : List String) (overrides : Overrides)
    (w : World) : Prop where
  launched : ∃ launch, p.launch commands overrides = .ok launch
  here : ∃ path, w.currentPath = .ok path

/-- The id of the repository that something is owed for. -/
def Due.subject? : Due → Option String
  | .repository entry => some entry.id
  | .reason _ => none

namespace Sweep

/-- The items that turns of a sweep come to, each of them taken with a host and in a world of its
own. -/
def yields : Sweep → List (Host × World) → List (Except SweepError Assignment)
  | _, [] => []
  | s, (host, w) :: rest =>
    ((s.next host).run w).1.1.toList ++ yields ((s.next host).run w).1.2 rest

/-- After some turns a sweep is at its end: one more turn comes to nothing. -/
def Exhausted (s : Sweep) (turns : List (Host × World)) (host : Host) (w : World) : Prop :=
  (((s.after turns).next host).run w).1.1 = none

/-- The sweeps of commands through a project, by the ids of its table. -/
structure OncePerId (p : Project) (ids : List String) (commands : List String)
    (overrides : Overrides) (begun : World) : Prop where
  /-- As many turns as there are ids are enough. -/
  ends : ∀ selection turns host w, ids.length ≤ turns.length →
    (start p commands selection overrides begun).Exhausted turns host w
  /-- An id that is selected has one item, if it is in the table. -/
  once : ∀ selection turns host w,
    (start p commands selection overrides begun).Exhausted turns host w →
      ∀ id ∈ selection, id ∈ ids →
        (((start p commands selection overrides begun).yields turns).map subject?).count
          (some id) = 1
  /-- If nothing is selected by name, each entry has one item, in order. -/
  each : ∀ turns host w,
    ((⟨commands, [], overrides⟩ : CommandLine.Order).sweep p begun).Exhausted turns host w →
      (((⟨commands, [], overrides⟩ : CommandLine.Order).sweep p begun).yields turns).map subject? =
        ids.map some

/-- What a turn comes to is for the first of those that something is owed for. -/
theorem map_subject?_next (s : Sweep) (host : Host) (w : World) :
    ((s.next host).run w).1.1.map subject? = s.dues.head?.map Due.subject? := by
  have pays := s.pays_next host w
  match s.dues.head?, pays with
  | none, pays => exact congrArg (Option.map subject?) pays.1
  | some (.repository _), ⟨item, paid, own, _⟩ => rw [paid, Option.map_some, own]; rfl
  | some (.reason _), pays => exact congrArg (Option.map subject?) pays.1

/-- What turns come to is for those that it is owed to, in order. -/
theorem map_subject?_yields (s : Sweep) (turns : List (Host × World)) :
    (s.yields turns).map subject? = (s.dues.take turns.length).map Due.subject? := by
  induction turns generalizing s with
  | nil => rfl
  | cons turn rest ih =>
    rw [yields, List.map_append, ih, dues_next, ← Option.toList_map, map_subject?_next]
    cases s.dues with
    | nil => rw [List.tail_nil, List.take_nil, List.take_nil]; rfl
    | cons due later => rfl

theorem exhausted_iff {s : Sweep} {turns : List (Host × World)} {host : Host} {w : World} :
    s.Exhausted turns host w ↔ s.dues.length ≤ turns.length :=
  calc s.Exhausted turns host w
    _ ↔ (s.after turns).dues.head? = none := by
      rw [Exhausted, ← Option.map_eq_none_iff, map_subject?_next, Option.map_eq_none_iff]
    _ ↔ s.dues.drop turns.length = [] := by rw [List.head?_eq_none_iff, dues_after]
    _ ↔ s.dues.length ≤ turns.length := List.drop_eq_nil_iff

section Started

variable {p : Project} {commands : List String} {overrides : Overrides} {begun : World}

/-- A sweep that starts owes an item for each entry with a selected id. -/
theorem map_subject?_dues (startable : p.Startable commands overrides begun)
    (selection : List String) :
    (start p commands selection overrides begun).dues.map Due.subject? =
      ((p.repositories.map Repository.id).filter (· ∈ selection)).map some := by
  obtain ⟨⟨launch, launched⟩, path, here⟩ := startable
  rw [dues_start, Project.dues, launched]
  dsimp only
  rw [here]
  dsimp only
  rw [List.map_map, List.filter_map, List.map_map]
  rfl

theorem subjects_of_exhausted (startable : p.Startable commands overrides begun)
    {selection : List String} {turns : List (Host × World)} {host : Host} {w : World}
    (exhausted : (start p commands selection overrides begun).Exhausted turns host w) :
    ((start p commands selection overrides begun).yields turns).map subject? =
      ((p.repositories.map Repository.id).filter (· ∈ selection)).map some := by
  rw [map_subject?_yields, List.take_of_length_le (exhausted_iff.1 exhausted),
    map_subject?_dues startable]

/-- Where no id is repeated, none has more than one item. -/
theorem oncePerId (startable : p.Startable commands overrides begun)
    (nodup : (p.repositories.map Repository.id).Nodup) :
    OncePerId p (p.repositories.map Repository.id) commands overrides begun where
  ends selection turns host w enough := by
    refine exhausted_iff.2 (Nat.le_trans ?_ enough)
    have owed := congrArg List.length (map_subject?_dues startable selection)
    rw [List.length_map, List.length_map] at owed
    rw [owed]
    exact List.length_filter_le _ _
  once selection turns host w exhausted id selected listed := by
    rw [subjects_of_exhausted startable exhausted]
    refine List.count_eq_one_of_mem ((nodup.filter _).map fun _ _ => Option.some.inj) ?_
    exact List.mem_map_of_mem (List.mem_filter.2 ⟨listed, decide_eq_true selected⟩)
  each turns host w exhausted := by
    have unnamed : (⟨commands, [], overrides⟩ : CommandLine.Order).sweep p begun =
        start p commands (p.repositories.map Repository.id) overrides begun := rfl
    rw [unnamed] at exhausted ⊢
    rw [subjects_of_exhausted startable exhausted]
    exact congrArg (List.map some) (List.filter_eq_self.2 fun _ mem => decide_eq_true mem)

end Started

end Sweep

/-! ## Projects that were loaded -/

namespace Project

variable {w : World} {place : String} {loaded : LoadedProject} {e : Environment} {p : Project}

/-- What was discovered was loaded from some file. -/
theorem exists_load (found : load w place = .ok loaded ∨ discover w place = .ok loaded) :
    ∃ file, load w file = .ok loaded := by
  rcases found with read | discovered
  · exact ⟨place, read⟩
  · unfold discover at discovered
    split at discovered
    · exact ⟨_, discovered⟩
    · cases discovered

/-- What a request for a file comes to was loaded from that file. -/
theorem of_loadProject (found : CommandLine.loadProject w e (some place) = .ok p) :
    ∃ loaded, load w place = .ok loaded ∧ loaded.ready e = .ok p := by
  unfold CommandLine.loadProject at found
  obtain ⟨loaded, read, ready⟩ := of_bind_ok found
  exact ⟨loaded, of_mapError_ok read, of_mapError_ok ready⟩

theorem repositories_of_ready (ready : loaded.ready e = .ok p) :
    p.repositories = loaded.configuration.repositories := by
  unfold LoadedProject.ready at ready
  obtain ⟨_, _, ready⟩ := of_bind_ok ready
  rw [← Except.ok.inj ready]

/-- A text is read as a configuration just if it has the shape of one and repeats no id. So the
sweeps through a project that was loaded and made ready have one item for each selected id of the
table in its file, and orders that name no repositories have one for each entry, in order. -/
theorem one_item_per_id :
    (∀ path text, Configuration.Decides path text) ∧
      ∀ (w : World) (place : String) (loaded : LoadedProject) (e : Environment) (p : Project),
        load w place = .ok loaded ∨ discover w place = .ok loaded → loaded.ready e = .ok p →
          (∃ file text, load w file = .ok loaded ∧ w.readText file = .ok text ∧
              Configuration.shape? text = some loaded.configuration) ∧
            ∀ commands overrides begun, p.Startable commands overrides begun →
              Sweep.OncePerId p loaded.configuration.ids commands overrides begun := by
  refine ⟨Configuration.decides, fun w place loaded e p found ready => ?_⟩
  obtain ⟨file, read⟩ := exists_load found
  obtain ⟨text, held, parsed, -⟩ := of_load read
  obtain ⟨shaped, nodup⟩ := ((Configuration.decides file text).accepted _).1 parsed
  refine ⟨⟨file, text, read, held, shaped⟩, fun commands overrides begun startable => ?_⟩
  have table : p.repositories.map Repository.id = loaded.configuration.ids := by
    rw [repositories_of_ready ready, Configuration.ids]
  rw [← table] at nodup ⊢
  exact Sweep.oncePerId startable nodup

open Fleet.CommandLine

/-- Four entries, the last two with ids that are given already. -/
def fourEntries : String :=
  String.join <| ["a", "b", "b", "a"].map fun id =>
    "[[repos]]\nid = \"" ++ id ++ "\"\npath = \".\"\n"

/-- Of two repeated ids the one that is repeated first is reported, which is not the one that was
given first. In a project with two entries, an id that is selected twice has one item, and an order
for all of them has two. -/
theorem one_item_per_id_house :
    Configuration.ofText "/p/repomux.toml" fourEntries = .error (.repeated "b") ∧
      ∃ loaded, load inside "/p/repomux.toml" = .ok loaded ∧ loaded.ready ⟨[]⟩ = .ok house ∧
        house.Startable ["true"] {} inside ∧
        (((Sweep.start house ["true"] ["b", "c", "b"] {} inside).yields
          [(ending 3, inside), (ending 0, inside)]).map Sweep.subject?).count (some "b") = 1 ∧
        (((⟨["true"], [], {}⟩ : Order).sweep house inside).yields
          [(ending 3, inside), (ending 0, inside)]).map Sweep.subject? = [some "a", some "b"] := by
  have listed : (Configuration.shape? fourEntries).map Configuration.ids =
      some ["a", "b", "b", "a"] := by decide +kernel
  obtain ⟨c, shaped, ids⟩ := Option.map_eq_some_iff.1 listed
  obtain ⟨id, again, refused⟩ := (one_item_per_id.1 "/p/repomux.toml" fourEntries).repeated c shaped
    (by rw [ids]; decide)
  have first : id = "b" := by
    rw [ids] at again
    exact (Option.some.inj (Configuration.earliestRepeat_iff.2 again)).symm
  obtain ⟨loaded, read, ready⟩ := of_loadProject load_house
  have startable : house.Startable ["true"] {} inside := ⟨⟨_, rfl⟩, _, rfl⟩
  obtain ⟨-, sweeps⟩ := one_item_per_id.2 inside _ loaded ⟨[]⟩ house (.inl read) ready
  have table : loaded.configuration.ids = ["a", "b"] := by
    rw [Configuration.ids, ← repositories_of_ready ready]
    rfl
  have runs := sweeps ["true"] {} inside startable
  rw [table] at runs
  have ended := fun selection => runs.ends selection [(ending 3, inside), (ending 0, inside)]
    (ending 0) inside (Nat.le_refl 2)
  exact ⟨first ▸ refused, loaded, read, ready, startable,
    runs.once _ _ _ _ (ended _) "b" (by decide) (by decide), runs.each _ _ _ (ended ["a", "b"])⟩

end Project

end Fleet
