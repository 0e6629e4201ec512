import Fleet.Proofs.Calls

/-!
# One item for each selected repository

Those who take the turns of a sweep may let any time pass between them, and the worlds that they
take them in need not have anything in common. Still the sweep owes an item for each repository
that was selected, in the order of the table, and each turn pays one of them, whatever came of the
others. A sweep that could not start owes the reason for that, once.

* `dues_next`, `pays_next`: what one turn pays, and what is still owed after it.
* `one_item_each`: what any turn of a sweep pays, and how many items are left before it.
-/

namespace Fleet

/-- What is owed for one turn. -/
inductive Due : Type where
  /-- An item for a repository. -/
  | repository (repository : Repository)
  /-- The reason why there was no start. -/
  | reason (cause : SweepFailure)
  deriving Repr

/-- What a sweep through a project owes to whoever starts it in a world. A virtualenv that is not
known is found out before the working directory is asked for. -/
def Project.dues (p : Project) (commands selection : List String) (overrides : Overrides)
    (w : World) : List Due :=
  match p.launch commands overrides with
  | .error name => [.reason (.unknownVirtualenv name)]
  | .ok _ =>
    match w.currentPath with
    | .error cause => [.reason (.noWorkingDirectory cause)]
    | .ok _ => (p.repositories.filter fun repository => repository.id ∈ selection).map .repository

namespace Sweep

/-- The id of the repository that an item is for, if it is for one. -/
def subject? : Except SweepError Assignment → Option String
  | .ok a => some a.repository
  | .error e => e.repository

/-- What a sweep still owes, in order. -/
def dues (s : Sweep) : List Due :=
  match s.progress with
  | .running _ _ remaining => remaining.map .repository
  | .refused cause => [.reason cause]
  | .over => []

/-- The sweep after some turns, each of them taken with a host and in a world of its own. -/
def after (s : Sweep) (turns : List (Host × World)) : Sweep :=
  turns.foldl (fun s turn => ((s.next turn.1).run turn.2).1.2) s

/-- The next turn runs nothing, and leaves the world as it is. -/
def Idles (s : Sweep) (host : Host) (w : World) : Prop :=
  ((s.next host).run w).2 = w ∧ s.calls host w = []

/-- The next turn pays what is due: for a repository an item of its own, a reason as it is, and if
nothing is due nothing. A failure says what the sweep was asked for. -/
def Pays (commands selection : List String) (overrides : Overrides) (s : Sweep) (host : Host)
    (w : World) : Option Due → Prop
  | some (.repository repository) =>
    ∃ item, ((s.next host).run w).1.1 = some item ∧ subject? item = some repository.id ∧
      ∀ e, item = .error e →
        ∃ cause, e = ⟨some repository.id, commands, selection, overrides, cause⟩
  | some (.reason cause) =>
    ((s.next host).run w).1.1 = some (.error ⟨none, commands, selection, overrides, cause⟩) ∧
      s.Idles host w
  | none => ((s.next host).run w).1.1 = none ∧ s.Idles host w

/-! ## One turn -/

/-- The item that is made of an assignment, or of a failure of it, is for its repository. -/
theorem subject?_of_assign {s : Sweep} {launch : Launch} {origin : String} {repository : Repository}
    {visits : List Visit} {w w' : World} {result : Except SweepFailure Assignment} {host : Host}
    (passage : s.project.Passage host launch origin s.commands repository w visits result w') :
    subject? (result.mapError (s.fail (some repository.id))) = some repository.id := by
  cases passage with
  | unbound | unfound | unentered | lost => rfl
  | returned stay back =>
    cases stay.assembled with
    | ok words => rfl
    | error cause => rfl

variable (host : Host) (s : Sweep) (w : World)

theorem size_eq_length_dues : s.size = s.dues.length := by
  unfold size dues
  match s.progress with
  | .running _ _ remaining => exact (List.length_map _).symm
  | .refused _ => rfl
  | .over => rfl

/-- A turn pays the first of the dues. -/
theorem dues_next : ((s.next host).run w).1.2.dues = s.dues.tail := by
  obtain ⟨_, _, _, _, turn⟩ := exists_turn host s w
  rw [turn.run_next]
  cases turn with
  | spent progress | ended progress =>
    rw [dues, progress]
    rfl
  | refused progress | passed progress =>
    rw [dues, dues, progress]
    rfl

/-- What a sweep was asked for stays as it is. -/
theorem request_next :
    ((s.next host).run w).1.2.commands = s.commands ∧
      ((s.next host).run w).1.2.selection = s.selection ∧
      ((s.next host).run w).1.2.overrides = s.overrides := by
  obtain ⟨_, _, _, _, turn⟩ := exists_turn host s w
  rw [turn.run_next]
  cases turn <;> exact ⟨rfl, rfl, rfl⟩

theorem calls_of_not_running
    (resting : ∀ launch origin repository rest,
      s.progress ≠ .running launch origin (repository :: rest)) : s.calls host w = [] := by
  rw [calls, watchedNext]
  match progress : s.progress with
  | .over | .refused _ | .running _ _ [] => rfl
  | .running _ _ (_ :: _) => exact absurd progress (resting _ _ _ _)

/-- A turn pays what is first among the dues, and nothing if nothing is owed any more. -/
theorem pays_next : Pays s.commands s.selection s.overrides s host w s.dues.head? := by
  obtain ⟨_, _, _, _, turn⟩ := exists_turn host s w
  have run := turn.run_next
  cases turn with
  | spent progress | ended progress =>
    have still : s.calls host w = [] := s.calls_of_not_running host w (by simp [progress])
    rw [dues, progress]
    exact ⟨by rw [run], by rw [run], still⟩
  | refused progress =>
    have still : s.calls host w = [] := s.calls_of_not_running host w (by simp [progress])
    rw [dues, progress]
    exact ⟨by rw [run]; rfl, by rw [run], still⟩
  | @passed launch origin repository rest visits result w' progress passage =>
    rw [dues, progress]
    refine ⟨_, by rw [run], subject?_of_assign passage, ?_⟩
    intro e failed
    cases result with
    | ok a => cases failed
    | error cause => exact ⟨cause, (Except.error.inj failed).symm⟩

/-- A turn that comes to nothing leaves the world as it is, and is taken when no item is left. -/
theorem of_next_none {host : Host} {s s' : Sweep} {w w' : World}
    (run : (s.next host).run w = ((none, s'), w')) : s.size = 0 ∧ w' = w := by
  have pays := s.pays_next host w
  rw [size_eq_length_dues]
  match due : s.dues.head? with
  | none =>
    rw [due, Pays, Idles, run] at pays
    rw [List.head?_eq_none_iff.1 due]
    exact ⟨rfl, pays.2.1⟩
  | some (.repository _) =>
    rw [due, Pays, run] at pays
    obtain ⟨_, paid, -⟩ := pays
    cases paid
  | some (.reason _) =>
    rw [due, Pays, run] at pays
    cases pays.1

/-- A turn that comes to an item leaves one item less. -/
theorem size_of_next_some {host : Host} {s s' : Sweep} {w w' : World}
    {item : Except SweepError Assignment} (run : (s.next host).run w = ((some item, s'), w')) :
    s.size = s'.size + 1 := by
  have left := s.dues_next host w
  have pays := s.pays_next host w
  rw [size_eq_length_dues, size_eq_length_dues]
  match owed : s.dues with
  | [] =>
    rw [owed, List.head?_nil, Pays, run] at pays
    cases pays.1
  | _ :: _ =>
    rw [owed, run, List.tail_cons] at left
    rw [show s'.dues = _ from left, List.length_cons]

/-! ## Any turn -/

/-- Turns pay the dues one by one. -/
theorem dues_after (turns : List (Host × World)) :
    (s.after turns).dues = s.dues.drop turns.length := by
  induction turns generalizing s with
  | nil => rfl
  | cons turn rest ih =>
    rw [after, List.foldl_cons, ← after, ih, dues_next, List.drop_tail, List.length_cons]

theorem request_after (turns : List (Host × World)) :
    (s.after turns).commands = s.commands ∧ (s.after turns).selection = s.selection ∧
      (s.after turns).overrides = s.overrides := by
  induction turns generalizing s with
  | nil => exact ⟨rfl, rfl, rfl⟩
  | cons turn rest ih =>
    obtain ⟨commands, selection, overrides⟩ := s.request_next turn.1 turn.2
    obtain ⟨commands', selection', overrides'⟩ := ih ((s.next turn.1).run turn.2).1.2
    exact ⟨commands'.trans commands, selection'.trans selection, overrides'.trans overrides⟩

theorem dues_start (p : Project) (commands selection : List String) (overrides : Overrides)
    (w : World) :
    (start p commands selection overrides w).dues = p.dues commands selection overrides w := by
  unfold start dues Project.dues
  dsimp only
  match p.launch commands overrides with
  | .error _ => rfl
  | .ok _ =>
    match w.currentPath with
    | .error _ => rfl
    | .ok _ =>
      show (p.select selection).map Due.repository = _
      rw [Project.select]
      simp only [List.contains_eq_mem]

/-- Whatever turns were taken of a sweep, and whatever came of them: the next one pays the first of
the dues that these have left, and as many items are announced as there are dues left. -/
theorem one_item_each (p : Project) (commands selection : List String) (overrides : Overrides)
    (begun : World) (turns : List (Host × World)) (host : Host) (w : World) :
    Pays commands selection overrides ((start p commands selection overrides begun).after turns)
        host w (p.dues commands selection overrides begun)[turns.length]? ∧
      ((start p commands selection overrides begun).after turns).size =
        (p.dues commands selection overrides begun).length - turns.length := by
  let s := start p commands selection overrides begun
  have left : (s.after turns).dues =
      (p.dues commands selection overrides begun).drop turns.length := by
    rw [dues_after, dues_start]
  have asked : (s.after turns).commands = commands ∧ (s.after turns).selection = selection ∧
      (s.after turns).overrides = overrides := s.request_after turns
  constructor
  · have paid := (s.after turns).pays_next host w
    rwa [left, List.head?_drop, asked.1, asked.2.1, asked.2.2] at paid
  · rw [size_eq_length_dues, left, List.length_drop]

/-- An id that two repositories share is worth two items, and one that none has is worth none. -/
example :
    Project.dues
      { root := "/p", shell := "sh"
        repositories := [{ id := "a", path := "x" }, { id := "b", path := "y" },
          { id := "a", path := "z" }] }
      ["true"] ["c", "a", "a"] {} (.ofTree .empty) =
    [.repository { id := "a", path := "x" }, .repository { id := "a", path := "z" }] :=
  rfl

end Sweep

end Fleet
