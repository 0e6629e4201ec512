import Fleet.Proofs.Planning
import Fleet.Proofs.Tables

/-!
# Names that are relied on

A sweep through a project looks names up that its commands refer to, or the attributes of the
repositories it goes through, and no others. Two projects that differ in nothing but their constants
and their environments, and in which each of these names stands for the same or for nothing, are
told apart by no turn, whatever host it is taken with, whatever world it is taken in, and whatever
came of the turns before.

* `assign_withTables`, `next_withTables`: one repository, and one turn.
* `after_withTables`, `run_take_withTables`: any number of turns.
* `indistinct_of_agree`: sweeps through such projects; for the whole environment if no name of a
  variable is referred to.
-/

namespace Fleet

open Attempting

/-! ## Names in texts -/

/-- The name that an atom looks up. -/
def Atom.name? : Atom → Option String
  | .name key => some key
  | _ => none

/-- The names that texts refer to, by themselves or as alternatives. -/
def namesIn (texts : List String) : List String :=
  texts.flatMap fun text => (Template.parse text).atoms.filterMap Atom.name?

theorem mem_namesIn {texts : List String} {text name : String} (mem : text ∈ texts)
    (held : .name name ∈ (Template.parse text).atoms) : name ∈ namesIn texts :=
  List.mem_flatMap_of_mem mem (List.mem_filterMap.2 ⟨_, held, rfl⟩)

theorem namesIn_subset {texts texts' : List String} (subset : texts ⊆ texts') :
    namesIn texts ⊆ namesIn texts' := by
  intro name mem
  obtain ⟨text, held, found⟩ := List.mem_flatMap.1 mem
  exact List.mem_flatMap_of_mem (subset held) found

/-- The names in commands and in the texts of repositories. -/
def namesOf (commands : List String) (repositories : List Repository) : List String :=
  namesIn (commands ++ repositories.flatMap Repository.texts)

theorem namesIn_commands (commands : List String) (repositories : List Repository) :
    namesIn commands ⊆ namesOf commands repositories :=
  namesIn_subset (List.subset_append_left _ _)

theorem namesIn_texts (commands : List String) {repositories : List Repository}
    {repository : Repository} (mem : repository ∈ repositories) :
    namesIn repository.texts ⊆ namesOf commands repositories :=
  namesIn_subset fun _ held => List.mem_append_right _ (List.mem_flatMap_of_mem mem held)

theorem namesOf_cons (commands : List String) (repository : Repository)
    (rest : List Repository) : namesOf commands rest ⊆ namesOf commands (repository :: rest) := by
  refine namesIn_subset fun text mem => ?_
  rw [List.flatMap_cons]
  simp only [List.mem_append] at mem ⊢
  exact mem.imp_right .inr

/-- Each of the names stands for the same in both tables, or for nothing in both. -/
def AgreeOn (names : List String) (bindings bindings' : Bindings) : Prop :=
  ∀ name ∈ names, bindings.get? name = bindings'.get? name

instance (names : List String) (bindings bindings' : Bindings) :
    Decidable (AgreeOn names bindings bindings') :=
  inferInstanceAs (Decidable (∀ name ∈ names, _ = _))

namespace AgreeOn

variable {σ : Type} {names : List String} {bindings bindings' : Bindings}

theorem mono {fewer : List String} (agree : AgreeOn names bindings bindings')
    (subset : fewer ⊆ names) : AgreeOn fewer bindings bindings' :=
  fun name mem => agree name (subset mem)

/-- What attributes add to both tables does not set them apart. -/
theorem layered {constants constants' environment environment' : List (String × String)}
    (agree : AgreeOn names (.layered constants environment [])
      (.layered constants' environment' []))
    (attributes : List (String × String)) :
    AgreeOn names (.layered constants environment attributes)
      (.layered constants' environment' attributes) := by
  intro name mem
  have same := agree name mem
  rw [Bindings.get?_layered, Bindings.get?_layered] at same ⊢
  exact congrArg _ same

variable (capture : Capture σ)

theorem alike_atom {texts : List String} (agree : AgreeOn (namesIn texts) bindings bindings')
    {text : String} (mem : text ∈ texts) {a : Atom} (held : a ∈ (Template.parse text).atoms) :
    Alike Eq (a.evaluate capture bindings) (a.evaluate capture bindings') :=
  a.alike_evaluate (fun _ same => agree _ (mem_namesIn mem (same ▸ held)))
    fun line _ => alike_refl (capture line)

theorem evaluateAttributes {attributes : List (String × Attribute)}
    (agree : AgreeOn (namesIn (textsOf attributes)) bindings bindings') :
    Fleet.evaluateAttributes capture bindings attributes =
      Fleet.evaluateAttributes capture bindings' attributes :=
  eq_of_alike (alike_evaluateAttributes fun _ mem _ held => agree.alike_atom capture mem held)

theorem assemble {commands : List String} (agree : AgreeOn (namesIn commands) bindings bindings')
    (launch : Launch) (shell : String) :
    launch.assemble capture shell bindings commands =
      launch.assemble capture shell bindings' commands :=
  eq_of_alike (Launch.alike_assemble_of fun _ mem _ held => agree.alike_atom capture mem held)

end AgreeOn

/-! ## Other tables -/

namespace Project

/-- What the attributes of the project's repositories can look up. -/
def shared (p : Project) : Bindings :=
  .layered p.constants p.environment []

/-- The project with other constants and another environment. -/
def withTables (p : Project) (constants environment : List (String × String)) : Project :=
  { p with constants := constants, environment := environment }

variable {p : Project} {constants environment : List (String × String)}

/-- A repository comes to the same if the names in its texts and in the commands do. -/
theorem assign_withTables {commands : List String} {repositories : List Repository}
    (agree : AgreeOn (namesOf commands repositories) p.shared
      (p.withTables constants environment).shared)
    {repository : Repository} (mem : repository ∈ repositories) (host : Host) (launch : Launch)
    (origin : String) :
    (p.withTables constants environment).assign host launch origin commands repository =
      p.assign host launch origin commands repository := by
  let q := p.withTables constants environment
  -- attributes are evaluated with what is shared, commands with what is shared below the attributes
  have evaluated :=
    (agree.mono (namesIn_texts commands mem)).evaluateAttributes (host.capture p.shell)
  have assembled := fun attributes : List (String × String) =>
    ((agree.mono (namesIn_commands commands repositories)).layered attributes).assemble
      (host.capture p.shell) launch p.shell
  funext w
  show (assign q host launch origin commands repository).run w =
    (assign p host launch origin commands repository).run w
  have bound : (p.bindingsOf host repository).run w = _ := Repository.run_bindings _ _ _ _ w
  have bound' : (q.bindingsOf host repository).run w = _ := Repository.run_bindings _ _ _ _ w
  rw [show Bindings.layered q.constants q.environment [] = q.shared from rfl,
    show q.shell = p.shell from rfl, ← evaluated] at bound'
  rw [show Bindings.layered p.constants p.environment [] = p.shared from rfl] at bound
  match (evaluateAttributes (host.capture p.shell) p.shared repository.attributes).run w, bound,
    bound' with
  | (.error cause, w'), bound, bound' =>
    rw [(Passage.unbound bound).run_assign, (Passage.unbound bound').run_assign]
  | (.ok attributes, w'), bound, bound' =>
    unfold assign
    rw [run_bind_ok (run_bindings_ok bound), run_bind_ok (run_bindings_ok bound')]
    dsimp only [q, withTables]
    rw [assembled]
    rfl

end Project

namespace Sweep

/-- The sweep, with other constants and another environment in its project. -/
def withTables (s : Sweep) (constants environment : List (String × String)) : Sweep :=
  { s with project := s.project.withTables constants environment }

/-- The names that a sweep may still look up. -/
def names (s : Sweep) : List String :=
  match s.progress with
  | .running _ _ remaining => namesOf s.commands remaining
  | .refused _ | .over => []

/-- What a sweep may still look up is the same in other tables. -/
def Indifferent (s : Sweep) (constants environment : List (String × String)) : Prop :=
  AgreeOn s.names s.project.shared (s.project.withTables constants environment).shared

variable {constants environment : List (String × String)} {s : Sweep}

/-- A turn comes to the same with the other tables. -/
theorem next_withTables (indifferent : s.Indifferent constants environment) (host : Host)
    (w : World) :
    ((s.withTables constants environment).next host).run w =
      ((((s.next host).run w).1.1, (((s.next host).run w).1.2).withTables constants environment),
        ((s.next host).run w).2) := by
  obtain ⟨p, commands, selection, overrides, progress⟩ := s
  -- the tables are read for a repository only
  match progress with
  | .over => rfl
  | .refused _ => rfl
  | .running _ _ [] => rfl
  | .running launch origin (repository :: rest) =>
    have same := Project.assign_withTables indifferent List.mem_cons_self host launch origin
    show (do
      let result ← ((p.withTables constants environment).assign host launch origin commands
        repository).run
      pure _ : StateM World _).run w = _
    rw [same]
    rfl

/-- After a turn there is nothing more to look up than before it. -/
theorem Indifferent.next (indifferent : s.Indifferent constants environment) (host : Host)
    (w : World) : (((s.next host).run w).1.2).Indifferent constants environment := by
  obtain ⟨p, commands, selection, overrides, progress⟩ := s
  match progress with
  | .over => exact indifferent
  | .refused _ => exact fun _ never => (nomatch never)
  | .running _ _ [] => exact indifferent
  | .running _ _ (repository :: rest) => exact indifferent.mono (namesOf_cons commands _ rest)

/-- So do any number of turns. -/
theorem after_withTables (indifferent : s.Indifferent constants environment)
    (turns : List (Host × World)) :
    (s.withTables constants environment).after turns =
        (s.after turns).withTables constants environment ∧
      (s.after turns).Indifferent constants environment := by
  induction turns generalizing s with
  | nil => exact ⟨rfl, indifferent⟩
  | cons turn rest ih =>
    obtain ⟨host, w⟩ := turn
    obtain ⟨same, still⟩ := ih (indifferent.next host w)
    refine ⟨?_, still⟩
    rw [after, List.foldl_cons, next_withTables indifferent]
    exact same

/-- And any number of items taken one after the other. -/
theorem run_take_withTables (indifferent : s.Indifferent constants environment) (host : Host)
    (n : Nat) (w : World) :
    ((s.withTables constants environment).take host n).run w = (s.take host n).run w := by
  induction n generalizing s w with
  | zero => rfl
  | succ n ih =>
    rw [take, take, StateT.run_bind, StateT.run_bind, next_withTables indifferent]
    have still := indifferent.next host w
    generalize (s.next host).run w = outcome at still ⊢
    obtain ⟨⟨item, s'⟩, w'⟩ := outcome
    cases item with
    | none => rfl
    | some item =>
      show ((s'.withTables constants environment).take host n >>= _ : StateM World _).run w' =
        (s'.take host n >>= _ : StateM World _).run w'
      rw [StateT.run_bind, StateT.run_bind, ih still]

/-- A sweep starts with what is selected. -/
theorem indifferent_start {p : Project} {commands selection : List String}
    (agree : AgreeOn (namesOf commands (p.select selection)) p.shared
      (p.withTables constants environment).shared)
    (overrides : Overrides) (w : World) :
    (start p commands selection overrides w).Indifferent constants environment := by
  unfold start Indifferent names
  dsimp only
  match p.launch commands overrides with
  | .error _ => exact fun _ never => (nomatch never)
  | .ok _ =>
    match w.currentPath with
    | .error _ => exact fun _ never => (nomatch never)
    | .ok _ => exact agree

end Sweep

/-! ## Any sweep -/

/-- A name that is not that of a variable stands for nothing in an environment. -/
theorem Environment.get?_snapshot (e : Environment) {name : String}
    (untagged : ∀ plain, name ≠ tag plain) : (Bindings.ofList e.snapshot).get? name = none := by
  refine List.lookup_eq_none_iff.2 fun entry mem => bne_iff_ne.2 ?_
  obtain ⟨⟨key, value⟩, -, found⟩ := List.mem_filterMap.1 (List.mem_reverse.1 mem)
  dsimp only at found
  split at found
  · cases found
    exact untagged _
  · cases found

namespace Project

/-- No sweep for what is asked for tells the projects apart: whatever turns were taken, the next one
comes to the same item and leaves the same world, and so do all of them without a break. -/
def Indistinct (p q : Project) (commands selection : List String) (overrides : Overrides) : Prop :=
  ∀ (begun : World) (host : Host) (w : World),
    (∀ turns : List (Host × World),
      let mine := (((Sweep.start p commands selection overrides begun).after turns).next host).run w
      let other :=
        (((Sweep.start q commands selection overrides begun).after turns).next host).run w
      mine.1.1 = other.1.1 ∧ mine.2 = other.2) ∧
    ((Sweep.start p commands selection overrides begun).items host).run w =
      ((Sweep.start q commands selection overrides begun).items host).run w

theorem indistinct_withTables {p : Project} {constants environment : List (String × String)}
    {commands selection : List String}
    (agree : AgreeOn (namesOf commands (p.select selection)) p.shared
      (p.withTables constants environment).shared)
    (overrides : Overrides) :
    p.Indistinct (p.withTables constants environment) commands selection overrides := by
  intro begun host w
  have indifferent := Sweep.indifferent_start agree overrides begun
  refine ⟨fun turns => ?_, (Sweep.run_take_withTables indifferent host _ w).symm⟩
  obtain ⟨same, still⟩ := Sweep.after_withTables indifferent turns
  have next := Sweep.next_withTables still host w
  rw [← same] at next
  exact ⟨congrArg (·.1.1) next.symm, congrArg (·.2) next.symm⟩

/-- Projects that differ in constants and environments only are told apart by no sweep, if they
agree on each name that the commands refer to or the attributes of a selected repository. So the
whole environment is nothing to a sweep if no name of a variable is among these. -/
theorem indistinct_of_agree (p : Project) (commands selection : List String)
    (overrides : Overrides) :
    (∀ constants environment,
      AgreeOn (namesOf commands (p.select selection)) p.shared
        (p.withTables constants environment).shared →
      p.Indistinct (p.withTables constants environment) commands selection overrides) ∧
    ((∀ name ∈ namesOf commands (p.select selection), ∀ plain, name ≠ Environment.tag plain) →
      ∀ e e' : Environment,
        (p.withTables p.constants e.snapshot).Indistinct (p.withTables p.constants e'.snapshot)
          commands selection overrides) := by
  refine ⟨fun constants environment agree => indistinct_withTables agree overrides,
    fun untagged e e' => ?_⟩
  have agree : AgreeOn (namesOf commands (p.select selection))
      (.layered p.constants e.snapshot []) (.layered p.constants e'.snapshot []) := by
    intro name mem
    rw [Bindings.get?_layered, Bindings.get?_layered, e.get?_snapshot (untagged name mem),
      e'.get?_snapshot (untagged name mem)]
  exact indistinct_withTables (p := p.withTables p.constants e.snapshot) agree overrides

/-! ## Constants set anew -/

/-- A repository with an attribute that falls back on a variable. -/
def labelled : Repository where
  id := "a"
  path := "sub"
  attributes := [("label", .scalar (.text "{owner|$TEAM}")), ("path", .scalar (.text "{port}"))]

/-- A project with that repository and one that needs a constant. -/
def lettered : Project where
  root := "/p"
  shell := "/bin/sh"
  repositories :=
    [labelled, { id := "b", path := "gone", attributes := [("port", .list [.text "{port}"])] }]
  constants := [("port", "80")]
  environment := [("$HOME", "/root"), ("$TEAM", "blue")]

/-- The project with another port, a constant more, and a variable less. -/
def relettered : Project :=
  lettered.withTables [("port", "81"), ("name", "c")] [("$TEAM", "blue")]

open CommandLine (inside ending)

/-- The command is assembled with what the variable stands for. -/
theorem items_relettered :
    (((Sweep.start relettered ["echo {label}"] ["a"] {} inside).items (ending 0)).run inside).1 =
      [.ok ⟨"a", ["echo", "blue"], "/p/sub"⟩] := by
  have chain : Template.parse "{owner|$TEAM}" =
      ⟨[.directive (.chain [⟨"owner", .name "owner"⟩, ⟨"$TEAM", .name "$TEAM"⟩])]⟩ := by
    decide +kernel
  have command : Template.parse "echo {label}" =
      ⟨[.text "echo ", .directive (.atom (.name "label"))]⟩ := by
    decide +kernel
  let stay : Stay relettered (ending 0) {} ["echo {label}"] labelled inside :=
    { bindings := .layered relettered.constants relettered.environment
        [("label", "blue"), (idName, "a"), (pathName, "sub")]
      arriving := inside
      directory := ⟨true, ["p", "sub"]⟩
      inside := { inside with current := 2 }
      assembled := .ok ["echo", "blue"]
      leaving := { inside with current := 2 }
      bound := by
        rw [bindingsOf, Repository.bindings, labelled, evaluateAttributes, if_neg (by decide),
          Attribute.evaluate, Scalar.evaluate, Template.substitute, chain]
        rfl
      found := CommandLine.repositoryDirectory_standing
      entered := World.enter_of_directoryAt
        (World.directoryAt_of_resolve (CommandLine.resolve_housed_sub _) rfl)
      assembles := by
        rw [Launch.assemble, Template.substituteAll, Template.substitute, command]
        rfl }
  have back : stay.leaving.enter "/p" = .ok inside := World.enter_of_directoryAt
    (World.directoryAt_of_resolve (CommandLine.resolve_housed_root _) rfl)
  let s : Sweep := ⟨relettered, ["echo {label}"], ["a"], {}, .running {} "/p" [labelled]⟩
  have turn : s.Turn (ending 0) inside _ _ _ _ := .passed rfl (.returned stay back)
  exact Sweep.run_items_some turn.run_next

/-- What the command comes to stays the same, and the other repository does not know variables. -/
theorem indistinct_of_agree_lettered :
    namesOf ["echo {label}"] (lettered.select ["a"]) = ["label", "owner", "$TEAM"] ∧
      lettered.Indistinct relettered ["echo {label}"] ["a"] {} ∧
      (((Sweep.start lettered ["echo {label}"] ["a"] {} inside).items (ending 0)).run inside).1 =
        [.ok ⟨"a", ["echo", "blue"], "/p/sub"⟩] ∧
      namesOf ["echo {port}"] (lettered.select ["b"]) = ["port", "port"] ∧
      ∀ e e' : Environment,
        (lettered.withTables lettered.constants e.snapshot).Indistinct
          (lettered.withTables lettered.constants e'.snapshot) ["echo {port}"] ["b"] {} := by
  have named : namesOf ["echo {label}"] (lettered.select ["a"]) = ["label", "owner", "$TEAM"] := by
    decide +kernel
  have named' : namesOf ["echo {port}"] (lettered.select ["b"]) = ["port", "port"] := by
    decide +kernel
  have agree : AgreeOn (namesOf ["echo {label}"] (lettered.select ["a"])) lettered.shared
      relettered.shared := by
    rw [named]
    decide
  have untagged : ∀ name ∈ namesOf ["echo {port}"] (lettered.select ["b"]), ∀ plain,
      name ≠ Environment.tag plain := by
    intro name mem plain tagged
    obtain rfl : name = "port" := by simpa [named'] using mem
    have first := congrArg (·.toList.head?) tagged
    rw [Environment.tag, String.toList_append] at first
    cases first
  have indistinct := (indistinct_of_agree lettered ["echo {label}"] ["a"] {}).1 _ _ agree
  refine ⟨named, indistinct, ?_, named',
    (indistinct_of_agree lettered ["echo {port}"] ["b"] {}).2 untagged⟩
  rw [(indistinct inside (ending 0) inside).2]
  exact items_relettered

end Project

end Fleet
