import Fleet.Proofs.Directories
import Fleet.Proofs.Journeys

/-!
# Climbs

The moves of a relative path come to some steps up and then names to go down, whatever they pass
on the way. The normal form of the path can be read from these two, and so can the normal form of
the path followed from a location. The two agree but for one case: a path that climbs above its
start has no normal form of its own, while followed from a location it may come back down by the
very names that it took back, and then lead below where it started.

* `Climb.normal?_step`, `Climb.step_target`: one more move, on its own and from a location.
* `normalize?_eq_normal?`, `normalize?_join`: all moves of a path.
* `repositoryDirectory_eq_mapError`: a root counts by its normal form.
* `repositoryDirectory_by_climb`: which directory the path of a repository leads to, if any.
-/

namespace Fleet

/-- What the moves of a relative path come to: so many steps up, then names to go down. -/
structure Climb : Type where
  height : Nat
  names : List String
  deriving Repr, DecidableEq

namespace Climb

/-- The climb after one more move. -/
def step (c : Climb) (segment : String) : Climb :=
  if segment = ".." then
    if c.names = [] then { c with height := c.height + 1 }
    else { c with names := c.names.dropLast }
  else { c with names := c.names ++ [segment] }

/-- Where the climb leads from a location. Steps up from the root stay there. -/
def target (c : Climb) (start : Location) : Location :=
  start.take (start.length - c.height) ++ c.names

/-- The climb as a normal path, unless it leaves its start. -/
def normal? (c : Climb) : Option NormalPath :=
  if c.height = 0 then some ⟨false, c.names⟩ else none

/-- Whether the climb comes back to its start by the names that it took back, and then leads to
some further names. -/
def Returns (c : Climb) (start below : Location) : Prop :=
  c.names = start.drop (start.length - c.height) ++ below

instance (c : Climb) (start below : Location) : Decidable (c.Returns start below) :=
  inferInstanceAs (Decidable (_ = _))

variable {c : Climb} {start below : Location}

/-- A climb leads below its start if it returns. -/
theorem returns_iff : c.Returns start below ↔ c.target start = start ++ below := by
  have whole : start ++ below =
      start.take (start.length - c.height) ++ (start.drop (start.length - c.height) ++ below) := by
    rw [← List.append_assoc, List.take_append_drop]
  rw [whole, target, List.append_cancel_left_eq]
  rfl

theorem exists_returns_iff : (∃ below, c.Returns start below) ↔ start <+: c.target start :=
  ⟨fun ⟨below, returns⟩ => ⟨below, (returns_iff.1 returns).symm⟩,
    fun ⟨below, whole⟩ => ⟨below, returns_iff.2 whole.symm⟩⟩

/-- A climb that does not leave its start is below it. -/
theorem returns_of_height (level : c.height = 0) : c.Returns start below ↔ c.names = below := by
  rw [Returns, level, Nat.sub_zero, List.drop_length, List.nil_append]

/-! ## One more move -/

/-- One more move of a path on its own. -/
theorem normal?_step (c : Climb) (segment : String) :
    c.normal?.bind (·.step (Path.stepOf segment)) = (c.step segment).normal? := by
  unfold normal? step Path.stepOf
  by_cases up : segment = ".."
  · rw [if_pos up, if_pos up]
    by_cases level : c.height = 0
    · by_cases bottom : c.names = []
      · rw [if_pos level, if_pos bottom, if_neg (Nat.succ_ne_zero c.height)]
        exact if_neg (fun moved => moved bottom)
      · rw [if_pos level, if_neg bottom, if_pos level]
        exact if_pos bottom
    · rw [if_neg level]
      by_cases bottom : c.names = []
      · rw [if_pos bottom]
        exact (if_neg (Nat.succ_ne_zero c.height)).symm
      · rw [if_neg bottom]
        exact (if_neg level).symm
  · rw [if_neg up, if_neg up]
    by_cases level : c.height = 0
    · rw [if_pos level, if_pos level]
      rfl
    · rw [if_neg level, if_neg level]
      rfl

/-- Taking back the last name of an absolute path; the root stays. -/
theorem step_up (names : List String) :
    NormalPath.step ⟨true, names⟩ .up = some ⟨true, names.dropLast⟩ := by
  cases names <;> rfl

/-- One more move of a path that is followed from a location. -/
theorem step_target (c : Climb) (start : Location) (segment : String) :
    NormalPath.step ⟨true, c.target start⟩ (Path.stepOf segment) =
      some ⟨true, (c.step segment).target start⟩ := by
  unfold Path.stepOf step
  by_cases up : segment = ".."
  · rw [if_pos up, if_pos up, step_up]
    by_cases bottom : c.names = []
    · -- Nothing is left to take back but the start, one name more than before.
      rw [if_pos bottom, target, target, bottom, List.append_nil, List.append_nil,
        List.dropLast_eq_take, List.take_take, List.length_take]
      have fewer : min (min (start.length - c.height) start.length - 1)
          (start.length - c.height) = start.length - (c.height + 1) := by omega
      rw [fewer]
    · rw [if_neg bottom, target, target, List.dropLast_append_of_ne_nil bottom]
  · rw [if_neg up, if_neg up, target, target, ← List.append_assoc]
    rfl

/-- Names are gone down one after the other. -/
theorem foldl_step_names (c : Climb) {names : List String} (down : ∀ name ∈ names, name ≠ "..") :
    names.foldl step c = { c with names := c.names ++ names } := by
  induction names generalizing c with
  | nil => rw [List.append_nil, List.foldl_nil]
  | cons name rest ih =>
    rw [List.foldl_cons, step, if_neg (down name List.mem_cons_self),
      ih _ fun other mem => down other (List.mem_cons_of_mem name mem), List.append_assoc]
    rfl

end Climb

namespace Path

/-- What the moves of a path come to. -/
def climb (path : String) : Climb :=
  (moves path).foldl Climb.step ⟨0, []⟩

variable {path : String}

/-! ## All moves of a path -/

theorem normalizeFrom?_climb (c : Climb) (segments : List String) :
    c.normal?.bind (normalizeFrom? · (segments.map stepOf)) =
      (segments.foldl Climb.step c).normal? := by
  induction segments generalizing c with
  | nil => exact Option.bind_fun_some c.normal?
  | cons segment rest ih =>
    rw [List.foldl_cons, ← ih, ← Climb.normal?_step, Option.bind_assoc]
    rfl

theorem normalizeFrom?_target (c : Climb) (start : Location) (segments : List String) :
    normalizeFrom? ⟨true, c.target start⟩ (segments.map stepOf) =
      some ⟨true, (segments.foldl Climb.step c).target start⟩ := by
  induction segments generalizing c with
  | nil => rfl
  | cons segment rest ih =>
    rw [List.foldl_cons, ← ih, List.map_cons, normalizeFrom?, List.foldlM_cons,
      Climb.step_target]
    rfl

theorem normalize?_of_isAbsolute (absolute : isAbsolute path = true) :
    normalize? path = normalizeFrom? ⟨true, []⟩ ((moves path).map stepOf) := by
  unfold normalize? steps
  dsimp only
  rw [if_pos absolute]
  rfl

theorem normalize?_of_not_isAbsolute (relative : isAbsolute path = false) :
    normalize? path = normalizeFrom? ⟨false, []⟩ ((moves path).map stepOf) := by
  unfold normalize? steps
  dsimp only
  rw [if_neg (Bool.eq_false_iff.1 relative)]
  split <;> rfl

/-- The normal form of a relative path. -/
theorem normalize?_eq_normal? (relative : isAbsolute path = false) :
    normalize? path = (climb path).normal? := by
  rw [normalize?_of_not_isAbsolute relative]
  exact normalizeFrom?_climb ⟨0, []⟩ (moves path)

/-- An absolute path has a normal form. -/
theorem exists_normalize? (absolute : isAbsolute path = true) :
    ∃ names, normalize? path = some ⟨true, names⟩ :=
  ⟨_, (normalize?_of_isAbsolute absolute).trans (normalizeFrom?_target ⟨0, []⟩ [] (moves path))⟩

/-- The normal form of a path that is followed from a location. -/
theorem normalize?_join {names : List String} (proper : ∀ name ∈ names, IsName name)
    (relative : isAbsolute path = false) :
    normalize? (join (FileTree.pathOf names) path) = some ⟨true, (climb path).target names⟩ := by
  have start : Climb.target ⟨0, []⟩ names = names := by
    rw [Climb.target, Nat.sub_zero, List.take_length, List.append_nil]
  rw [normalize?_of_isAbsolute (isAbsolute_join (isAbsolute_pathOf names)),
    moves_join _ relative, moves, segments_pathOf proper, List.map_append, map_stepOf proper,
    normalizeFrom?_append, normalizeFrom?_down, List.nil_append, Option.bind_some]
  have onward := normalizeFrom?_target ⟨0, []⟩ names (moves path)
  rw [start] at onward
  exact onward

/-- Names put together are a relative path down to them. -/
theorem climb_intercalate {names : List String} (proper : ∀ name ∈ names, IsName name) :
    climb (String.intercalate "/" names) = ⟨0, names⟩ := by
  have read : moves (String.intercalate "/" names) = names := by
    rw [moves_intercalate fun name mem => (proper name mem).whole, filter_isIdle proper]
  rw [climb, read]
  exact Climb.foldl_step_names ⟨0, []⟩ fun name mem => (proper name mem).notUp

theorem isAbsolute_intercalate {names : List String} (proper : ∀ name ∈ names, IsName name) :
    isAbsolute (String.intercalate "/" names) = false := by
  match names with
  | [] => rfl
  | name :: rest =>
    refine Bool.eq_false_iff.2 fun absolute => (proper name List.mem_cons_self).nonempty ?_
    obtain ⟨others, parts, _⟩ := segments_of_isAbsolute absolute
    rw [segments_intercalate (fun part mem => (proper part mem).whole) (List.cons_ne_nil name rest)]
      at parts
    exact (List.cons.inj parts).1

end Path

/-- The failure as it is told of another spelling of the root. -/
def PathError.retold (root : String) : PathError → PathError
  | .outside path _ => .outside path root
  | other => other

namespace World

open Fleet.Path (IsName)

variable {w : World} {root path base : String} {names : List String} {directory : NormalPath}

theorem isAbsolute_currentPath {here : String} (known : w.currentPath = .ok here) :
    Path.isAbsolute here = true := by
  unfold currentPath at known
  split at known
  · obtain rfl := Except.ok.inj known
    exact Path.isAbsolute_pathOf _
  · cases known

/-- The absolute form of a root is absolute. -/
theorem isAbsolute_base (full : Path.absolute w.currentPath root = .ok base) :
    Path.isAbsolute base = true :=
  (Path.absolute_spec (fun _ => isAbsolute_currentPath) full).1

/-- A root counts by its normal form; its spelling is in reports only. -/
theorem repositoryDirectory_eq_mapError (full : Path.absolute w.currentPath root = .ok base)
    (normal : Path.normalize? base = some ⟨true, names⟩) :
    w.repositoryDirectory root path =
      (w.repositoryDirectory (FileTree.pathOf names) path).mapError (.retold base) := by
  have spelled : NormalPath.toPath ⟨true, names⟩ = FileTree.pathOf names := rfl
  rw [repositoryDirectory_pathOf (Path.isName_of_normalize? normal), repositoryDirectory,
    bind_ok (mapError_ok full)]
  dsimp only
  rw [normal]
  dsimp only
  rw [spelled]
  cases Path.normalize? (Path.join (FileTree.pathOf names) path) with
  | none => rfl
  | some target =>
    dsimp only
    by_cases out : (!target.isUnder ⟨true, names⟩) = true
    · rw [if_pos out, if_pos out]
      rfl
    · rw [if_neg out, if_neg out]
      by_cases gone : (!w.tree.isDirectory w.here? target.toPath) = true
      · rw [if_pos gone, if_pos gone]
        rfl
      · rw [if_neg gone, if_neg gone]
        unfold realLocation
        cases w.tree.canonicalize w.here? target.toPath with
        | error cause => rfl
        | ok real =>
          cases w.tree.canonicalize w.here? (FileTree.pathOf names) with
          | error cause => rfl
          | ok realBase =>
            show (if _ then _ else _) = Except.mapError _ (if _ then _ else _)
            split <;> rfl

theorem repositoryDirectory_of_normal (full : Path.absolute w.currentPath root = .ok base)
    (normal : Path.normalize? base = some ⟨true, names⟩) :
    w.repositoryDirectory root path = .ok directory ↔ w.IsDirectory names path directory := by
  rw [repositoryDirectory_eq_mapError full normal,
    ← repositoryDirectory_eq_ok_iff (Path.isName_of_normalize? normal)]
  exact ⟨of_mapError_ok, mapError_ok⟩

/-- A relative path counts by where its climb leads. -/
theorem IsDirectory.congr {other : String} (proper : ∀ name ∈ names, IsName name)
    (relative : Path.isAbsolute path = false) (otherRelative : Path.isAbsolute other = false)
    (same : (Path.climb other).target names = (Path.climb path).target names)
    (is : w.IsDirectory names path directory) : w.IsDirectory names other directory where
  normal := by
    rw [Path.normalize?_join proper otherRelative, same, ← Path.normalize?_join proper relative]
    exact is.normal
  absolute := is.absolute
  under := is.under
  stands := is.stands
  contained := is.contained

/-- A climb that does not return leads out of the root. -/
theorem repositoryDirectory_of_no_return (full : Path.absolute w.currentPath root = .ok base)
    (normal : Path.normalize? base = some ⟨true, names⟩)
    (relative : Path.isAbsolute path = false)
    (away : ∀ below, ¬(Path.climb path).Returns names below) :
    w.repositoryDirectory root path = .error (.outside path base) := by
  have proper := Path.isName_of_normalize? normal
  have out : (!NormalPath.isUnder ⟨true, (Path.climb path).target names⟩ ⟨true, names⟩) = true := by
    rw [Bool.not_eq_true', Bool.eq_false_iff]
    intro under
    obtain ⟨below, returns⟩ := Climb.exists_returns_iff.2 (isUnder_iff.1 under).2
    exact away below returns
  rw [repositoryDirectory_eq_mapError full normal, repositoryDirectory_pathOf proper,
    Path.normalize?_join proper relative]
  dsimp only
  rw [if_pos out]
  rfl

/-- Which directory a relative path leads to from a root, if any. A path with a normal form leads
where that form leads from the normal form of the root. A path without one leads out of the root,
unless it comes back by the names of the root: then it counts as what it goes on to. -/
theorem repositoryDirectory_by_climb (full : Path.absolute w.currentPath root = .ok base)
    (relative : Path.isAbsolute path = false) :
    ∃ names, Path.normalize? base = some ⟨true, names⟩ ∧
      (∀ own, Path.normalize? path = some own → ∀ directory,
        w.repositoryDirectory root path = .ok directory →
          directory = ⟨true, names ++ own.names⟩) ∧
      (Path.normalize? path = none →
        ((∀ below, ¬(Path.climb path).Returns names below) →
          w.repositoryDirectory root path = .error (.outside path base)) ∧
        ∀ below, (Path.climb path).Returns names below → ∀ directory,
          w.repositoryDirectory root path = .ok directory ↔
            w.repositoryDirectory root (String.intercalate "/" below) = .ok directory) := by
  obtain ⟨names, normal⟩ := Path.exists_normalize? (isAbsolute_base full)
  have proper := Path.isName_of_normalize? normal
  have led := Path.normalize?_join proper relative
  refine ⟨names, normal, fun own form directory found => ?_, fun _ =>
    ⟨repositoryDirectory_of_no_return full normal relative, fun below returns directory => ?_⟩⟩
  · have is := (repositoryDirectory_of_normal full normal).1 found
    rw [Path.normalize?_eq_normal? relative, Climb.normal?] at form
    split at form
    · next level =>
      obtain rfl := Option.some.inj form
      have returns : (Path.climb path).Returns names (Path.climb path).names :=
        (Climb.returns_of_height level).2 rfl
      rw [← Climb.returns_iff.1 returns]
      exact Option.some.inj (is.normal.symm.trans led)
    · cases form
  · -- The path and the names it goes on to lead to one place, and nothing else of it counts.
    have target := Climb.returns_iff.1 returns
    have properBelow : ∀ name ∈ below, IsName name := by
      intro name mem
      refine Path.isName_of_normalize? led name ?_
      rw [target]
      exact List.mem_append_right names mem
    have straight : (Path.climb (String.intercalate "/" below)).target names =
        (Path.climb path).target names := by
      rw [target, Path.climb_intercalate properBelow]
      exact Climb.returns_iff.1 ((Climb.returns_of_height rfl).2 rfl)
    have straightRelative := Path.isAbsolute_intercalate properBelow
    rw [repositoryDirectory_of_normal full normal, repositoryDirectory_of_normal full normal]
    exact ⟨.congr proper relative straightRelative straight,
      .congr proper straightRelative relative straight.symm⟩

open CommandLine (inside repositoryDirectory_standing) in
/-- A path without a normal form that leads to a directory of the root. -/
theorem repositoryDirectory_roundabout :
    Path.normalize? "../p/sub" = none ∧
      inside.repositoryDirectory "/p" "../p/sub" = .ok ⟨true, ["p", "sub"]⟩ := by
  have full : Path.absolute inside.currentPath "/p" = .ok "/p" :=
    Path.absolute_pathOf Session.isName_of_mem_root inside.currentPath
  have relative : Path.isAbsolute "../p/sub" = false := by decide
  have formless : Path.normalize? "../p/sub" = none := by decide +kernel
  obtain ⟨names, normal, _, without⟩ := repositoryDirectory_by_climb full relative
  have root : Path.normalize? "/p" = some ⟨true, ["p"]⟩ :=
    Path.normalize?_pathOf Session.isName_of_mem_root
  rw [root] at normal
  obtain rfl : ["p"] = names := congrArg NormalPath.names (Option.some.inj normal)
  have returns : (Path.climb "../p/sub").Returns ["p"] ["sub"] := by decide +kernel
  exact ⟨formless, ((without formless).2 ["sub"] returns _).2 repositoryDirectory_standing⟩

end World

end Fleet
