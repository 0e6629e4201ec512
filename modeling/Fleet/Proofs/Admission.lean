import Fleet.Proofs.Climbs
import Fleet.Proofs.Walks

/-!
# Admission of paths

The directory of a repository is a matter of where the normal form of its path leads from the
normal form of the root. It is refused, missing, without a real path or taken, each exactly under its
condition. So a directory below the root is taken under every spelling with the same normal form,
unless a link is on the way or it lies too deep.

* `Detour.foldl_step`, `Spells.climb`: detours in a path come to nothing.
* `Spelling.normalize?`: all spellings of a directory have its normal form.
* `repositoryDirectory_decides`: which paths are refused, which are missing a directory, which have no
  real path, and which are taken.
* `repositoryDirectory_deep`: a directory of the root that has no real path.
-/

namespace Fleet

open Fleet.Path (IsName)

namespace Path

/-! ## Spellings -/

/-- Segments that come to nothing. -/
inductive Detour : List String → Prop where
  /-- A slash is doubled, or put at the end. -/
  | slash : Detour [""]
  | here : Detour ["."]
  /-- Down to an entry, which may not exist, and back. -/
  | back {name : String} : IsName name → Detour [name, ".."]

/-- Names, with detours between them and around. -/
inductive Spells (names : List String) : List String → Prop where
  | plain : Spells names names
  | inserted {front detour back : List String} : Detour detour → Spells names (front ++ back) →
    Spells names (front ++ detour ++ back)

/-- A path that spells names below a root. It starts at the root, or spells the root as well. -/
def Spelling (root below : List String) (path : String) : Prop :=
  Spells (if isAbsolute path then root ++ below else below) (segments path)

variable {names below segments : List String} {path : String}

theorem Detour.foldl_step (detour : Detour segments) (c : Climb) :
    (segments.filter (!isIdle ·)).foldl Climb.step c = c := by
  cases detour with
  | slash | here => rfl
  | @back name proper =>
    have kept : [name, ".."].filter (!isIdle ·) = [name, ".."] := by
      rw [List.filter_cons_of_pos (by rw [proper.isIdle]; rfl)]
      rfl
    have down : c.step name = { c with names := c.names ++ [name] } := if_neg proper.notUp
    rw [kept, List.foldl_cons, List.foldl_cons, List.foldl_nil, down, Climb.step, if_pos rfl,
      if_neg (List.concat_ne_nil name c.names), List.dropLast_concat]

theorem Spells.foldl_step (proper : ∀ name ∈ names, IsName name) (spells : Spells names segments)
    (c : Climb) :
    (segments.filter (!isIdle ·)).foldl Climb.step c = { c with names := c.names ++ names } := by
  induction spells with
  | plain =>
    rw [filter_isIdle proper]
    exact Climb.foldl_step_names c fun name mem => (proper name mem).notUp
  | inserted detour _ ih =>
    rw [List.filter_append, List.foldl_append] at ih
    rw [List.filter_append, List.filter_append, List.foldl_append, List.foldl_append,
      detour.foldl_step, ih]

/-- Detours come to nothing. -/
theorem Spells.climb (proper : ∀ name ∈ names, IsName name)
    (spells : Spells names (Path.segments path)) : Path.climb path = ⟨0, names⟩ :=
  spells.foldl_step proper ⟨0, []⟩

/-- All spellings have one normal form. -/
theorem Spelling.normalize? (proper : ∀ name ∈ names ++ below, IsName name)
    (spelling : Spelling names below path) :
    Path.normalize? (join (FileTree.pathOf names) path) = some ⟨true, names ++ below⟩ := by
  cases absolute : isAbsolute path with
  | false =>
    rw [Spelling, absolute, if_neg Bool.false_ne_true] at spelling
    rw [normalize?_join (fun name mem => proper name (List.mem_append_left below mem)) absolute,
      spelling.climb fun name mem => proper name (List.mem_append_right names mem),
      Climb.returns_iff.1 ((Climb.returns_of_height rfl).2 rfl)]
  | true =>
    rw [Spelling, if_pos absolute] at spelling
    have alone : join (FileTree.pathOf names) path = path := if_pos absolute
    have led := normalizeFrom?_target ⟨0, []⟩ [] (moves path)
    rw [moves, spelling.foldl_step proper] at led
    rw [alone, normalize?_of_isAbsolute absolute]
    exact led

/-- A path that is written has an absolute form, if the working directory has a path. -/
theorem exists_absolute {here : String} (written : path ≠ "") :
    ∃ base, absolute (.ok here) path = .ok base := by
  unfold absolute
  rw [if_neg written]
  by_cases already : isAbsolute path = true
  · rw [if_pos already]
    exact ⟨_, rfl⟩
  · rw [if_neg already]
    exact ⟨_, rfl⟩

end Path

/-- Directories on the way of some names are on the way after the first of these. -/
theorem FileTree.holdsDirectory_onward {t : FileTree} {here : Location} {name : String}
    {rest : List String}
    (real : ∀ front, front <+: name :: rest → t.HoldsDirectory (here ++ front)) :
    ∀ front, front <+: rest → t.HoldsDirectory (here ++ [name] ++ front) := by
  intro front begins
  rw [List.append_assoc]
  exact real _ ((List.prefix_cons_inj name).2 begins)

/-- Names are taken through directories to the location with these names. -/
theorem FileTree.leads_of_directories {t : FileTree} {here : Location} {names : List String}
    (asks : ∀ name ∈ names, Asks name)
    (real : ∀ front, front <+: names → t.HoldsDirectory (here ++ front)) :
    t.Leads here names 0 (here ++ names) := by
  induction names generalizing here with
  | nil =>
    rw [List.append_nil]
    exact .arrived
  | cons name rest ih =>
    have first := real [] (List.nil_prefix)
    rw [List.append_nil] at first
    have taken : here ++ name :: rest = here ++ [name] ++ rest := by
      rw [List.append_assoc, List.singleton_append]
    rw [taken]
    exact .down first (asks name List.mem_cons_self) (real [name] ⟨rest, rfl⟩)
      (ih (fun other mem => asks other (List.mem_cons_of_mem name mem))
        (holdsDirectory_onward real))

/-- Names that are taken through directories only lead to a location with these names. -/
theorem FileTree.Leads.of_directories {t : FileTree} {here there : Location} {names : List String}
    {links : Nat} (leads : t.Leads here names links there) (proper : ∀ name ∈ names, IsName name)
    (real : ∀ front, front <+: names → t.HoldsDirectory (here ++ front)) :
    there = here ++ names := by
  induction names generalizing here links with
  | nil =>
    cases leads
    exact (List.append_nil _).symm
  | cons name rest ih =>
    obtain ⟨middle, links₁, links₂, _, first, second⟩ := leads.uncons
    have own := proper name List.mem_cons_self
    have next : t.HoldsDirectory (here ++ [name]) := real [name] ⟨rest, rfl⟩
    obtain rfl := first.singleton_name own.notHere own.notUp next.notLink
    rw [ih second (fun other mem => proper other (List.mem_cons_of_mem name mem))
      (holdsDirectory_onward real), List.append_assoc]
    rfl

/-- A link that leads to a directory by a path of names. -/
theorem FileTree.Leads.through_pathOf {t : FileTree} {here there : Location} {name : String}
    {names : List String} {links : Nat} (directory : t.HoldsDirectory here) (asks : Asks name)
    (link : t.find? (here ++ [name]) = some (.link (pathOf names)))
    (proper : ∀ name ∈ names, IsName name) (reached : t.HoldsDirectory there)
    (leads : t.Leads [] names links there) : t.Leads here [name] (links + 1) there := by
  have absolute := Path.isAbsolute_pathOf names
  refine .through directory asks link (Path.ne_empty_of_isAbsolute absolute) ?_
  rw [if_pos absolute, List.append_nil]
  refine leads_of_moves reached ?_
  rwa [Path.moves, Path.segments_pathOf proper]

/-- The failure as it is told of another path of a repository. -/
def PathError.about (path : String) : PathError → PathError
  | .outside _ root => .outside path root
  | other => other

namespace World

variable {w : World} {root path base : String} {names below target : Location}

/-! ## What is decided -/

/-- A place is out of the root: by name, or it is a directory and really lies elsewhere. -/
def Strays (w : World) (names target : Location) : Prop :=
  ¬names <+: target ∨
    w.tree.isDirectory w.here? (FileTree.pathOf target) = true ∧
      ∃ real realBase, w.tree.canonicalize w.here? (FileTree.pathOf target) = .ok real ∧
        w.tree.canonicalize w.here? (FileTree.pathOf names) = .ok realBase ∧ ¬realBase <+: real

/-- A place is in the root by name, but there is no directory. -/
def Lacks (w : World) (names target : Location) : Prop :=
  names <+: target ∧ ¬w.tree.isDirectory w.here? (FileTree.pathOf target) = true

/-- A place is in the root by name, and a directory, but its real path goes over one that is too
long. -/
def Buries (w : World) (names target : Location) : Prop :=
  names <+: target ∧ w.tree.isDirectory w.here? (FileTree.pathOf target) = true ∧
    w.tree.canonicalize w.here? (FileTree.pathOf target) = .error .nameTooLong

/-- A directory below a root, with directories only on the way to it from there. -/
structure Reaches (w : World) (names below : Location) : Prop where
  named : ∀ name ∈ below, IsName name
  stands : w.tree.isDirectory w.here? (FileTree.pathOf (names ++ below)) = true
  real : ∀ realBase, w.tree.resolve w.here? (FileTree.pathOf names) = .ok realBase →
    ∀ front, front <+: below → w.tree.HoldsDirectory (realBase ++ front)

theorem Lacks.not_strays (lacks : w.Lacks names target) : ¬w.Strays names target
  | .inl out => out lacks.1
  | .inr strays => lacks.2 strays.1

theorem Buries.not_lacks (buries : w.Buries names target) : ¬w.Lacks names target :=
  fun lacks => lacks.2 buries.2.1

/-- In a tree without deep entries every directory has its real path. -/
theorem not_buries_of_shallow (shallow : w.tree.Shallow) : ¬w.Buries names target := by
  rintro ⟨_, stands, tooLong⟩
  obtain ⟨real, led, _⟩ := FileTree.isDirectory_iff.1 stands
  rw [FileTree.canonicalize_of_shallow shallow led] at tooLong
  cases tooLong

theorem Buries.not_strays (buries : w.Buries names target) : ¬w.Strays names target := by
  rintro (out | ⟨_, real, _, led, _⟩)
  · exact out buries.1
  · rw [buries.2.2] at led
    cases led

theorem repositoryDirectory_eq (full : Path.absolute w.currentPath root = .ok base)
    (normal : Path.normalize? base = some ⟨true, names⟩)
    (led : Path.normalize? (Path.join (FileTree.pathOf names) path) = some ⟨true, target⟩) :
    w.repositoryDirectory root path =
      (do
        if !names.isPrefixOf target then throw (.outside path base)
        if !w.tree.isDirectory w.here? (FileTree.pathOf target) then
          throw (.missing (FileTree.pathOf target))
        let real ← w.realLocation (FileTree.pathOf target)
        let realBase ← w.realLocation (FileTree.pathOf names)
        if !realBase.isPrefixOf real then throw (.outside path base)
        pure ⟨true, target⟩) := by
  have spelled : NormalPath.toPath ⟨true, names⟩ = FileTree.pathOf names := rfl
  rw [repositoryDirectory, bind_ok (mapError_ok full)]
  dsimp only
  rw [normal]
  dsimp only
  rw [spelled, led]
  rfl

variable (full : Path.absolute w.currentPath root = .ok base)
  (normal : Path.normalize? base = some ⟨true, names⟩)
  (led : Path.normalize? (Path.join (FileTree.pathOf names) path) = some ⟨true, target⟩)
include full normal led

theorem repositoryDirectory_of_strays (strays : w.Strays names target) :
    w.repositoryDirectory root path = .error (.outside path base) := by
  rw [repositoryDirectory_eq full normal led]
  dsimp only
  by_cases under : names <+: target
  · obtain ⟨stands, real, realBase, realLed, baseLed, apart⟩ := strays.resolve_left (· under)
    have out : realBase.isPrefixOf real = false :=
      Bool.eq_false_iff.2 (mt List.isPrefixOf_iff_prefix.1 apart)
    rw [List.isPrefixOf_iff_prefix.2 under, stands, realLocation, realLocation, realLed, baseLed]
    show (if (!realBase.isPrefixOf real) = true then _ else _) = _
    rw [out]
    rfl
  · rw [Bool.eq_false_iff.2 (mt List.isPrefixOf_iff_prefix.1 under)]
    rfl

theorem repositoryDirectory_of_lacks (lacks : w.Lacks names target) :
    w.repositoryDirectory root path = .error (.missing (FileTree.pathOf target)) := by
  rw [repositoryDirectory_eq full normal led]
  dsimp only
  rw [List.isPrefixOf_iff_prefix.2 lacks.1, Bool.eq_false_iff.2 lacks.2]
  rfl

theorem repositoryDirectory_of_buries (buries : w.Buries names target) :
    w.repositoryDirectory root path =
      .error (.notAbsolute (FileTree.pathOf target) .nameTooLong) := by
  obtain ⟨under, stands, tooLong⟩ := buries
  rw [repositoryDirectory_eq full normal led]
  dsimp only
  rw [List.isPrefixOf_iff_prefix.2 under, stands, realLocation, tooLong]
  rfl

theorem repositoryDirectory_of_none (within : ¬w.Strays names target)
    (there : ¬w.Lacks names target) (shallow : ¬w.Buries names target) :
    w.repositoryDirectory root path = .ok ⟨true, target⟩ := by
  have under : names <+: target := Classical.not_not.1 fun out => within (.inl out)
  have stands : w.tree.isDirectory w.here? (FileTree.pathOf target) = true :=
    Classical.not_not.1 fun gone => there ⟨under, gone⟩
  obtain ⟨real, resolved, directory⟩ := FileTree.isDirectory_iff.1 stands
  have realLed := (FileTree.canonicalize_eq_ok_or resolved).resolve_right fun tooLong =>
    shallow ⟨under, stands, tooLong⟩
  have proper := Path.isName_of_normalize? led
  obtain ⟨rest, rfl⟩ := under
  obtain ⟨realBase, _, baseLed, _⟩ := FileTree.canonicalize_of_prefix proper directory realLed
  have below : realBase <+: real := Classical.not_not.1 fun apart =>
    within (.inr ⟨stands, real, realBase, realLed, baseLed, apart⟩)
  exact (repositoryDirectory_of_normal full normal).2
    ⟨led, rfl, List.prefix_append names rest, stands, real, realBase, mapError_ok realLed,
      mapError_ok baseLed, below⟩

/-- A path is refused, or misses a directory, or has no real path, or is taken. -/
theorem repositoryDirectory_cases :
    (w.Strays names target ∧ w.repositoryDirectory root path = .error (.outside path base)) ∨
      (w.Lacks names target ∧
        w.repositoryDirectory root path = .error (.missing (FileTree.pathOf target))) ∨
      (w.Buries names target ∧ w.repositoryDirectory root path =
        .error (.notAbsolute (FileTree.pathOf target) .nameTooLong)) ∨
      (¬w.Strays names target ∧ ¬w.Lacks names target ∧ ¬w.Buries names target ∧
        w.repositoryDirectory root path = .ok ⟨true, target⟩) := by
  by_cases strays : w.Strays names target
  · exact .inl ⟨strays, repositoryDirectory_of_strays full normal led strays⟩
  by_cases lacks : w.Lacks names target
  · exact .inr (.inl ⟨lacks, repositoryDirectory_of_lacks full normal led lacks⟩)
  by_cases buries : w.Buries names target
  · exact .inr (.inr (.inl ⟨buries, repositoryDirectory_of_buries full normal led buries⟩))
  · exact .inr (.inr (.inr ⟨strays, lacks, buries,
      repositoryDirectory_of_none full normal led strays lacks buries⟩))

omit led in
/-- A path counts by its normal form; its spelling is in reports only. -/
theorem repositoryDirectory_eq_mapError_about {other : String}
    (same : Path.normalize? (Path.join (FileTree.pathOf names) path) =
      Path.normalize? (Path.join (FileTree.pathOf names) other)) :
    w.repositoryDirectory root other = (w.repositoryDirectory root path).mapError (.about other) := by
  obtain ⟨target, led⟩ := Path.exists_normalize? (Path.isAbsolute_join (Path.isAbsolute_pathOf names))
  rw [led] at same
  rcases repositoryDirectory_cases full normal led with
    ⟨strays, found⟩ | ⟨lacks, found⟩ | ⟨buries, found⟩ | ⟨within, there, shallow, found⟩
  · rw [found, repositoryDirectory_of_strays full normal same.symm strays]
    rfl
  · rw [found, repositoryDirectory_of_lacks full normal same.symm lacks]
    rfl
  · rw [found, repositoryDirectory_of_buries full normal same.symm buries]
    rfl
  · rw [found, repositoryDirectory_of_none full normal same.symm within there shallow]
    rfl

omit full normal led

/-- A directory that is reached without a link really lies below the root. -/
theorem Reaches.not_strays (proper : ∀ name ∈ names ++ below, IsName name)
    (reaches : w.Reaches names below) : ¬w.Strays names (names ++ below) := by
  rintro (out | ⟨_, real, realBase, led, ledBase, apart⟩)
  · exact out (List.prefix_append names below)
  · have led := FileTree.resolve_of_canonicalize led
    have ledBase := FileTree.resolve_of_canonicalize ledBase
    obtain ⟨there, led', directory⟩ := FileTree.isDirectory_iff.1 reaches.stands
    obtain rfl := Except.ok.inj (led.symm.trans led')
    obtain ⟨middle, links, ledMiddle, leads⟩ :=
      FileTree.exists_resolve_of_prefix proper directory led
    obtain rfl := Except.ok.inj (ledBase.symm.trans ledMiddle)
    rw [leads.of_directories reaches.named (reaches.real realBase ledBase)] at apart
    exact apart (List.prefix_append realBase below)

/-- What is decided of a path, exactly. From a root that is written, in a working directory that has
a path, every path leads to one normal form. It is refused if that strays from the normal form of the
root, a directory is missing if there is none, the real path is if it goes over one that is too long,
and else the normal form is the directory. Of a directory that is reached without a link every
spelling is taken, or, if it has no real path, none. -/
theorem repositoryDirectory_decides {here : String} (known : w.currentPath = .ok here)
    (written : root ≠ "") :
    ∃ base names, Path.absolute w.currentPath root = .ok base ∧
      Path.normalize? base = some ⟨true, names⟩ ∧
      (∀ path, ∃ target,
        Path.normalize? (Path.join (FileTree.pathOf names) path) = some ⟨true, target⟩ ∧
        (w.repositoryDirectory root path = .error (.outside path base) ↔ w.Strays names target) ∧
        (w.repositoryDirectory root path = .error (.missing (FileTree.pathOf target)) ↔
          w.Lacks names target) ∧
        (w.repositoryDirectory root path =
            .error (.notAbsolute (FileTree.pathOf target) .nameTooLong) ↔
          w.Buries names target) ∧
        (w.repositoryDirectory root path = .ok ⟨true, target⟩ ↔
          ¬w.Strays names target ∧ ¬w.Lacks names target ∧ ¬w.Buries names target)) ∧
      (∀ path other,
        Path.normalize? (Path.join (FileTree.pathOf names) path) =
            Path.normalize? (Path.join (FileTree.pathOf names) other) →
          w.repositoryDirectory root other =
            (w.repositoryDirectory root path).mapError (.about other)) ∧
      ∀ below, w.Reaches names below → ∀ path, Path.Spelling names below path →
        ∀ spelled, spelled = path ∨ spelled = Path.join (FileTree.pathOf names) path →
          (¬w.Buries names (names ++ below) →
            w.repositoryDirectory root spelled = .ok ⟨true, names ++ below⟩) ∧
          (w.Buries names (names ++ below) → w.repositoryDirectory root spelled =
            .error (.notAbsolute (FileTree.pathOf (names ++ below)) .nameTooLong)) := by
  obtain ⟨base, full⟩ : ∃ base, Path.absolute w.currentPath root = .ok base := by
    rw [known]
    exact Path.exists_absolute written
  obtain ⟨names, normal⟩ := Path.exists_normalize? (isAbsolute_base full)
  have rooted : ∀ path, Path.isAbsolute (Path.join (FileTree.pathOf names) path) = true :=
    fun _ => Path.isAbsolute_join (Path.isAbsolute_pathOf names)
  refine ⟨base, names, full, normal, fun path => ?_,
    fun path other => repositoryDirectory_eq_mapError_about full normal,
    fun below reaches path spelling spelled either => ?_⟩
  · obtain ⟨target, led⟩ := Path.exists_normalize? (rooted path)
    refine ⟨target, led, ?_⟩
    rcases repositoryDirectory_cases full normal led with
      ⟨strays, found⟩ | ⟨lacks, found⟩ | ⟨buries, found⟩ | ⟨within, there, shallow, found⟩
    · have there : ¬w.Lacks names target := fun lacks => lacks.not_strays strays
      have shallow : ¬w.Buries names target := fun buries => buries.not_strays strays
      simp [found, strays, there, shallow]
    · have shallow : ¬w.Buries names target := fun buries => buries.not_lacks lacks
      simp [found, lacks, lacks.not_strays, shallow]
    · simp [found, buries, buries.not_strays, buries.not_lacks]
    · simp [found, there, within, shallow]
  · have proper : ∀ name ∈ names ++ below, IsName name := fun name mem =>
      (List.mem_append.1 mem).elim (Path.isName_of_normalize? normal name) (reaches.named name)
    have led : Path.normalize? (Path.join (FileTree.pathOf names) spelled) =
        some ⟨true, names ++ below⟩ := by
      have whole : Path.join (FileTree.pathOf names) (Path.join (FileTree.pathOf names) path) =
          Path.join (FileTree.pathOf names) path := if_pos (rooted path)
      rcases either with rfl | rfl
      · exact spelling.normalize? proper
      · rw [whole]
        exact spelling.normalize? proper
    have within := reaches.not_strays proper
    have there : ¬w.Lacks names (names ++ below) := fun lacks => lacks.2 reaches.stands
    exact ⟨repositoryDirectory_of_none full normal led within there,
      repositoryDirectory_of_buries full normal led⟩

open CommandLine (inside resolve_housed_root resolve_housed_sub)

theorem reaches_inside : inside.Reaches ["p"] ["sub"] where
  named := fun name mem => by
    rw [List.mem_singleton.1 mem]
    exact ⟨by decide, by decide, by decide, by decide⟩
  stands := FileTree.isDirectory_iff.2 ⟨["p", "sub"], resolve_housed_sub _, 2, rfl⟩
  real := fun realBase led front begins => by
    obtain rfl : ["p"] = realBase := Except.ok.inj ((resolve_housed_root _).symm.trans led)
    rcases List.prefix_cons_iff.1 begins with rfl | ⟨rest, rfl, none⟩
    · exact ⟨1, rfl⟩
    · obtain rfl := List.prefix_nil.1 none
      exact ⟨2, rfl⟩

/-- A path with each kind of detour. -/
theorem spelling_inside : Path.Spelling ["p"] ["sub"] "x/..//./sub/" := by
  have parts : Path.segments "x/..//./sub/" = ["x", "..", "", ".", "sub", ""] := by decide +kernel
  have back : Path.Spells ["sub"] ([] ++ ["x", ".."] ++ ["sub"]) :=
    .inserted (.back ⟨by decide, by decide, by decide, by decide⟩) .plain
  have doubled : Path.Spells ["sub"] (["x", ".."] ++ [""] ++ ["sub"]) := .inserted .slash back
  have here : Path.Spells ["sub"] (["x", "..", ""] ++ ["."] ++ ["sub"]) := .inserted .here doubled
  have ended : Path.Spells ["sub"] (["x", "..", "", ".", "sub"] ++ [""] ++ []) :=
    .inserted .slash here
  rw [Path.Spelling, parts]
  exact ended

/-- A roundabout path to a directory is taken, and one to a place beside the root is refused. -/
theorem repositoryDirectory_decides_roundabout :
    inside.currentPath = .ok "/p" ∧
      inside.repositoryDirectory "/p" "x/..//./sub/" = .ok ⟨true, ["p", "sub"]⟩ ∧
      inside.repositoryDirectory "/p" "/p/x/..//./sub/" = .ok ⟨true, ["p", "sub"]⟩ ∧
      inside.repositoryDirectory "/p" "../pp" = .error (.outside "../pp" "/p") := by
  have known : inside.currentPath = .ok "/p" := rfl
  obtain ⟨base, names, full, normal, decided, _, taken⟩ :=
    repositoryDirectory_decides known (show "/p" ≠ "" by decide)
  have plain : Path.absolute inside.currentPath "/p" = .ok "/p" :=
    Path.absolute_pathOf Session.isName_of_mem_root inside.currentPath
  obtain rfl : "/p" = base := Except.ok.inj (plain.symm.trans full)
  have root : Path.normalize? "/p" = some ⟨true, ["p"]⟩ :=
    Path.normalize?_pathOf Session.isName_of_mem_root
  rw [root] at normal
  obtain rfl : ["p"] = names := congrArg NormalPath.names (Option.some.inj normal)
  have shallow : ¬inside.Buries ["p"] (["p"] ++ ["sub"]) :=
    not_buries_of_shallow CommandLine.shallow_housed
  have taken := taken ["sub"] reaches_inside _ spelling_inside
  have relative := (taken _ (.inl rfl)).1 shallow
  have rooted := (taken _ (.inr rfl)).1 shallow
  obtain ⟨target, led, refused, _⟩ := decided "../pp"
  have beside :
      Path.normalize? (Path.join (FileTree.pathOf ["p"]) "../pp") = some ⟨true, ["pp"]⟩ := by
    decide +kernel
  rw [beside] at led
  obtain rfl : ["pp"] = target := congrArg NormalPath.names (Option.some.inj led)
  exact ⟨known, relative, rooted, refused.2 (.inl (by decide))⟩

/-! ## A directory that lies too deep -/

/-- The longest name that there is. -/
def longName : String :=
  String.ofList (List.replicate FileTree.nameLimit 'd')

/-- So many directories below `/p`, each in the other and with the longest name. -/
def descent (depth : Nat) : Location :=
  "p" :: List.replicate depth longName

/-- The first 16 of these directories. -/
def descents : List (Location × Entry) :=
  (List.range 16).map fun n => (descent (n + 1), .directory (n + 2))

/-- A process at the root of a tree with these directories. A link leads to the 8th of them, and from
there another one to the last. -/
def deep : World where
  tree :=
    { entries := (["p"], .directory 1) :: (["p", "half"], .link (FileTree.pathOf (descent 8))) ::
        (["p", "link"], .link (FileTree.pathOf (["p", "half"] ++ List.replicate 8 longName))) ::
        descents
      nextSerial := 18 }
  current := 0
  output := []
  errors := []

theorem isName_longName : IsName longName := by
  have chars : longName.toList = List.replicate FileTree.nameLimit 'd' := String.toList_ofList
  refine ⟨?_, ?_, ?_, fun slash => ?_⟩
  · exact fun same => absurd (congrArg String.toList same) (by rw [chars]; decide)
  · exact fun same => absurd (congrArg String.toList same) (by rw [chars]; decide)
  · exact fun same => absurd (congrArg String.toList same) (by rw [chars]; decide)
  · rw [chars] at slash
    exact absurd (List.eq_of_mem_replicate slash) (by decide)

theorem utf8ByteSize_longName : longName.utf8ByteSize = FileTree.nameLimit := by
  decide +kernel

theorem isName_of_mem_descent {depth : Nat} : ∀ name ∈ descent depth, IsName name := by
  intro name mem
  rcases List.mem_cons.1 mem with rfl | mem
  · exact ⟨by decide, by decide, by decide, by decide⟩
  · rw [List.eq_of_mem_replicate mem]
    exact isName_longName

theorem descent_append (depth more : Nat) :
    descent depth ++ List.replicate more longName = descent (depth + more) := by
  rw [descent, List.cons_append, List.replicate_append_replicate]
  rfl

theorem utf8ByteSize_pathOf_descent (depth : Nat) :
    (FileTree.pathOf (descent depth)).utf8ByteSize = 2 + 256 * depth := by
  induction depth with
  | zero => rfl
  | succ depth ih =>
    have inhabited : descent depth ≠ [] := List.cons_ne_nil _ _
    rw [← descent_append depth 1, List.replicate_one,
      FileTree.utf8ByteSize_pathOf_concat inhabited, ih, utf8ByteSize_longName, FileTree.nameLimit]
    omega

theorem descent_injective : Function.Injective descent := by
  intro depth other same
  have lengths := congrArg List.length (List.cons.inj same).2
  rwa [List.length_replicate, List.length_replicate] at lengths

theorem lookup_descents {n : Nat} (least : n < 16) :
    descents.lookup (descent (n + 1)) = some (.directory (n + 2)) := by
  obtain ⟨before, after, all⟩ := List.append_of_mem (List.mem_range.2 least)
  have fresh : n ∉ before := by
    have distinct := @List.nodup_range 16
    rw [all, List.nodup_append] at distinct
    exact fun mem => distinct.2.2 n mem n List.mem_cons_self rfl
  rw [List.lookup_eq_some_iff]
  refine ⟨before.map fun n => (descent (n + 1), .directory (n + 2)),
    after.map fun n => (descent (n + 1), .directory (n + 2)), ?_, fun entry mem => ?_⟩
  · rw [descents, all, List.map_append, List.map_cons]
  · obtain ⟨other, held, rfl⟩ := List.mem_map.1 mem
    rw [bne_iff_ne]
    rintro same
    exact fresh (Nat.succ.inj (descent_injective same) ▸ held)

/-- The directories stand where they should. -/
theorem holdsDirectory_descent {depth : Nat} (least : depth ≤ 16) :
    deep.tree.HoldsDirectory (descent depth) := by
  match depth with
  | 0 => exact ⟨1, rfl⟩
  | n + 1 =>
    have other : ∀ name : String, name.utf8ByteSize < FileTree.nameLimit →
        (descent (n + 1) == ["p", name]) = false := by
      rintro name short
      refine beq_eq_false_iff_ne.2 fun same => ?_
      have second : longName = name := (List.cons.inj (List.cons.inj same).2).1
      rw [← second, utf8ByteSize_longName] at short
      exact Nat.lt_irrefl _ short
    have top : (descent (n + 1) == ["p"]) = false := rfl
    refine ⟨n + 2, ?_⟩
    rw [FileTree.find?, if_neg (show descent (n + 1) ≠ [] from List.cons_ne_nil _ _), deep,
      List.lookup_cons, top, List.lookup_cons, other "half" (by decide), List.lookup_cons,
      other "link" (by decide)]
    exact lookup_descents least

/-- A name of this tree can be asked for. -/
theorem asks_of_mem_descent {depth : Nat} : ∀ name ∈ descent depth, FileTree.Asks name := by
  intro name mem
  have proper := isName_of_mem_descent name mem
  refine ⟨proper.notHere, proper.notUp, ?_⟩
  rcases List.mem_cons.1 mem with rfl | mem
  · decide
  · rw [List.eq_of_mem_replicate mem]
    exact Nat.le_of_eq utf8ByteSize_longName

/-- From one of the directories the way leads on to a lower one. -/
theorem leads_descent (depth more : Nat) (least : depth + more ≤ 16) :
    deep.tree.Leads (descent depth) (List.replicate more longName) 0 (descent (depth + more)) := by
  rw [← descent_append]
  refine FileTree.leads_of_directories
    (fun name mem => asks_of_mem_descent name (List.mem_cons_of_mem "p" mem)) fun front begins => ?_
  obtain ⟨fewer, same⟩ := List.prefix_replicate_iff.1 begins
  rw [same, descent_append]
  exact holdsDirectory_descent (by omega)

/-- Where the second link leads. -/
theorem resolve_deep_link : deep.tree.resolve deep.here? "/p/link" = .ok (descent 16) := by
  have path : FileTree.walkSegments "/p/link" = ["p", "link"] := by decide +kernel
  have root : deep.tree.HoldsDirectory [] := ⟨0, rfl⟩
  have project : deep.tree.HoldsDirectory ["p"] := ⟨1, rfl⟩
  have asks : ∀ name ∈ ["p", "half", "link"], FileTree.Asks name := by
    have checked : ∀ name ∈ ["p", "half", "link"],
        name ≠ "." ∧ name ≠ ".." ∧ name.utf8ByteSize ≤ FileTree.nameLimit := by decide
    exact fun name mem => ⟨(checked name mem).1, (checked name mem).2.1, (checked name mem).2.2⟩
  have named : ∀ name ∈ ["p", "half"] ++ List.replicate 8 longName, IsName name := by
    intro name mem
    rcases List.mem_append.1 mem with mem | mem
    · have checked : ∀ name ∈ ["p", "half"],
          name ≠ "" ∧ name ≠ "." ∧ name ≠ ".." ∧ '/' ∉ name.toList := by decide
      obtain ⟨nonempty, notHere, notUp, whole⟩ := checked name mem
      exact ⟨nonempty, notHere, notUp, whole⟩
    · exact isName_of_mem_descent name (List.mem_cons_of_mem "p" mem)
  have half : deep.tree.Leads ["p"] ["half"] 1 (descent 8) :=
    .through_pathOf project (asks _ (by decide)) rfl isName_of_mem_descent
      (holdsDirectory_descent (by decide))
      (.down root (asks _ (by decide)) project (leads_descent 0 8 (by decide)))
  have link : deep.tree.Leads ["p"] ["link"] 2 (descent 16) :=
    .through_pathOf project (asks _ (by decide)) rfl named (holdsDirectory_descent (by decide))
      (.down root (asks _ (by decide)) project (half.append (leads_descent 8 8 (by decide))))
  have whole : deep.tree.Leads [] (FileTree.walkSegments "/p/link") 2 (descent 16) := by
    rw [path]
    exact .down root (asks _ (by decide)) project link
  exact FileTree.resolve_of_leads (show FileTree.startOf deep.here? _ = .ok [] from rfl) whole

/-- A directory of the root that neither strays nor is missing, and still is not taken. -/
theorem repositoryDirectory_deep :
    deep.currentPath = .ok "/" ∧ Path.absolute deep.currentPath "/p" = .ok "/p" ∧
      Path.normalize? "/p" = some ⟨true, ["p"]⟩ ∧
      Path.normalize? (Path.join (FileTree.pathOf ["p"]) "link") = some ⟨true, ["p", "link"]⟩ ∧
      ¬deep.Strays ["p"] ["p", "link"] ∧ ¬deep.Lacks ["p"] ["p", "link"] ∧
      (∃ real realBase, deep.tree.resolve deep.here? "/p/link" = .ok real ∧
        deep.tree.resolve deep.here? "/p" = .ok realBase ∧ realBase <+: real) ∧
      deep.repositoryDirectory "/p" "link" = .error (.notAbsolute "/p/link" .nameTooLong) := by
  have full : Path.absolute deep.currentPath "/p" = .ok "/p" :=
    Path.absolute_pathOf Session.isName_of_mem_root deep.currentPath
  have normal : Path.normalize? "/p" = some ⟨true, ["p"]⟩ :=
    Path.normalize?_pathOf Session.isName_of_mem_root
  have led : Path.normalize? (Path.join (FileTree.pathOf ["p"]) "link") =
      some ⟨true, ["p", "link"]⟩ := by decide +kernel
  have ledRoot : deep.tree.resolve deep.here? "/p" = .ok ["p"] := by
    have path : FileTree.walkSegments "/p" = ["p"] := by decide +kernel
    have leads : deep.tree.Leads [] (FileTree.walkSegments "/p") 0 ["p"] := by
      rw [path]
      exact .down ⟨0, rfl⟩ ⟨by decide, by decide, by decide⟩ ⟨1, rfl⟩ .arrived
    exact FileTree.resolve_of_leads (show FileTree.startOf deep.here? _ = .ok [] from rfl) leads
  have stands : deep.tree.isDirectory deep.here? "/p/link" = true :=
    FileTree.isDirectory_iff.2 ⟨_, resolve_deep_link, holdsDirectory_descent (by decide)⟩
  have buried : deep.tree.canonicalize deep.here? "/p/link" = .error .nameTooLong :=
    FileTree.canonicalize_of_deep (by decide) resolve_deep_link
      (by rw [utf8ByteSize_pathOf_descent]; decide)
  have buries : deep.Buries ["p"] ["p", "link"] := ⟨by decide, stands, buried⟩
  exact ⟨rfl, full, normal, led, buries.not_strays, buries.not_lacks,
    ⟨_, _, resolve_deep_link, ledRoot, ⟨_, rfl⟩⟩,
    repositoryDirectory_of_buries full normal led buries⟩

end World

end Fleet
