import Fleet.Proofs.Directories
import Fleet.Proofs.Walks

/-!
# Spellings of a configuration file's path

The root of a project is worked out from the path of its configuration file as it is written, by
leaving out the last step, and one more if that is the marker. Which file is read depends only on
where the path leads. The two agree on every spelling that names the directory of the file. They
disagree if the file is named alone, from inside the directory that marks the project.

* `moves_rootOf`: what leaving out steps comes to.
* `load_cases`: a project is loaded from a configuration, unless its root lies too deep.
* `resolve_join`, `resolve_of_join`: a relative path and its absolute form lead to one place, but for
  the limits on the length of a path and on the links in it.
* `load_join`: how far they load the same project.
-/

namespace Fleet

open Words (HoldsNul)

namespace Project

/-! ## The root by the moves of a path -/

/-- The moves to the root of a project, given those to the directory of its configuration file. -/
def rootMoves (before : List String) : List String :=
  if before.getLast? = some markerName then before.dropLast else before

/-- The root is what a path begins with, up to the directory of the file or the one above. -/
theorem exists_rootOf {path name : String} {before : List String}
    (all : Path.moves path = before ++ [name]) :
    ∃ root, (∃ rest, root ++ rest = path) ∧ Path.isAbsolute root = Path.isAbsolute path ∧
      Path.moves root = rootMoves before ∧ Path.EndInMove (Path.segments root) ∧
      rootOf path = if root = "" then "." else root := by
  have moving : Path.moves path ≠ [] := by
    rw [all]
    exact List.concat_ne_nil name before
  obtain ⟨parent, found⟩ := Path.exists_parent? moving
  obtain ⟨⟨rest, begins⟩, absolute, moves, ends⟩ := Path.isParent_of_parent? found
  rw [all, List.dropLast_concat] at moves
  have marked : Path.fileName? parent = some markerName ↔ before.getLast? = some markerName := by
    rw [Path.fileName?_eq_some_iff, moves]
    exact and_iff_left (by decide)
  unfold rootOf rootMoves
  rw [found]
  dsimp only [Option.getD_some]
  by_cases marker : before.getLast? = some markerName
  · rw [if_pos marker, if_pos (marked.2 marker)]
    have moving : Path.moves parent ≠ [] := by
      rw [moves]
      rintro rfl
      cases marker
    obtain ⟨above, foundAbove⟩ := Path.exists_parent? moving
    obtain ⟨⟨rest', begins'⟩, absolute', moves', ends'⟩ := Path.isParent_of_parent? foundAbove
    refine ⟨above, ⟨rest' ++ rest, ?_⟩, absolute'.trans absolute, by rw [moves', moves], ends', ?_⟩
    · rw [← String.append_assoc, begins', begins]
    · rw [foundAbove]
      rfl
  · rw [if_neg marker, if_neg (mt marked.1 marker)]
    exact ⟨parent, ⟨rest, begins⟩, absolute, moves, ends, rfl⟩

/-- The moves to the root of a project. -/
theorem moves_rootOf {path name : String} {before : List String}
    (all : Path.moves path = before ++ [name]) :
    Path.moves (rootOf path) = rootMoves before := by
  obtain ⟨root, _, _, moves, _, same⟩ := exists_rootOf all
  rw [same, ← moves]
  split
  · next blank =>
    rw [blank]
    decide
  · rfl

/-- On the way to a root its moves count only. -/
theorem overlong_rootOf_iff {t : FileTree} {path name : String} {before : List String}
    {here : Location} (all : Path.moves path = before ++ [name]) :
    t.Overlong here (FileTree.walkSegments (rootOf path)) ↔ t.Overlong here (rootMoves before) := by
  obtain ⟨root, _, _, _, ends, same⟩ := exists_rootOf all
  have ends : Path.EndInMove (Path.segments (rootOf path)) := by
    rw [same]
    split
    · exact fun moving => absurd (by decide) moving
    · exact ends
  rw [← moves_rootOf all, FileTree.overlong_moves_iff ends]

/-- A root is walked from where the path is walked from. -/
theorem startOf_rootOf {path name : String} {before : List String} {here : Option Location}
    {start : Location} (all : Path.moves path = before ++ [name])
    (starts : FileTree.startOf here path = .ok start) :
    FileTree.startOf here (rootOf path) = .ok start := by
  obtain ⟨root, ⟨rest, begins⟩, absolute, _, _, same⟩ := exists_rootOf all
  obtain ⟨takable, starts⟩ := FileTree.startOf_eq_ok_iff.1 starts
  rw [same, FileTree.startOf_eq_ok_iff]
  split
  · next blank =>
    rw [← absolute, blank] at starts
    exact ⟨⟨by decide, by unfold HoldsNul; decide, by decide⟩, starts⟩
  · next written =>
    rw [absolute]
    exact ⟨takable.of_begins begins written, starts⟩

end Project

namespace World

variable {w : World} {path text : String}

/-! ## Reading -/

/-- What is read lies at a location, and is no directory. -/
theorem of_readText (read : w.readText path = .ok text) :
    ∃ location, w.tree.resolve w.here? path = .ok location ∧
      ¬w.tree.HoldsDirectory location := by
  unfold readText at read
  obtain ⟨entry, stands, read⟩ := of_bind_ok read
  unfold FileTree.entryAt at stands
  obtain ⟨location, led, stands⟩ := of_bind_ok stands
  refine ⟨location, led, ?_⟩
  rintro ⟨serial, found⟩
  rw [found] at stands
  obtain rfl := Except.ok.inj stands
  cases read

/-- A path whose file can be read ends in a move, and those before it lead to a directory. -/
theorem moves_of_readText (read : w.readText path = .ok text) :
    ∃ start before name links middle, FileTree.startOf w.here? path = .ok start ∧
      Path.moves path = before ++ [name] ∧ links ≤ FileTree.linkLimit ∧
      w.tree.Leads start before links middle ∧ w.tree.HoldsDirectory middle := by
  obtain ⟨location, led, noDirectory⟩ := of_readText read
  obtain ⟨start, links, starts, covered, leads⟩ := FileTree.resolve_eq_ok_iff.1 led
  have onward := leads.moves
  rcases List.eq_nil_or_concat (Path.moves path) with none | ⟨before, name, all⟩
  · rw [none] at onward
    cases onward
    -- Without a move the path leads to where it starts, which is a directory.
    refine absurd ?_ noDirectory
    obtain ⟨takable, starts⟩ := FileTree.startOf_eq_ok_iff.1 starts
    cases absolute : Path.isAbsolute path with
    | true =>
      rw [if_pos absolute] at starts
      exact ⟨_, by rw [starts, FileTree.find?_root]⟩
    | false =>
      obtain ⟨segment, rest, taken⟩ := List.exists_cons_of_ne_nil
        (FileTree.walkSegments_ne_nil absolute takable.written)
      rw [taken] at leads
      exact leads.holdsDirectory
  · rw [List.concat_eq_append] at all
    rw [all] at onward
    obtain ⟨middle, links₁, links₂, rfl, first, last⟩ := onward.split
    exact ⟨start, before, name, links₁, middle, starts, all, by omega, first, last.holdsDirectory⟩

/-- Paths to one place are read alike. -/
theorem readText_congr {other : String} {location : Location}
    (led : w.tree.resolve w.here? path = .ok location)
    (led' : w.tree.resolve w.here? other = .ok location) :
    w.readText path = w.readText other := by
  rw [readText, readText, FileTree.entryAt, FileTree.entryAt, led, led']

/-! ## The working directory by name -/

/-- The process is in the directory that an absolute path names. -/
structure IsIn (w : World) (directory : String) (here : Location) : Prop where
  absolute : Path.isAbsolute directory = true
  clean : ¬HoldsNul directory
  located : w.here? = some here
  leads : ∃ links, w.tree.Leads [] (FileTree.walkSegments directory) links here

variable {directory : String} {here location : Location}

theorem holdsNul_join {base : String} (relative : Path.isAbsolute path = false) :
    HoldsNul (Path.join base path) ↔ HoldsNul base ∨ HoldsNul path := by
  have slash : ¬HoldsNul "/" := by unfold HoldsNul; decide
  unfold Path.join
  rw [relative, if_neg Bool.false_ne_true]
  split
  · exact Words.holdsNul_append
  · rw [Words.holdsNul_append, Words.holdsNul_append, or_iff_left slash]

/-- Where the absolute form of a path leads, the path leads. -/
theorem resolve_of_join (inside : w.IsIn directory here) (relative : Path.isAbsolute path = false)
    (written : path ≠ "")
    (led : w.tree.resolve w.here? (Path.join directory path) = .ok location) :
    w.tree.resolve w.here? path = .ok location := by
  obtain ⟨start, links, starts, covered, leads⟩ := FileTree.resolve_eq_ok_iff.1 led
  obtain ⟨takable, starts⟩ := FileTree.startOf_eq_ok_iff.1 starts
  rw [if_pos (Path.isAbsolute_join inside.absolute)] at starts
  subst starts
  obtain ⟨middle, links₁, links₂, rfl, first, second⟩ :=
    (FileTree.leads_join_iff relative written).1 leads
  obtain ⟨known, toHere⟩ := inside.leads
  obtain ⟨_, rfl⟩ := first.unique toHere
  obtain ⟨front, whole⟩ := Path.exists_append_join directory relative
  have short := takable.short
  rw [whole, String.utf8ByteSize_append] at short
  refine FileTree.resolve_eq_ok_iff.2 ⟨middle, links₂, ?_, by omega, second⟩
  rw [FileTree.startOf_eq_ok_iff, relative, if_neg Bool.false_ne_true]
  refine ⟨⟨written, fun nul => takable.clean ?_, by omega⟩, inside.located⟩
  exact (holdsNul_join relative).2 (.inr nul)

/-- Where a path leads, its absolute form leads, unless that is too long or there are too many links
on the way. -/
theorem resolve_join (inside : w.IsIn directory here) (relative : Path.isAbsolute path = false)
    (led : w.tree.resolve w.here? path = .ok location) :
    w.tree.resolve w.here? (Path.join directory path) = .ok location ∨
      ∃ cause, (cause = .nameTooLong ∨ cause = .tooManyLinks) ∧
        w.tree.resolve w.here? (Path.join directory path) = .error cause := by
  obtain ⟨start, links, starts, covered, leads⟩ := FileTree.resolve_eq_ok_iff.1 led
  obtain ⟨takable, starts⟩ := FileTree.startOf_eq_ok_iff.1 starts
  rw [relative, if_neg Bool.false_ne_true, inside.located] at starts
  obtain rfl := Option.some.inj starts
  obtain ⟨known, toHere⟩ := inside.leads
  have absolute : Path.isAbsolute (Path.join directory path) = true :=
    Path.isAbsolute_join inside.absolute
  have clean : ¬HoldsNul (Path.join directory path) := fun nul =>
    ((holdsNul_join relative).1 nul).elim inside.clean takable.clean
  have written := Path.ne_empty_of_isAbsolute absolute
  by_cases short : (Path.join directory path).utf8ByteSize ≤ FileTree.pathLimit
  · have fromRoot : FileTree.startOf w.here? (Path.join directory path) = .ok [] := by
      rw [FileTree.startOf_eq_ok_iff, if_pos absolute]
      exact ⟨⟨written, clean, short⟩, rfl⟩
    have whole := (FileTree.leads_join_iff relative takable.written).2
      ⟨here, known, links, rfl, toHere, leads⟩
    rw [FileTree.resolve_of_leads fromRoot whole]
    split
    · exact .inl rfl
    · exact .inr ⟨.tooManyLinks, .inr rfl, rfl⟩
  · refine .inr ⟨.nameTooLong, .inl rfl, ?_⟩
    rw [FileTree.resolve, FileTree.startOf_of_long clean (Nat.not_le.1 short)]
    rfl

end World

namespace Project

variable {w : World} {path directory text : String} {here : Location}

/-! ## Loading -/

/-- Where the root of a file that can be read lies, going by the moves of its path. -/
theorem root_of_readText (read : w.readText path = .ok text) :
    ∃ start before name links root, FileTree.startOf w.here? path = .ok start ∧
      Path.moves path = before ++ [name] ∧ w.tree.Leads start (rootMoves before) links root ∧
      w.tree.resolve w.here? (rootOf path) = .ok root := by
  obtain ⟨start, before, name, links, middle, starts, all, covered, leads, directory⟩ :=
    World.moves_of_readText read
  have found : ∃ links' ≤ links, ∃ root, w.tree.Leads start (rootMoves before) links' root ∧
      w.tree.HoldsDirectory root := by
    unfold rootMoves
    split
    · next marker =>
      obtain ⟨above, rfl⟩ := List.getLast?_eq_some_iff.1 marker
      obtain ⟨root, links₁, links₂, rfl, first, last⟩ := leads.split
      rw [List.dropLast_concat]
      exact ⟨links₁, Nat.le_add_right links₁ links₂, root, first, last.holdsDirectory⟩
    · exact ⟨links, Nat.le_refl links, middle, leads, directory⟩
  obtain ⟨links', fewer, root, leads, directory⟩ := found
  refine ⟨start, before, name, links', root, starts, all, leads, ?_⟩
  rw [← moves_rootOf all] at leads
  rw [FileTree.resolve_of_leads (startOf_rootOf all starts)
    (FileTree.leads_of_moves directory leads), if_pos (Nat.le_trans fewer covered)]

/-- What a project that was loaded was loaded from. -/
theorem of_load {loaded : LoadedProject} (found : load w path = .ok loaded) :
    ∃ text, w.readText path = .ok text ∧
      Configuration.ofText path text = .ok loaded.configuration ∧
      ∃ root, w.tree.resolve w.here? (rootOf path) = .ok root ∧
        loaded.root = FileTree.pathOf root := by
  unfold load at found
  obtain ⟨text, read, found⟩ := of_bind_ok found
  obtain ⟨configuration, parsed, found⟩ := of_bind_ok found
  obtain ⟨root, led, found⟩ := of_bind_ok found
  obtain rfl := Except.ok.inj found
  exact ⟨text, of_mapError_ok read, parsed, root,
    FileTree.resolve_of_canonicalize (of_mapError_ok led), rfl⟩

/-- From a configuration that can be read its project is loaded, with the root where the moves lead,
unless an entry on the way is asked for by a path that is too long. -/
theorem load_cases {configuration : Configuration} (read : w.readText path = .ok text)
    (parsed : Configuration.ofText path text = .ok configuration) :
    ∃ start before name links root, FileTree.startOf w.here? path = .ok start ∧
      Path.moves path = before ++ [name] ∧ w.tree.Leads start (rootMoves before) links root ∧
      ((w.tree.Overlong start (rootMoves before) ∧
          load w path = .error (.unreadable (rootOf path) .nameTooLong)) ∨
        (¬w.tree.Overlong start (rootMoves before) ∧
          load w path = .ok ⟨FileTree.pathOf root, configuration⟩)) := by
  obtain ⟨start, before, name, links, root, starts, all, leads, led⟩ := root_of_readText read
  refine ⟨start, before, name, links, root, starts, all, leads, ?_⟩
  obtain ⟨origin, origins, real⟩ := FileTree.canonicalize_cases led
  obtain rfl := Except.ok.inj (origins.symm.trans (startOf_rootOf all starts))
  rw [overlong_rootOf_iff all] at real
  refine real.imp (fun ⟨beyond, failed⟩ => ⟨beyond, ?_⟩) fun ⟨fits, found⟩ =>
    ⟨fits, load_of_canonicalize read parsed found⟩
  unfold load
  rw [bind_ok (mapError_ok read), bind_ok parsed]
  dsimp only
  rw [failed]
  rfl

/-- A text is a configuration or not, whatever the path of its file. -/
theorem ofText_congr {configuration : Configuration}
    (parsed : Configuration.ofText path text = .ok configuration) (other : String) :
    Configuration.ofText other text = .ok configuration :=
  mapError_ok (of_mapError_ok parsed)

/-- The file is named alone, from inside the directory that marks a project. -/
def NamedInside (directory path : String) : Prop :=
  (Path.moves path).length = 1 ∧ Path.fileName? directory = some markerName

theorem namedInside_iff {before : List String} {name : String}
    (all : Path.moves path = before ++ [name]) :
    NamedInside directory path ↔
      before = [] ∧ (Path.moves directory).getLast? = some markerName := by
  rw [NamedInside, all, Path.fileName?_eq_some_iff, List.length_append, List.length_singleton,
    Nat.add_eq_right, List.length_eq_zero_iff]
  exact and_congr_right' (and_iff_left (by decide))

/-- What is in front of moves does not matter to which of them lead to the root. -/
theorem rootMoves_append (front : List String) {before : List String} (inhabited : before ≠ []) :
    rootMoves (front ++ before) = front ++ rootMoves before := by
  obtain ⟨others, last, rfl⟩ := (List.eq_nil_or_concat before).resolve_left inhabited
  unfold rootMoves
  rw [List.concat_eq_append, ← List.append_assoc, List.getLast?_concat, List.getLast?_concat,
    List.dropLast_concat, List.dropLast_concat]
  split
  · rfl
  · rw [List.append_assoc]

/-- The root of a file named by a relative path, and by the absolute form of that path. -/
theorem root_join {before : List String} {name : String} {root root' : Location}
    {links links' : Nat} (inside : w.IsIn directory here)
    (all : Path.moves path = before ++ [name])
    (leads : w.tree.Leads here (rootMoves before) links root)
    (leads' : w.tree.Leads [] (rootMoves (Path.moves directory ++ before)) links' root') :
    (¬NamedInside directory path → root' = root) ∧
      (NamedInside directory path → root = here ∧
        w.tree.Leads [] (Path.moves directory).dropLast links' root') := by
  obtain ⟨known, toHere⟩ := inside.leads
  have toHere := toHere.moves
  rw [namedInside_iff all]
  by_cases alone : before = []
  · subst alone
    have same : root = here := by
      cases leads
      rfl
    rw [List.append_nil, rootMoves] at leads'
    by_cases marker : (Path.moves directory).getLast? = some markerName
    · rw [if_pos marker] at leads'
      exact ⟨fun other => absurd ⟨rfl, marker⟩ other, fun _ => ⟨same, leads'⟩⟩
    · rw [if_neg marker] at leads'
      exact ⟨fun _ => (leads'.unique toHere).2.trans same.symm, fun held => absurd held.2 marker⟩
  · rw [rootMoves_append _ alone] at leads'
    obtain ⟨middle, links₁, links₂, rfl, first, second⟩ := leads'.split
    obtain ⟨_, rfl⟩ := first.unique toHere
    exact ⟨fun _ => (second.unique leads).2, fun held => absurd held.1 alone⟩

/-- If the way to the root is overlong from the working directory, it is so from the root of the
tree. -/
theorem overlong_root_join {before : List String} {root : Location} {links : Nat}
    (inside : w.IsIn directory here) (leads : w.tree.Leads here (rootMoves before) links root)
    (beyond : w.tree.Overlong here (rootMoves before)) :
    w.tree.Overlong [] (rootMoves (Path.moves directory ++ before)) := by
  have inhabited : before ≠ [] := by
    rintro rfl
    exact FileTree.not_overlong_nil beyond
  obtain ⟨known, toHere⟩ := inside.leads
  rw [rootMoves_append _ inhabited]
  exact .append toHere.moves leads beyond

/-- Joining nothing to a path asks for a directory. -/
theorem getLast?_join_empty {base : String} (written : base ≠ "") :
    (Path.join base "").toList.getLast? = some '/' := by
  have relative : Path.isAbsolute "" = false := rfl
  unfold Path.join
  rw [relative, if_neg Bool.false_ne_true]
  split
  · next seam =>
    rw [decide_eq_false written, Bool.false_or, beq_iff_eq] at seam
    rw [String.append_empty, seam]
  · rw [String.append_empty, String.toList_append]
    exact List.getLast?_concat

/-- A file that can be read by the absolute form of a path can be read by the path, and the texts are
the same. -/
theorem readText_of_join (inside : w.IsIn directory here) (relative : Path.isAbsolute path = false)
    (read : w.readText (Path.join directory path) = .ok text) : w.readText path = .ok text := by
  obtain ⟨location, led, noDirectory⟩ := World.of_readText read
  by_cases written : path = ""
  · obtain ⟨_, links, _, _, leads⟩ := FileTree.resolve_eq_ok_iff.1 led
    refine absurd (leads.holdsDirectory_of_slash ?_) noDirectory
    rw [written]
    exact getLast?_join_empty (Path.ne_empty_of_isAbsolute inside.absolute)
  · rw [← read]
    exact World.readText_congr (World.resolve_of_join inside relative written led) led

/-- What can be read by a relative path and by its absolute form: the moves to the root by the one,
and by the other. -/
theorem moves_of_join {start start' : Location} {before before' : List String} {name name' : String}
    (inside : w.IsIn directory here) (relative : Path.isAbsolute path = false)
    (starts : FileTree.startOf w.here? path = .ok start) (all : Path.moves path = before ++ [name])
    (starts' : FileTree.startOf w.here? (Path.join directory path) = .ok start')
    (all' : Path.moves (Path.join directory path) = before' ++ [name']) :
    start = here ∧ start' = [] ∧ before' = Path.moves directory ++ before := by
  obtain ⟨_, starts⟩ := FileTree.startOf_eq_ok_iff.1 starts
  rw [relative, if_neg Bool.false_ne_true, inside.located] at starts
  have fromRoot := FileTree.eq_root_of_startOf (Path.isAbsolute_join inside.absolute) starts'
  rw [Path.moves_join directory relative, all, ← List.append_assoc] at all'
  exact ⟨(Option.some.inj starts).symm, fromRoot, (List.append_inj' all' rfl).1.symm⟩

/-- What the absolute form of a path loads, the path loads, maybe with another root. -/
theorem exists_load_of_join {loaded : LoadedProject} (inside : w.IsIn directory here)
    (relative : Path.isAbsolute path = false)
    (found : load w (Path.join directory path) = .ok loaded) :
    ∃ loaded, load w path = .ok loaded := by
  obtain ⟨text, readJoined, parsed, _⟩ := of_load found
  have read := readText_of_join inside relative readJoined
  obtain ⟨start, before, name, links, root, starts, all, leads, ⟨beyond, _⟩ | ⟨_, loads⟩⟩ :=
    load_cases read (ofText_congr parsed path)
  · obtain ⟨start', before', name', _, _, starts', all', _, ⟨_, failed⟩ | ⟨fits, _⟩⟩ :=
      load_cases readJoined parsed
    · rw [found] at failed
      cases failed
    · obtain ⟨rfl, rfl, rfl⟩ := moves_of_join inside relative starts all starts' all'
      exact absurd (overlong_root_join inside leads beyond) fits
  · exact ⟨_, loads⟩

/-- A relative path and its absolute form load the same configuration or nothing, unless the absolute
form, or the way to the root by it, is beyond the limits of the system. The roots are the same as
well, unless the file is named alone from inside the directory that marks its project: then its root
is that directory by the relative path, and the directory above by the absolute one. -/
theorem load_join (inside : w.IsIn directory here) (relative : Path.isAbsolute path = false) :
    (∃ e e', load w path = .error e ∧ load w (Path.join directory path) = .error e') ∨
      ∃ loaded, load w path = .ok loaded ∧
        ((∃ cause, (cause = .nameTooLong ∨ cause = .tooManyLinks) ∧
            load w (Path.join directory path) =
              .error (.unreadable (Path.join directory path) cause)) ∨
          load w (Path.join directory path) =
            .error (.unreadable (rootOf (Path.join directory path)) .nameTooLong) ∨
          ∃ root, load w (Path.join directory path) =
              .ok { loaded with root := FileTree.pathOf root } ∧
            (¬NamedInside directory path → FileTree.pathOf root = loaded.root) ∧
            (NamedInside directory path → loaded.root = FileTree.pathOf here ∧
              ∃ links, w.tree.Leads [] (Path.moves directory).dropLast links root)) := by
  match found : load w path with
  | .error e =>
    match foundJoined : load w (Path.join directory path) with
    | .error e' => exact .inl ⟨e, e', rfl, rfl⟩
    | .ok loaded =>
      obtain ⟨_, other⟩ := exists_load_of_join inside relative foundJoined
      rw [found] at other
      cases other
  | .ok loaded =>
    refine .inr ⟨loaded, rfl, ?_⟩
    obtain ⟨text, read, parsed, _⟩ := of_load found
    obtain ⟨location, led, _⟩ := World.of_readText read
    rcases World.resolve_join inside relative led with ledJoined | ⟨cause, limit, refused⟩
    · have readJoined := (World.readText_congr ledJoined led).trans read
      obtain ⟨start', before', name', links', root', starts', all', leads', ⟨_, failed⟩ |
        ⟨_, loadedJoined⟩⟩ := load_cases readJoined (ofText_congr parsed _)
      · exact .inr (.inl failed)
      · obtain ⟨start, before, name, links, root, starts, all, leads, ⟨_, failed⟩ | ⟨_, loads⟩⟩ :=
          load_cases read parsed
        · rw [found] at failed
          cases failed
        · obtain ⟨rfl, rfl, rfl⟩ := moves_of_join inside relative starts all starts' all'
          obtain ⟨same, marked⟩ := root_join inside all leads leads'
          have written : loaded.root = FileTree.pathOf root :=
            congrArg LoadedProject.root (Except.ok.inj (found.symm.trans loads))
          rw [written]
          exact .inr (.inr ⟨root', loadedJoined, fun other => congrArg FileTree.pathOf (same other),
            fun held => ⟨congrArg FileTree.pathOf (marked held).1, links', (marked held).2⟩⟩)
    · refine .inl ⟨cause, limit, ?_⟩
      rw [load, World.readText, FileTree.entryAt, refused]
      rfl

/-- A process in the directory that marks the project `/p`, with an empty configuration file. -/
def withinMarker : World where
  tree :=
    { entries := [(["p"], .directory 1), (["p", ".repomux"], .directory 2),
        (["p", ".repomux", "repomux.toml"], .file [] 0o644)]
      nextSerial := 3 }
  current := 2
  output := []
  errors := []

/-- The file named alone has the directory it lies in for its root, and the file by its absolute path
has the one above. -/
theorem load_join_withinMarker :
    withinMarker.IsIn "/p/.repomux" ["p", ".repomux"] ∧
      Path.isAbsolute "repomux.toml" = false ∧ NamedInside "/p/.repomux" "repomux.toml" ∧
      ∃ configuration,
        load withinMarker "repomux.toml" = .ok ⟨"/p/.repomux", configuration⟩ ∧
        load withinMarker "/p/.repomux/repomux.toml" = .ok ⟨"/p", configuration⟩ := by
  have marker : FileTree.walkSegments "/p/.repomux" = ["p", ".repomux"] := by decide +kernel
  have file : FileTree.walkSegments "repomux.toml" = ["repomux.toml"] := by decide +kernel
  have full : FileTree.walkSegments "/p/.repomux/repomux.toml" =
      ["p", ".repomux", "repomux.toml"] := by decide +kernel
  have down : withinMarker.tree.Leads [] ["p", ".repomux"] 0 ["p", ".repomux"] :=
    .down ⟨0, rfl⟩ ⟨by decide, by decide, by decide⟩ ⟨1, rfl⟩
      (.down ⟨1, rfl⟩ ⟨by decide, by decide, by decide⟩ ⟨2, rfl⟩ .arrived)
  have ends : withinMarker.tree.Leads ["p", ".repomux"] ["repomux.toml"] 0
      ["p", ".repomux", "repomux.toml"] :=
    .ends ⟨2, rfl⟩ ⟨by decide, by decide, by decide⟩ rfl (fun _ same => nomatch same)
      fun _ same => nomatch same
  have inside : withinMarker.IsIn "/p/.repomux" ["p", ".repomux"] :=
    ⟨by decide, by unfold HoldsNul; decide, rfl, 0, by rw [marker]; exact down⟩
  have named : NamedInside "/p/.repomux" "repomux.toml" := ⟨by decide +kernel, by decide +kernel⟩
  have joined : Path.join "/p/.repomux" "repomux.toml" = "/p/.repomux/repomux.toml" := by decide
  have read : withinMarker.readText "/p/.repomux/repomux.toml" = .ok "" := by
    have whole : withinMarker.tree.Leads [] (FileTree.walkSegments "/p/.repomux/repomux.toml") 0
        ["p", ".repomux", "repomux.toml"] := by
      rw [full]
      exact down.append ends
    have starts : FileTree.startOf withinMarker.here? "/p/.repomux/repomux.toml" = .ok [] := rfl
    have led := FileTree.resolve_of_leads starts whole
    rw [World.readText, bind_ok (FileTree.entryAt_of_resolve led rfl)]
    rfl
  obtain ⟨configuration, parsed⟩ :
    ∃ configuration, Configuration.ofText "/p/.repomux/repomux.toml" "" = .ok configuration :=
    ⟨_, rfl⟩
  have shallow : withinMarker.tree.Shallow := by decide +kernel
  obtain ⟨_, _, _, _, _, _, _, _, rootLed⟩ := root_of_readText read
  have found := load_of_canonicalize read parsed (FileTree.canonicalize_of_shallow shallow rootLed)
  have alone : Path.isAbsolute "repomux.toml" = false := rfl
  rcases load_join inside alone with
    ⟨_, _, _, failed⟩ | ⟨loaded, foundAlone, ⟨_, _, failed⟩ | failed | ⟨root, foundJoined, _, marked⟩⟩
  · rw [joined, found] at failed
    cases failed
  · rw [joined, found] at failed
    cases failed
  · rw [joined, found] at failed
    cases failed
  · obtain ⟨rootAlone, links, leads⟩ := marked named
    have above : (Path.moves "/p/.repomux").dropLast = ["p"] := by decide +kernel
    rw [above] at leads
    have top : withinMarker.tree.Leads [] ["p"] 0 ["p"] :=
      .down ⟨0, rfl⟩ ⟨by decide, by decide, by decide⟩ ⟨1, rfl⟩ .arrived
    obtain ⟨_, rfl⟩ := leads.unique top
    obtain ⟨_, configuration⟩ := loaded
    obtain rfl : _ = FileTree.pathOf ["p", ".repomux"] := rootAlone
    rw [joined] at foundJoined
    exact ⟨inside, alone, named, configuration, foundAlone, foundJoined⟩

end Project

end Fleet
