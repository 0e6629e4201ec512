import Fleet.Project.Directory
import Fleet.Project.Loading
import Fleet.Proofs.Attempts
import Fleet.Proofs.RealPaths

/-!
# Directories of repositories, exactly

The root of a project is the path of a location, so it is normal and absolute as it stands, and
following a repository's path from it is a matter of names and of the file tree only.

* `repositoryDirectory_eq_ok_iff`: when a repository has a directory, and which one.
* `root_of_load`, `root_of_discover`: the root of a project that was loaded is the path of a
  location.
-/

namespace Fleet

open Fleet.Path (IsName)

namespace World

variable {w : World} {root : Location} {path : String} {directory : NormalPath}

/-- What makes a normal path the directory of a repository: by name it is at or below the root, it
is a directory, and it really lies at or below where the root really lies. -/
structure IsDirectory (w : World) (root : Location) (path : String) (directory : NormalPath) :
    Prop where
  normal : Path.normalize? (Path.join (FileTree.pathOf root) path) = some directory
  absolute : directory.absolute = true
  under : root <+: directory.names
  stands : w.tree.isDirectory w.here? directory.toPath = true
  contained : ∃ real realRoot, w.realLocation directory.toPath = .ok real ∧
    w.realLocation (FileTree.pathOf root) = .ok realRoot ∧ realRoot <+: real

/-- A real location is where the path leads. -/
theorem resolve_of_realLocation {path : String} {real : Location}
    (found : w.realLocation path = .ok real) : w.tree.resolve w.here? path = .ok real :=
  FileTree.resolve_of_canonicalize (of_mapError_ok found)

/-- Where paths lead makes a directory, if no entry lies too deep. -/
theorem IsDirectory.of_resolve {real realRoot : Location} {serial : Nat}
    (shallow : w.tree.Shallow)
    (normal : Path.normalize? (Path.join (FileTree.pathOf root) path) = some directory)
    (absolute : directory.absolute = true) (under : root <+: directory.names)
    (led : w.tree.resolve w.here? directory.toPath = .ok real)
    (stands : w.tree.find? real = some (.directory serial))
    (rootLed : w.tree.resolve w.here? (FileTree.pathOf root) = .ok realRoot)
    (below : realRoot <+: real) : w.IsDirectory root path directory where
  normal := normal
  absolute := absolute
  under := under
  stands := by
    rw [FileTree.isDirectory, FileTree.entryAt_of_resolve led stands]
  contained := ⟨real, realRoot, mapError_ok (FileTree.canonicalize_of_shallow shallow led),
    mapError_ok (FileTree.canonicalize_of_shallow shallow rootLed), below⟩

theorem isUnder_iff {p : NormalPath} {names : List String} :
    p.isUnder ⟨true, names⟩ = true ↔ p.absolute = true ∧ names <+: p.names := by
  rw [NormalPath.isUnder, Bool.and_eq_true, beq_iff_eq, List.isPrefixOf_iff_prefix]

/-- A root that is the path of a location is taken as it stands. -/
theorem repositoryDirectory_pathOf (proper : ∀ name ∈ root, IsName name) :
    w.repositoryDirectory (FileTree.pathOf root) path =
      (do
        let outside : PathError := .outside path (FileTree.pathOf root)
        match Path.normalize? (Path.join (FileTree.pathOf root) path) with
        | none => throw outside
        | some target =>
          if !target.isUnder ⟨true, root⟩ then throw outside
          if !w.tree.isDirectory w.here? target.toPath then throw (.missing target.toPath)
          let real ← w.realLocation target.toPath
          let realBase ← w.realLocation (FileTree.pathOf root)
          if !realBase.isPrefixOf real then throw outside
          pure target) := by
  unfold repositoryDirectory
  rw [Path.absolute_pathOf proper]
  show (match Path.normalize? (FileTree.pathOf root) with | none => _ | some base => _) = _
  rw [Path.normalize?_pathOf proper]
  rfl

/-- When a repository has a directory, and which one. -/
theorem repositoryDirectory_eq_ok_iff (proper : ∀ name ∈ root, IsName name) :
    w.repositoryDirectory (FileTree.pathOf root) path = .ok directory ↔
      w.IsDirectory root path directory := by
  rw [repositoryDirectory_pathOf proper]
  dsimp only
  constructor
  · intro found
    split at found
    · cases found
    · next target normal =>
      split at found
      · cases found
      · next under =>
        split at found
        · cases found
        · next stands =>
          obtain ⟨real, leads, found⟩ := of_bind_ok found
          obtain ⟨realRoot, rootLeads, found⟩ := of_bind_ok found
          split at found
          · cases found
          · next below =>
            cases found
            rw [Bool.not_eq_true, Bool.not_eq_false'] at under stands below
            obtain ⟨absolute, under⟩ := isUnder_iff.1 under
            exact ⟨normal, absolute, under, stands, real, realRoot, leads, rootLeads,
              List.isPrefixOf_iff_prefix.1 below⟩
  · rintro ⟨normal, absolute, under, stands, real, realRoot, leads, rootLeads, below⟩
    rw [normal]
    dsimp only
    rw [isUnder_iff.2 ⟨absolute, under⟩, stands, leads, rootLeads]
    show (if (!realRoot.isPrefixOf real) = true then _ else _) = _
    rw [List.isPrefixOf_iff_prefix.2 below]
    rfl

end World

namespace Project

variable {w : World} {path start : String} {p : LoadedProject}

/-- What has to be there for a project to be loaded. -/
theorem load_of_canonicalize {text : String} {configuration : Configuration} {location : Location}
    (read : w.readText path = .ok text)
    (parsed : Configuration.ofText path text = .ok configuration)
    (led : w.tree.canonicalize w.here? (rootOf path) = .ok location) :
    load w path = .ok ⟨FileTree.pathOf location, configuration⟩ := by
  unfold load
  rw [bind_ok (mapError_ok read), bind_ok parsed]
  dsimp only
  rw [bind_ok (mapError_ok led)]
  rfl

/-- The root of a project that was loaded is the path of a location with proper names. -/
theorem root_of_load (named : w.tree.WellNamed) (loaded : load w path = .ok p) :
    ∃ location, (∀ name ∈ location, IsName name) ∧ p.root = FileTree.pathOf location := by
  unfold load at loaded
  obtain ⟨text, _, loaded⟩ := of_bind_ok loaded
  obtain ⟨configuration, _, loaded⟩ := of_bind_ok loaded
  obtain ⟨location, led, loaded⟩ := of_bind_ok loaded
  obtain rfl := Except.ok.inj loaded
  have here : ∀ start, w.here? = some start → ∀ name ∈ start, IsName name :=
    fun _ found => FileTree.isName_of_locate? named found
  have led := FileTree.resolve_of_canonicalize (of_mapError_ok led)
  exact ⟨location, FileTree.isName_of_resolve here led, rfl⟩

/-- So is the root of a project that was discovered. -/
theorem root_of_discover (named : w.tree.WellNamed) (discovered : discover w start = .ok p) :
    ∃ location, (∀ name ∈ location, IsName name) ∧ p.root = FileTree.pathOf location := by
  unfold discover at discovered
  split at discovered
  · exact root_of_load named discovered
  · cases discovered

end Project

end Fleet
