import Fleet.Path.Normal
import Fleet.World.Basic

/-!
# Directories of repositories

A repository's path is followed from the project's root, `..` being taken back by name. The result
has to be an existing directory at or below the root, both by name and where it really lies.
-/

namespace Fleet

/-- Why the directory of a repository cannot be used. -/
inductive PathError : Type where
  /-- The path leads out of the root. -/
  | outside (path root : String)
  /-- There is no such directory. -/
  | missing (directory : String)
  /-- A path has no absolute or real form. -/
  | notAbsolute (path : String) (cause : OsError)
  deriving Repr, DecidableEq

namespace PathError

/-- The sentence that reports the failure. -/
def message : PathError → String
  | outside path root =>
    "Repository path '" ++ path ++ "' resolves outside the project root '" ++ root ++ "'."
  | missing directory => "Repository directory '" ++ directory ++ "' does not exist."
  | notAbsolute path cause =>
    "Could not determine the absolute path of '" ++ path ++ "': " ++ cause.message

/-- The messages of the causes below the failure, outermost first. -/
def sources : PathError → List String
  | notAbsolute _ cause => [cause.message]
  | _ => []

end PathError

namespace World

/-- The location of the real path that a path has, or the failure to find it. -/
def realLocation (w : World) (path : String) : Except PathError Location :=
  (w.tree.canonicalize w.here? path).mapError (.notAbsolute path)

/-- The directory that a repository's path leads to from a root. -/
def repositoryDirectory (w : World) (root path : String) : Except PathError NormalPath := do
  let base ← (Path.absolute w.currentPath root).mapError (.notAbsolute root)
  let outside : PathError := .outside path base
  match Path.normalize? base with
  | none => throw outside
  | some base =>
    match Path.normalize? (Path.join base.toPath path) with
    | none => throw outside
    | some target =>
      if !target.isUnder base then throw outside
      if !w.tree.isDirectory w.here? target.toPath then throw (.missing target.toPath)
      let real ← w.realLocation target.toPath
      let realBase ← w.realLocation base.toPath
      if !realBase.isPrefixOf real then throw outside
      pure target

end World

end Fleet
