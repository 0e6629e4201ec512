import Fleet.Path.Basic
import Fleet.World.OsError

/-!
# Absolute and normal paths

Two forms of a path, neither of which asks the file tree.
-/

/-!
## Absolute paths

A relative path is made absolute by following it from the working directory. Idle segments go, but
`..` stays, and so does a slash at the end. A path that starts with exactly two slashes keeps them.
-/

namespace Fleet.Path

/-- The segments of a path that name a step. -/
def moves (path : String) : List String :=
  (segments path).filter (!isIdle ·)

/-- The slashes an absolute path keeps in front. -/
def leadingSlashes (path : String) : String :=
  if "//".toList.isPrefixOf path.toList && !"///".toList.isPrefixOf path.toList then "//" else "/"

/-- A path with a slash at its end. -/
def withTrailingSlash (path : String) : String :=
  if path.toList.getLast? == some '/' then path else path ++ "/"

/-- The absolute form of a path, given the working directory or why it cannot be read. -/
def absolute (workingDirectory : Except OsError String) (path : String) :
    Except OsError String := do
  if path = "" then throw .emptyPath
  let full ←
    if isAbsolute path then
      pure (leadingSlashes path ++ String.intercalate "/" (moves path))
    else do
      let base ← workingDirectory
      pure ((moves path).foldl join base)
  pure (if path.toList.getLast? == some '/' then withTrailingSlash full else full)

end Fleet.Path

/-!
## Normal paths

A normal path names entries only: `.` is dropped, and `..` cancels the name before it. At the root
`..` leads nowhere; a relative path that climbs above its start has no normal form. The file tree
is not consulted.

* `normalizeFrom?_append`: steps may be taken in two goes.
-/

namespace Fleet

/-- A path of names alone. -/
structure NormalPath : Type where
  absolute : Bool
  names : List String
  deriving Repr, DecidableEq

namespace NormalPath

/-- The normal path after one more step, unless that climbs above the start. -/
def step (p : NormalPath) : Step → Option NormalPath
  | .root => some ⟨true, []⟩
  | .here => some p
  | .up =>
    if p.names ≠ [] then some { p with names := p.names.dropLast }
    else if p.absolute then some p
    else none
  | .down name => some { p with names := p.names ++ [name] }

/-- The path as text. -/
def toPath (p : NormalPath) : String :=
  (if p.absolute then "/" else "") ++ String.intercalate "/" p.names

/-- Whether a path is the other one or leads further from it. -/
def isUnder (p base : NormalPath) : Bool :=
  p.absolute == base.absolute && base.names.isPrefixOf p.names

end NormalPath

namespace Path

/-- The normal path that steps lead to, the given one being where they start. -/
def normalizeFrom? (start : NormalPath) (moves : List Step) : Option NormalPath :=
  moves.foldlM NormalPath.step start

/-- The normal form of a path. -/
def normalize? (path : String) : Option NormalPath :=
  normalizeFrom? ⟨false, []⟩ (steps path)

/-- Steps may be taken in two goes. -/
theorem normalizeFrom?_append (start : NormalPath) (first second : List Step) :
    normalizeFrom? start (first ++ second) =
      (normalizeFrom? start first).bind (normalizeFrom? · second) := by
  simp [normalizeFrom?, List.foldlM_append]

end Path

end Fleet
