/-!
# Paths

A path is text. A leading slash makes it absolute, slashes separate its segments, and empty
segments and `.` segments name no step, except that a relative path may start with one `.`.
-/

namespace Fleet

/-- A step that a path names. -/
inductive Step : Type where
  /-- To the root. -/
  | root
  /-- Nowhere; only at the start of a relative path. -/
  | here
  /-- To the directory above. -/
  | up
  /-- To an entry of the directory. -/
  | down (name : String)
  deriving Repr, DecidableEq

namespace Path

/-- Whether a path starts at the root. -/
def isAbsolute (path : String) : Bool :=
  path.toList.head? == some '/'

/-- The texts between the slashes of a path. -/
def segments (path : String) : List String :=
  (path.toList.splitOn '/').map String.ofList

/-- A segment that names no step. -/
def isIdle (segment : String) : Bool :=
  segment == "" || segment == "."

/-- The step of a segment that names one. -/
def stepOf (segment : String) : Step :=
  if segment = ".." then .up else .down segment

/-- The steps of a path. -/
def steps (path : String) : List Step :=
  let all := segments path
  let moves := (all.filter (!isIdle ·)).map stepOf
  if isAbsolute path then .root :: moves
  else if all.head? == some "." then .here :: moves
  else moves

/-- One path followed from the other; an absolute one stands alone. -/
def join (base path : String) : String :=
  if isAbsolute path then path
  else if base = "" || base.toList.getLast? == some '/' then base ++ path
  else base ++ "/" ++ path

/-- The last step of a path, if it names an entry. -/
def fileName? (path : String) : Option String :=
  match (steps path).getLast? with
  | some (.down name) => some name
  | _ => none

/-- The segments before the last one that names a step, without idle ones at the end. -/
def withoutLast (all : List String) : List String :=
  let dropIdle (rest : List String) : List String := rest.dropWhile isIdle
  (dropIdle (dropIdle all.reverse).tail).reverse

/-- The path without its last step; `none` if that is the root or there is no step. -/
def parent? (path : String) : Option String :=
  if isAbsolute path then
    if (segments path).all isIdle then none
    else some ("/" ++ String.intercalate "/" (withoutLast (segments path).tail))
  else
    match segments path with
    | "." :: rest =>
      if rest.all isIdle then some ""
      else some (String.intercalate "/" ("." :: withoutLast rest))
    | all => if all.all isIdle then none else some (String.intercalate "/" (withoutLast all))

/-- The first few of a path, its parent, the parent of that, and so on. -/
def ancestorsUpTo : Nat → String → List String
  | 0, _ => []
  | n + 1, path =>
    path ::
      match parent? path with
      | some parent => ancestorsUpTo n parent
      | none => []

/-- A path and, nearest first, every path above it. -/
def ancestors (path : String) : List String :=
  ancestorsUpTo (path.length + 1) path

end Path

end Fleet
