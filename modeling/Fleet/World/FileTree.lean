import Fleet.Path.Basic
import Fleet.Text.Utf8
import Fleet.World.OsError

/-!
# File trees

A file tree says what stands at each location, a location being the names that lead to it from the
root. Directories carry a serial number, by which a process can hold on to one of them while names
change. Paths are walked as the operating system walks them: step by step, through directories
only, following symbolic links, of which at most 40 are followed in one walk.

The real path of an entry is found as the C library finds it. It follows links in the same way, but
asks for every entry on the way by its whole path from the root, which must not be too long.

Two things are assumed throughout. The process belongs to user 0 (see `Account`), so it is kept from
nothing by permissions but from running a file that nobody may run: no walk fails over them, and no
reading or writing does. And names, the targets of links and paths are Unicode text; a name in other
octets cannot stand in a tree.

* `find?_root`: the root is a directory.
-/

namespace Fleet

/-- The names that lead from the root to an entry. -/
abbrev Location : Type :=
  List String

/-- What can stand at a location. -/
inductive Entry : Type where
  /-- A directory, by its serial number. -/
  | directory (serial : Nat)
  /-- A file, with its content and its permissions. -/
  | file (content : Bytes) (mode : Nat)
  /-- A symbolic link. -/
  | link (target : String)
  /-- A program that comes with the system. -/
  | program (name : String)
  /-- A device that swallows what is written to it. -/
  | sink
  deriving Repr, DecidableEq

/-- What stands where. A location without an entry is vacant. -/
structure FileTree : Type where
  entries : List (Location × Entry)
  /-- The serial number of the next directory. -/
  nextSerial : Nat
  /-- The permissions of directories, by their serial numbers, that are not the usual ones. -/
  modes : List (Nat × Nat) := []
  /-- The locations at which one file has several names. -/
  shared : List (List Location) := []
  deriving Repr

namespace Entry

/-- Whether an entry is a file that can be run. -/
def isExecutable : Entry → Bool
  | file _ mode => mode &&& 0o111 ≠ 0
  | program _ => true
  | _ => false

end Entry

namespace FileTree

/-- The serial number of the root. -/
def rootSerial : Nat :=
  0

/-- The tree of the root alone. -/
def empty : FileTree :=
  { entries := [], nextSerial := rootSerial + 1 }

/-- The entry at a location. -/
def find? (t : FileTree) (location : Location) : Option Entry :=
  if location = [] then some (.directory rootSerial) else t.entries.lookup location

@[simp]
theorem find?_root (t : FileTree) : t.find? [] = some (.directory rootSerial) :=
  rfl

/-- The location of the directory with a serial number. -/
def locate? (t : FileTree) (serial : Nat) : Option Location :=
  if serial = rootSerial then some []
  else (t.entries.find? fun entry => entry.2 == .directory serial).map Prod.fst

/-- The longest name, in octets. -/
def nameLimit : Nat :=
  255

/-- The longest path, in octets. -/
def pathLimit : Nat :=
  4095

/-- The most symbolic links that one walk follows. -/
def linkLimit : Nat :=
  40

/-- The segments that a walk takes. A slash at the end asks for a directory, as a last `.` does. -/
def walkSegments (path : String) : List String :=
  (Path.segments path).filter (· ≠ "") ++
    if path.toList.getLast? == some '/' then ["."] else []

/-- Walks from a directory along segments, following at most `links` symbolic links. A link at the
very end is followed only if `follow` says so. -/
def walk (t : FileTree) (follow : Bool) (links : Nat) (here : Location) :
    List String → Except OsError Location
  | [] => .ok here
  | segment :: rest =>
    match t.find? here with
    | some (.directory _) =>
      if segment = "." then walk t follow links here rest
      else if segment = ".." then walk t follow links here.dropLast rest
      else if segment.utf8ByteSize > nameLimit then .error .nameTooLong
      else
        match t.find? (here ++ [segment]) with
        | none => .error .noSuchFile
        | some (.link target) =>
          if rest = [] ∧ ¬follow then .ok (here ++ [segment])
          else if target = "" then .error .noSuchFile
          else
            match links with
            | 0 => .error .tooManyLinks
            | links + 1 =>
              walk t follow links (if Path.isAbsolute target then [] else here)
                (walkSegments target ++ rest)
        | some (.directory _) => walk t follow links (here ++ [segment]) rest
        | some _ => if rest = [] then .ok (here ++ [segment]) else .error .notDirectory
    | _ => .error .notDirectory
termination_by segments => (links, segments.length)

/-- The directory a path starts from: the root, or the working directory if that is still there. -/
def startOf (workingDirectory : Option Location) (path : String) : Except OsError Location :=
  if path = "" then .error .noSuchFile
  else if path.toList.contains '\x00' then .error .nulInName
  else if path.utf8ByteSize > pathLimit then .error .nameTooLong
  else if Path.isAbsolute path then .ok []
  else
    match workingDirectory with
    | some location => .ok location
    | none => .error .noSuchFile

/-- The location that a path leads to. -/
def resolve (t : FileTree) (workingDirectory : Option Location) (path : String)
    (follow : Bool := true) : Except OsError Location := do
  let start ← startOf workingDirectory path
  t.walk follow linkLimit start (walkSegments path)

/-- The path of a location. -/
def pathOf (location : Location) : String :=
  "/" ++ String.intercalate "/" location

/-- Whether segments need a directory where they begin, as `..` does, and `.` if it is the last one or
what comes after it does. -/
def needDirectory : List String → Bool
  | [] => false
  | segment :: rest => segment = ".." || segment = "." && (rest.isEmpty || needDirectory rest)

/-- Walks to the very end as the C library does for a real path. A link is read by the whole path of
its location. An entry that is none is asked for once more, by that path with a slash behind, if the
rest of the segments need a directory there. -/
def realWalk (t : FileTree) (links : Nat) (here : Location) :
    List String → Except OsError Location
  | [] => .ok here
  | segment :: rest =>
    match t.find? here with
    | some (.directory _) =>
      if segment = "." then realWalk t links here rest
      else if segment = ".." then realWalk t links here.dropLast rest
      else if segment.utf8ByteSize > nameLimit then .error .nameTooLong
      else if (pathOf (here ++ [segment])).utf8ByteSize > pathLimit then .error .nameTooLong
      else
        match t.find? (here ++ [segment]) with
        | some (.link target) =>
          if target = "" then .error .noSuchFile
          else
            match links with
            | 0 => .error .tooManyLinks
            | links + 1 =>
              realWalk t links (if Path.isAbsolute target then [] else here)
                (walkSegments target ++ rest)
        | entry? =>
          if needDirectory rest ∧
              (pathOf (here ++ [segment]) ++ "/").utf8ByteSize > pathLimit then
            .error .nameTooLong
          else
            match entry? with
            | none => .error .noSuchFile
            | some (.directory _) => realWalk t links (here ++ [segment]) rest
            | some _ => if rest = [] then .ok (here ++ [segment]) else .error .notDirectory
    | _ => .error .notDirectory
termination_by segments => (links, segments.length)

/-- The location of the real path that the C library finds for a path. -/
def canonicalize (t : FileTree) (workingDirectory : Option Location) (path : String) :
    Except OsError Location := do
  let start ← startOf workingDirectory path
  t.realWalk linkLimit start (walkSegments path)

/-- The entry that a path leads to. -/
def entryAt (t : FileTree) (workingDirectory : Option Location) (path : String)
    (follow : Bool := true) : Except OsError Entry := do
  let location ← t.resolve workingDirectory path follow
  match t.find? location with
  | some entry => pure entry
  | none => throw .noSuchFile

/-- Whether a path leads to a directory. -/
def isDirectory (t : FileTree) (workingDirectory : Option Location) (path : String) : Bool :=
  match t.entryAt workingDirectory path with
  | .ok (.directory _) => true
  | _ => false

/-- Whether a path leads to a file. -/
def isFile (t : FileTree) (workingDirectory : Option Location) (path : String) : Bool :=
  match t.entryAt workingDirectory path with
  | .ok (.file _ _) | .ok (.program _) => true
  | _ => false

/-- The permissions of an entry. -/
def modeOf (t : FileTree) : Entry → Nat
  | .file _ mode => mode
  | .directory serial => (t.modes.lookup serial).getD 0o755
  | .link _ => 0o777
  | .program _ => 0o755
  | .sink => 0o666

/-- All locations of the file at a location. -/
def namesOf (t : FileTree) (location : Location) : List Location :=
  (t.shared.find? (·.contains location)).getD [location]

/-- Whether two paths lead to one file. -/
def areSame (t : FileTree) (workingDirectory : Option Location) (a b : String)
    (follow : Bool := true) : Bool :=
  match t.resolve workingDirectory a follow, t.resolve workingDirectory b follow with
  | .ok a, .ok b => (t.namesOf a).contains b
  | _, _ => false

/-- The names in a directory, in the order of the tree. -/
def children (t : FileTree) (directory : Location) : List String :=
  t.entries.filterMap fun (location, _) =>
    match location.getLast? with
    | some name => if location.dropLast = directory then some name else none
    | none => none

end FileTree

end Fleet
