import Fleet.World.FileTree

/-!
# Changing a file tree

Making, filling, moving and removing entries. Each change names its place by a path and fails as
the operating system would.
-/

namespace Fleet.FileTree

/-- The tree with an entry at a location, which must not be the root. A file that is there changes
at all its locations. -/
def put (t : FileTree) (location : Location) (entry : Entry) : FileTree :=
  if t.entries.any (·.1 == location) then
    let all := t.namesOf location
    let entries := t.entries.map fun old =>
      if all.contains old.1 then (old.1, entry) else old
    { t with entries }
  else { t with entries := t.entries ++ [(location, entry)] }

/-- Locations that name one file, as far as they are as wanted; a single one is nothing to keep. -/
def keepShared (wanted : Location → Bool) (shared : List (List Location)) : List (List Location) :=
  (shared.map fun all => all.filter wanted).filter fun all => 1 < all.length

/-- The tree without a location and everything below it. -/
def prune (t : FileTree) (location : Location) : FileTree :=
  { t with
    entries := t.entries.filter fun old => !location.isPrefixOf old.1
    shared := keepShared (fun name => !location.isPrefixOf name) t.shared }

/-- The tree with another name, at a vacant location, for the entry at a location. -/
def addName (t : FileTree) (source target : Location) (entry : Entry) : FileTree :=
  let all := t.namesOf source
  { t.put target entry with
    shared := (all ++ [target]) :: t.shared.filter fun others => !others.contains source }

/-- The tree with a new directory at a vacant location. -/
def addDirectory (t : FileTree) (location : Location) : FileTree :=
  { t.put location (.directory t.nextSerial) with nextSerial := t.nextSerial + 1 }

/-- The directory and the name that the last segment of a path makes up, for an entry that need
not be there yet. -/
def placeOf (t : FileTree) (workingDirectory : Option Location) (path : String) :
    Except OsError (Location × String) := do
  let start ← startOf workingDirectory path
  let all := (Path.segments path).filter (· ≠ "")
  match all.getLast? with
  | none => throw .fileExists
  | some name =>
    let directory ← t.walk true linkLimit start (all.dropLast ++ ["."])
    if name.utf8ByteSize > nameLimit then throw .nameTooLong
    pure (directory, name)

/-- Makes one directory. -/
def makeDirectory (t : FileTree) (workingDirectory : Option Location) (path : String) :
    Except OsError FileTree := do
  let (directory, name) ← t.placeOf workingDirectory path
  if name = "." ∨ name = ".." then throw .fileExists
  if (t.find? (directory ++ [name])).isSome then throw .fileExists
  pure (t.addDirectory (directory ++ [name]))

/-- Makes the directories along the names, from the given location. -/
def makeAll (t : FileTree) (follow : Nat) (here : Location) :
    List String → Except OsError FileTree
  | [] => .ok t
  | segment :: rest => do
    match t.walk true follow here [segment, "."] with
    | .ok next => makeAll t follow next rest
    | .error .noSuchFile =>
      if (t.find? (here ++ [segment])).isSome then throw .fileExists
      makeAll (t.addDirectory (here ++ [segment])) follow (here ++ [segment]) rest
    | .error e => throw e

/-- Makes a directory and those above it, as far as they are missing. -/
def makeDirectories (t : FileTree) (workingDirectory : Option Location) (path : String) :
    Except OsError FileTree := do
  let start ← startOf workingDirectory path
  t.makeAll linkLimit start ((Path.segments path).filter (· ≠ ""))

/-- The location where writing to a path puts the content; a link that leads nowhere is followed to
where its target would be. -/
def targetOf (t : FileTree) (workingDirectory : Option Location) : Nat → String →
    Except OsError Location
  | links, path => do
    match t.resolve workingDirectory path with
    | .ok location => pure location
    | .error .noSuchFile =>
      if path.toList.getLast? == some '/' then throw .isDirectory
      let (directory, name) ← t.placeOf workingDirectory path
      match t.find? (directory ++ [name]), links with
      | some (.link target), links + 1 => targetOf t (some directory) links target
      | some _, _ => throw .tooManyLinks
      | none, _ => pure (directory ++ [name])
    | .error e => throw e

/-- Writes a file: makes it with some permissions if it is missing, and replaces its content. -/
def writeFile (t : FileTree) (workingDirectory : Option Location) (path : String)
    (content : Bytes) (mode : Nat := 0o644) : Except OsError FileTree := do
  let location ← t.targetOf workingDirectory linkLimit path
  match t.find? location with
  | some (.directory _) => throw .isDirectory
  | some (.file _ kept) => pure (t.put location (.file content kept))
  | some .sink => pure t
  | some _ => throw .permissionDenied
  | none => pure (t.put location (.file content mode))

/-- Changes the permissions of a file or directory. -/
def changeMode (t : FileTree) (workingDirectory : Option Location) (path : String) (mode : Nat) :
    Except OsError FileTree := do
  let location ← t.resolve workingDirectory path
  match t.find? location with
  | some (.file content _) => pure (t.put location (.file content mode))
  | some (.directory serial) =>
    pure { t with modes := (serial, mode) :: t.modes.filter (·.1 != serial) }
  | some _ => pure t
  | none => throw .noSuchFile

/-- Makes a symbolic link. -/
def makeLink (t : FileTree) (workingDirectory : Option Location) (path target : String) :
    Except OsError FileTree := do
  let (directory, name) ← t.placeOf workingDirectory path
  if (t.find? (directory ++ [name])).isSome then throw .fileExists
  pure (t.put (directory ++ [name]) (.link target))

/-- Removes a file or a link. -/
def removeFile (t : FileTree) (workingDirectory : Option Location) (path : String) :
    Except OsError FileTree := do
  let location ← t.resolve workingDirectory path false
  match t.find? location with
  | some (.directory _) => throw .isDirectory
  | some _ => pure (t.prune location)
  | none => throw .noSuchFile

/-- Removes an empty directory. -/
def removeDirectory (t : FileTree) (workingDirectory : Option Location) (path : String) :
    Except OsError FileTree := do
  let location ← t.resolve workingDirectory path false
  match t.find? location with
  | some (.directory _) =>
    if ((Path.segments path).filter (· ≠ "")).getLast? = some "." then throw .invalidArgument
    if t.children location ≠ [] then throw .directoryNotEmpty
    if location = [] then throw .permissionDenied
    pure (t.prune location)
  | _ => throw .notDirectory

/-- Removes whatever a path leads to, a directory with everything in it. -/
def removeAll (t : FileTree) (workingDirectory : Option Location) (path : String) :
    Except OsError FileTree := do
  let location ← t.resolve workingDirectory path false
  if location = [] then throw .permissionDenied
  pure (t.prune location)

/-- Moves an entry, with everything below it, to a location that is vacant or may be replaced. -/
def relocate (t : FileTree) (source target : Location) : FileTree :=
  let cleared := t.prune target
  let moved (name : Location) : Location :=
    if source.isPrefixOf name then target ++ name.drop source.length else name
  { cleared with
    entries := cleared.entries.map fun old => (moved old.1, old.2)
    shared := cleared.shared.map (·.map moved) }

/-- Renames the entry at a path. -/
def rename (t : FileTree) (workingDirectory : Option Location) (path target : String) :
    Except OsError FileTree := do
  let source ← t.resolve workingDirectory path false
  let (directory, name) ← t.placeOf workingDirectory target
  let place := directory ++ [name]
  if source = place then return t
  if source.isPrefixOf place then throw .invalidArgument
  match t.find? source, t.find? place with
  | some (.directory _), some (.directory _) =>
    if t.children place ≠ [] then throw .directoryNotEmpty
    pure (t.relocate source place)
  | some (.directory _), some _ => throw .notDirectory
  | _, some (.directory _) => throw .isDirectory
  | _, _ => pure (t.relocate source place)

end Fleet.FileTree
