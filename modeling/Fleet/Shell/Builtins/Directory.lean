import Fleet.Shell.Letters

/-!
# Moving about and leaving

The builtins that change the working directory, and those that end what is being run.
-/

/-!
## Moving about

The working directory is known by the path by which it was reached: `..` takes the last name off
that path, whatever a link may lead to, unless one asks for the directory as it is.
-/

namespace Fleet.Shell.Directory

/-- The names of a path after another one, in which `..` takes one off; the latest stands first. -/
def follow (names : List Octets) (path : Octets) : List Octets :=
  (path.splitOn '/').foldl (fun names name =>
    if name.isEmpty || name = ['.'] then names
    else if name = ['.', '.'] then names.tail
    else name :: names) names

/-- The slashes that a path starts with as far as they count: two that no third follows, or one. -/
def root : Octets → Octets
  | '/' :: '/' :: rest => if rest.head? == some '/' then ['/'] else ['/', '/']
  | _ => ['/']

/-- The path that is reached from one by another. -/
def reach (reached path : Octets) : Octets :=
  let base := if path.head? == some '/' then path else reached
  let names := if path.head? == some '/' then []
    else ((reached.splitOn '/').filter (!·.isEmpty)).reverse
  root base ++ List.intercalate ['/'] (follow names path).reverse

/-- The process at the working directory that a path was reached by. -/
def settle (reached : Octets) : Exec Unit := do
  modify fun p => { p with reached }
  assignVariable "PWD".toList reached true

/-- The path of the working directory as it is. -/
def actual : Exec Octets := do
  match (← get).currentPath? with
  | some path => pure path
  | none => do
    complain ("getcwd() failed: ".toList ++ OsError.noSuchFile.description.toList)
    pure []

/-- Whether the directory is to be known as it is. -/
def physical (options : List (Char × Octets)) : Bool :=
  (options.map Prod.fst).getLast? == some 'P'

/-- Enters a directory; says whether that worked. -/
def enter (asItIs : Bool) (path : Octets) : Exec Bool := do
  let p ← get
  let target := if asItIs || p.reached.isEmpty then path else reach p.reached path
  match p.directoryAt target with
  | .error _ => pure false
  | .ok serial => do
    modify fun p =>
      { p with
        directory := serial
        tracked := p.tracked.map fun t => { t with stale := true } }
    assignVariable "OLDPWD".toList p.reached true
    if asItIs || p.reached.isEmpty then settle (← actual) else settle target
    pure true

/-- The paths to try for a directory, with whether its path is to be shown. -/
def candidates (p : Process) (path : Octets) : List (Octets × Bool) :=
  let first := path.takeWhile (· ≠ '/')
  if path.head? == some '/' || first = ['.'] || first = ['.', '.'] then [(path, false)]
  else
    let path := if path.isEmpty then ['.'] else path
    let listed := match p.valueOf? "CDPATH".toList with
      | none => []
      | some list => (list.splitOn ':').map fun (directory : Octets) =>
        if directory.isEmpty then (path, false) else (directory ++ '/' :: path, true)
    listed.filter (fun (path, _) => p.tree.isDirectory p.here? path.toText) ++ [(path, false)]

/-- Changes the working directory. -/
def change (arguments : List Octets) : Exec Unit := do
  let (options, rest) ← Letters.take ⟨['L', 'P'], []⟩ arguments
  let p ← get
  let (target, shown) :=
    match rest with
    | [] => ((p.valueOf? "HOME".toList).getD [], false)
    | ['-'] :: _ => ((p.valueOf? "OLDPWD".toList).getD [], true)
    | path :: _ => (path, false)
  match candidates p target with
  | [] => pure ()
  | (path, found) :: _ =>
    if ← enter (physical options) path then do
      let reached := (← get).reached
      if shown || found then (say (reached ++ ['\n']) : StateM Process Unit)
      setStatus 0
    else fail ("can't cd to ".toList ++ if target.isEmpty then ['.'] else target)

/-- Prints the path of the working directory: as it was reached, or as it is. -/
def print (arguments : List Octets) : Exec Unit := do
  let (options, _) ← Letters.take ⟨['L', 'P'], []⟩ arguments
  setStatus 0
  let path ← if physical options then actual else do pure (← get).reached
  (say (path ++ ['\n']) : StateM Process Unit)

/-- Finds out the working directory at the start of a script: a variable may say by which path it
was reached. -/
def start : Exec Unit := do
  let p ← get
  let given := (p.valueOf? "PWD".toList).filter fun path =>
    path.head? == some '/' && (p.directoryAt path).toOption == some p.directory
  match given with
  | some path => settle path
  | none => do settle (← actual)

end Fleet.Shell.Directory

/-!
## Leaving

The builtins that end the script, a function or loops, and the one that drops arguments.
-/

namespace Fleet.Shell.Leaving

/-- Ends the script, with a code or with that of the command before; in what is run on a signal
that is the command before the signal. -/
def exit (arguments : List Octets) : Exec Unit := do
  match arguments with
  | [] =>
    modify fun p => { p with status := p.interrupted.getD p.status }
  | code :: _ => do setStatus (← naturalOf code)
  throw .exit

/-- Ends the function or the file that is being read. -/
def leave (arguments : List Octets) : Exec Unit := do
  match arguments with
  | [] => throw (.leave false)
  | code :: _ => do
    setStatus (← naturalOf code)
    throw (.leave true)

/-- Ends as many loops as the argument says, or one, in the given way; outside of loops nothing
happens. -/
def overLoops (jump : Nat → Jump) (arguments : List Octets) : Exec Unit := do
  let count ←
    match arguments with
    | [] => pure 1
    | text :: _ => do
      let count ← naturalOf text
      if count = 0 then fail ("Illegal number: ".toList ++ text)
      pure count
  let loops := (← get).loops
  setStatus 0
  if loops ≠ 0 then throw (jump (min count loops))

/-- Drops the first arguments of the script or function. -/
def shift (arguments : List Octets) : Exec Unit := do
  let count ←
    match arguments with
    | [] => pure 1
    | text :: _ => naturalOf text
  let p ← get
  if p.arguments.length < count then fail "can't shift that many".toList
  set
    { p with
      arguments := p.arguments.drop count, optionPlace := 1, optionOffset := none, status := 0 }

end Fleet.Shell.Leaving
