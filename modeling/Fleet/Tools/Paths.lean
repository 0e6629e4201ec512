import Fleet.Tools.Files

/-!
# Path tools

Tools that take paths apart, find out where they lead, and show the working directory.
-/

namespace Fleet.Tools

open Shell

/-- The end of what a tool prints for each of its arguments. -/
def ending (g : Given) : Octets :=
  if g.has 'z' then ['\x00'] else ['\n']

/-- Prints the last names of paths, without an ending. -/
def basename : Tool :=
  withOptions [flag 'a' ["multiple"], valued 's' ["suffix"], flag 'z' ["zero"]] (fun g => do
  let several := g.has 'a' || g.has 's'
  let print (suffix path : Octets) : StateM Process Unit :=
    let name := lastName path
    let cut := suffix.isSuffixOf name && suffix ≠ name && name.head? != some '/'
    say ((if cut then name.take (name.length - suffix.length) else name) ++ ending g)
  match g.operands, several with
  | [], _ => refuse "missing operand"
  | paths, true => do
    paths.forM (print ((g.value? 's').getD []))
    pure 0
  | [path], false => do
    print [] path
    pure 0
  | [path, suffix], false => do
    print suffix path
    pure 0
  | _ :: _ :: extra :: _, false => do
    misuse ("extra operand ".toList ++ Quoting.value extra)
    pure 1) 1 true

/-- The path of the directory of a path. -/
def directoryPart (path : Octets) : Octets :=
  let trimmed := path.reverse.dropWhile (· == '/')
  let above := ((trimmed.dropWhile (· ≠ '/')).dropWhile (· == '/')).reverse
  if !above.isEmpty then above
  else if path.head? == some '/' then ['/']
  else ['.']

/-- Prints the paths of the directories of paths. -/
def dirname : Tool :=
  withOptions [flag 'z' ["zero"]] (fun g =>
    overFiles "operand" g.operands fun path => do
      say (directoryPart path ++ ending g)
      pure 0) 1 true

/-- Prints the path of the working directory. -/
def pwd : Tool :=
  withOptions [flag 'L' ["logical"], flag 'P' ["physical"]] fun g => do
  if !g.operands.isEmpty then fault "ignoring non-option arguments".toList
  let p ← get
  let reached := (p.vars.find? fun v => v.name == "PWD".toList).bind Variable.value
  let given := reached.filter fun path =>
    g.lastOf ['L', 'P'] = some 'L' && path.head? == some '/' &&
      (p.directoryAt path).toOption == some p.directory
  match given.or p.currentPath? with
  | some path => do
    say (path ++ ['\n'])
    pure 0
  | none => do
    fault "couldn't find directory entry in '..' with matching i-node".toList
    pure 1

/-- Which parts of a path may be missing where it is followed to its end. -/
inductive Missing : Type where
  | nothing
  | last
  | anything
  deriving Repr, DecidableEq

/-- The location that segments lead to, of which any may be missing. -/
def locationAnyway (p : Process) : Location → List Octets → Location
  | here, [] => here
  | here, name :: rest =>
    let path := Octets.ofText (FileTree.pathOf (here ++ [name.toText]))
    let next :=
      if name.isEmpty || name = ['.'] then here
      else if name = ['.', '.'] then here.dropLast
      else (locationOf p path).toOption.getD (here ++ [name.toText])
    locationAnyway p next rest

/-- The location that a path leads to if all links are followed. -/
def canonical (p : Process) (missing : Missing) (path : Octets) : Except OsError Location :=
  match locationOf p path, missing with
  | .ok location, _ => .ok location
  | .error e, .nothing => .error e
  | .error _, .last =>
    p.tree.targetOf p.here? FileTree.linkLimit (withoutSlashes path).toText
  | .error e, .anything =>
    if path.isEmpty then .error e
    else
      let start := if path.head? == some '/' then [] else (p.here?).getD []
      .ok (locationAnyway p start (path.splitOn '/'))

/-- Prints where links lead. -/
def readlink : Tool :=
  withOptions [flag 'f' ["canonicalize"], flag 'e' ["canonicalize-existing"],
    flag 'm' ["canonicalize-missing"], flag 'n' ["no-newline"], flag 'q' ["quiet"],
    flag 's' ["silent"], flag 'v' ["verbose"], flag 'z' ["zero"]] fun g => do
  let bare := g.has 'n' && g.operands.length ≤ 1
  if g.has 'n' && 1 < g.operands.length then
    fault "ignoring --no-newline with multiple arguments".toList
  overFiles "operand" g.operands fun path => do
    let p ← get
    let found : Except OsError Octets :=
      match g.lastOf ['f', 'e', 'm'] with
      | some mode =>
        let missing : Missing :=
          if mode = 'e' then .nothing else if mode = 'f' then .last else .anything
        (canonical p missing path).map fun location => Octets.ofText (FileTree.pathOf location)
      | none =>
        match entryOf p path false with
        | .ok (.link target) => .ok (Octets.ofText target)
        | .ok _ => .error .invalidArgument
        | .error e => .error e
    match found with
    | .ok text => do
      say (text ++ if bare then [] else ending g)
      pure 0
    | .error e => do
      if g.has 'v' then fault (Quoting.lead path ++ ": ".toList ++ e.description.toList)
      pure 1

/-- Prints the paths of locations that paths lead to. -/
def realpath : Tool :=
  withOptions [flag 'e' ["canonicalize-existing"], flag 'E' ["canonicalize"],
    flag 'm' ["canonicalize-missing"], flag 'L' ["logical"], flag 'P' ["physical"],
    flag 'q' ["quiet"], flag 's' ["strip", "no-symlinks"], flag 'z' ["zero"],
    named 't' "relative-to" .value, named 'b' "relative-base" .value] fun g => do
  let missing : Missing :=
    match g.lastOf ['e', 'm'] with
    | some 'e' => .nothing
    | some _ => .anything
    | none => .last
  let p ← get
  let base := (g.value? 't').bind fun path => (canonical p missing path).toOption
  overFiles "operand" g.operands fun path => do
    let found :=
      if g.has 's' then
        let start := if path.head? == some '/' then [] else (p.here?).getD []
        let bare := (path.splitOn '/').foldl (fun (here : Location) name =>
          if name.isEmpty || name = ['.'] then here
          else if name = ['.', '.'] then here.dropLast
          else here ++ [Octets.toText name]) start
        if path.isEmpty then .error .noSuchFile else .ok bare
      else canonical p missing path
    match found with
    | .ok location => do
      let text := match base with
        | some directory => relativePath directory location
        | none => Octets.ofText (FileTree.pathOf location)
      say (text ++ ending g)
      pure 0
    | .error e => do
      if !g.has 'q' then fault (Quoting.lead path ++ ": ".toList ++ e.description.toList)
      pure 1

end Fleet.Tools
