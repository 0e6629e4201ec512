import Fleet.Tools.Options
import Fleet.Tools.Quoting
import Fleet.World.Edits
import Fleet.World.Permissions

/-!
# File tools

Tools that change the file tree: they make and remove files and directories.
-/

namespace Fleet.Tools

open Shell

/-- Writes a line of a tool about a file that it could not do something with. -/
def fileFault (action : String) (file : Octets) (e : OsError) : StateM Process Unit :=
  fault (action.toList ++ ' ' :: Quoting.name file ++ ": ".toList ++ e.description.toList)

/-- The larger of two codes over some work. -/
def overAll {α : Type} (items : List α) (work : α → StateM Process Nat) : StateM Process Nat :=
  items.foldlM (fun code item => do pure (max code (← work item))) 0

/-- Reports a misuse and ends with a code. -/
def refuse (message : String) : StateM Process Nat := do
  misuse message.toList
  pure 1

/-- Work on files, of which there has to be one. -/
def overFiles (what : String) (items : List Octets) (work : Octets → StateM Process Nat) :
    StateM Process Nat :=
  if items.isEmpty then refuse ("missing " ++ what) else overAll items work

/-- Changes the tree, or reports why that cannot be done. -/
def change (action : String) (file : Octets)
    (edit : FileTree → Option Location → Except OsError FileTree) : StateM Process Nat := do
  match (← get).edit edit with
  | .ok p =>
    set p
    pure 0
  | .error e =>
    fileFault action file e
    pure 1

/-- The entry that a path leads to; a link at its end is followed if `follow` says so. -/
def entryOf (p : Process) (path : Octets) (follow : Bool := true) : Except OsError Entry :=
  p.tree.entryAt p.here? path.toText follow

/-- Whether a path leads to a directory. -/
def isDirectory (p : Process) (path : Octets) : Bool :=
  p.tree.isDirectory p.here? path.toText

/-- The location that a path leads to; a link at its end is followed if `follow` says so. -/
def locationOf (p : Process) (path : Octets) (follow : Bool := true) : Except OsError Location :=
  p.tree.resolve p.here? path.toText follow

/-- A path without the slashes at its end. -/
def withoutSlashes (path : Octets) : Octets :=
  (path.reverse.dropWhile (· == '/')).reverse

/-- The last name of a path. -/
def lastName (path : Octets) : Octets :=
  let trimmed := withoutSlashes path
  if trimmed.isEmpty then path.take 1 else (trimmed.reverse.takeWhile (· ≠ '/')).reverse

/-- The path of a name in a directory. -/
def within (directory name : Octets) : Octets :=
  if directory.getLast? == some '/' then directory ++ name else directory ++ '/' :: name

/-- The order of octet strings, octet by octet. -/
def lessEqual (a b : Octets) : Bool :=
  !decide (b < a)

/-- Octet strings in order. -/
def sorted (texts : List Octets) : List Octets :=
  texts.mergeSort lessEqual

/-- The names in a directory, in order. -/
def namesIn (p : Process) (location : Location) : List Octets :=
  sorted ((p.tree.children location).map Octets.ofText)

/-- The path of a location from a directory. -/
def relativePath (directory target : Location) : Octets :=
  let rec common : Location → Location → Nat
    | a :: as, b :: bs => if a = b then common as bs + 1 else 0
    | _, _ => 0
  let shared := common directory target
  let ups := List.replicate (directory.length - shared) ".."
  let names := ups ++ target.drop shared
  Octets.ofText (if names.isEmpty then "." else String.intercalate "/" names)

/-- Asks a question; the answer is a line of the input. -/
def ask (question : Octets) : StateM Process Bool := do
  sayError ((← get).name ++ ": ".toList ++ question ++ "? ".toList)
  let (text, p) := (← get).readAll 0
  let line := text.takeWhile (· ≠ '\n')
  set (p.giveBack 0 (text.drop (line.length + 1)))
  pure (line.head? == some 'y' || line.head? == some 'Y')

/-- Whether the answer to a question is yes, or there is no reason to ask it. -/
def agrees (asks : Bool) (question : Octets) : StateM Process Bool :=
  if asks then ask question else pure true

/-- Whether a mode for files makes sense. -/
def isMode (mode : Octets) : Bool :=
  let isClause (clause : Octets) : Bool :=
    let rest := clause.dropWhile "ugoa".toList.contains
    (rest.head?.any "+-=".toList.contains) && rest.all "+-=rwxXstugo".toList.contains
  if mode.head?.any Char.isDigit then mode.all fun c => '0' ≤ c && c ≤ '7'
  else !mode.isEmpty && (mode.splitOn ',').all isClause

/-! ## Making files and directories -/

/-- Makes files that are not there. -/
def touch : Tool :=
  withOptions [flag 'a', flag 'c' ["no-create"], valued 'd' ["date"], flag 'f',
    flag 'h' ["no-dereference"], flag 'm', valued 'r' ["reference"], valued 't',
    named 'T' "time" .value] fun g => do
  let p ← get
  let isNumber (text : Octets) : Bool :=
    !text.isEmpty && text.all fun c => c.isDigit || c == '.'
  match (g.value? 't').filter (!isNumber ·), g.value? 'r' with
  | some stamp, _ => do
    fault ("invalid date format ".toList ++ Quoting.value stamp)
    pure 1
  | none, some file =>
    match entryOf p file with
    | .error e => do
      fileFault "failed to get attributes of" file e
      pure 1
    | .ok _ => makeAll g
  | none, none =>
    match (g.value? 'd').filter fun date => !date.any Char.isDigit && date.length < 3 with
    | some date => do
      fault ("invalid date format ".toList ++ Quoting.value date)
      pure 1
    | none => makeAll g
where
  /-- Makes the files that are named and not there. -/
  makeAll (g : Given) : StateM Process Nat :=
    overFiles "file operand" g.operands fun path => do
      let p ← get
      let literal := g.has 'h'
      if path = ['-'] then pure 0
      else
        match entryOf p path (!literal) with
        | .ok _ => pure 0
        | .error e =>
          let given := withoutSlashes path
          if g.has 'c' then pure 0
          else if literal || given.length < path.length then do
            let e := if (entryOf p given).isOk then .notDirectory else e
            fileFault "setting times of" path e
            pure 1
          else
            let mode := (← get).fileMode
            change "cannot touch" path fun t here => t.writeFile here path.toText [] mode

/-- The part of a path up to the first directory that cannot be made. -/
def firstRefused (p : Process) (path : Octets) : Octets :=
  let segments := path.splitOn '/'
  let parts : List Octets := (List.range segments.length).map fun i =>
    List.intercalate ['/'] (segments.take (i + 1))
  let refused (part : Octets) : Bool :=
    !part.isEmpty && !(p.tree.makeDirectories p.here? part.toText).isOk
  (parts.find? refused).getD path

/-- The paths of the directories along a path, from the first one on. -/
def alongPath (path : Octets) : List Octets :=
  let segments := (withoutSlashes path).splitOn '/'
  let parts := (List.range segments.length).map fun i =>
    List.intercalate ['/'] (segments.take (i + 1))
  parts.filter (!·.isEmpty)

/-- The permissions of a new directory that are asked for; the mask is kept off them if they are
not. -/
def directoryMode (p : Process) (wish : Option Octets) : Nat :=
  let usual := Permissions.without 0o777 p.mask
  match wish.bind Permissions.parse? with
  | some changes => Permissions.adjusted true p.mask 0o777 changes
  | none => usual

/-- Gives a new directory its permissions. -/
def setDirectoryMode (path : Octets) (mode : Nat) : StateM Process Unit :=
  modify fun p =>
    if mode = 0o755 then p
    else (p.edit fun t here => t.changeMode here path.toText mode).toOption.getD p

/-- Makes directories. -/
def mkdir : Tool :=
  withOptions [flag 'p' ["parents"], flag 'v' ["verbose"], valued 'm' ["mode"],
    perhapsValued 'Z' ["context"]] fun g => do
  match (g.value? 'm').filter (!isMode ·) with
  | some mode => do
    fault ("invalid mode ".toList ++ Quoting.value mode)
    pure 1
  | none =>
    let own := directoryMode (← get) (g.value? 'm')
    let above := directoryMode (← get) none ||| 0o300
    let tell (path : Octets) : StateM Process Unit := do
      if g.has 'v' then
        say ((← get).name ++ ": created directory ".toList ++ Quoting.name path ++ ['\n'])
    overFiles "operand" g.operands fun path => do
      let action := "cannot create directory"
      if g.has 'p' then
        let p ← get
        let along := alongPath path
        let made := along.filter fun part => !(entryOf p part).isOk
        let part := firstRefused p path
        match p.edit fun t here => t.makeDirectories here path.toText with
        | .ok p =>
          set p
          made.forM fun part => do
            setDirectoryMode part (if along.getLast? == some part then own else above)
            tell part
          pure 0
        | .error .fileExists =>
          let e : OsError := if part.length < path.length then .notDirectory else .fileExists
          fileFault action part e
          pure 1
        | .error e =>
          fileFault action part e
          pure 1
      else
        let code ← change action path fun t here => t.makeDirectory here path.toText
        if code = 0 then
          setDirectoryMode path own
          tell path
        pure code

/-! ## Removing -/

/-- Removes empty directories, and perhaps those above them as long as they are empty. -/
def rmdir : Tool :=
  withOptions [named 'i' "ignore-fail-on-non-empty", flag 'p' ["parents", "path"],
    flag 'v' ["verbose"]] fun g => do
  let remove (action : String) (path : Octets) : StateM Process Nat := do
    if g.has 'v' then
      say ((← get).name ++ ": removing directory, ".toList ++ Quoting.name path ++ ['\n'])
    match (← get).edit fun t here => t.removeDirectory here path.toText with
    | .ok p =>
      set p
      pure 0
    | .error .directoryNotEmpty =>
      if g.has 'i' then pure 2
      else
        fileFault action path .directoryNotEmpty
        pure 1
    | .error e =>
      fileFault action path e
      pure 1
  overFiles "operand" g.operands fun path => do
    let code ← remove "failed to remove" path
    if code = 0 && g.has 'p' then
      let above := (alongPath path).reverse.tail
      let code ← above.foldlM (fun code part =>
        if code = 0 then remove "failed to remove directory" part else pure code) 0
      pure (if code = 1 then 1 else 0)
    else pure (if code = 1 then 1 else 0)

/-- What a file is called in a question. -/
def kindName : Entry → String
  | .directory _ => "directory"
  | .link _ => "symbolic link"
  | .file [] _ => "regular empty file"
  | .file _ _ | .program _ => "regular file"
  | .sink => "character special file"

/-- How files are removed. -/
structure Removal : Type where
  recursive : Bool
  /-- Whether empty directories are removed. -/
  empties : Bool
  asking : Bool
  verbose : Bool
  deriving Repr

/-- Removes what a path leads to, with everything below it; `n` bounds how deep that is. -/
def removeBelow (how : Removal) : Nat → Octets → StateM Process Nat
  | 0, _ => pure 1
  | n + 1, path => do
    let p ← get
    let tell (what : String) : StateM Process Unit :=
      if how.verbose then say (("removed " ++ what).toList ++ Quoting.name path ++ ['\n'])
      else pure ()
    match entryOf p path false with
    | .error e =>
      fileFault "cannot remove" path e
      pure 1
    | .ok (.directory serial) =>
      let names := ((p.tree.locate? serial).map (namesIn p)).getD []
      if !how.recursive && !how.empties then
        fileFault "cannot remove" path .isDirectory
        pure 1
      else if !how.recursive || names.isEmpty then
        let yes ← if how.asking then
            ask (("remove directory ").toList ++ Quoting.name path)
          else pure true
        if !yes then pure 0
        else
          let code ← change "cannot remove" path fun t here => t.removeDirectory here path.toText
          if code = 0 then tell "directory "
          pure code
      else
        let enter ← if how.asking then
            ask ("descend into directory ".toList ++ Quoting.name path)
          else pure true
        if !enter then pure 0
        else
          let code ← overAll names fun name => removeBelow how n (within path name)
          let p ← get
          let left := ((p.tree.locate? serial).map (namesIn p)).getD []
          if !left.isEmpty then pure code
          else
            let yes ← if how.asking then
                ask ("remove directory ".toList ++ Quoting.name path)
              else pure true
            if !yes then pure code
            else
              let last ←
                change "cannot remove" path fun t here => t.removeDirectory here path.toText
              if last = 0 then tell "directory "
              pure (max code last)
    | .ok entry =>
      let yes ← if how.asking then
          ask (("remove " ++ kindName entry ++ " ").toList ++ Quoting.name path)
        else pure true
      if !yes then pure 0
      else
        let code ← change "cannot remove" path fun t here => t.removeFile here path.toText
        if code = 0 then tell ""
        pure code

/-- Removes files, and directories if asked to. -/
def rm : Tool :=
  withOptions [flag 'd' ["dir"], flag 'f' ["force"], flag 'i', flag 'I',
    named 'q' "interactive" .perhaps, flag 'r' ["recursive"], flag 'R', flag 'v' ["verbose"],
    named 'x' "one-file-system", named 'p' "preserve-root" .perhaps,
    named 'P' "no-preserve-root"] fun g => do
  let how : Removal :=
    { recursive := g.has 'r' || g.has 'R', empties := g.has 'd'
      asking := g.lastOf ['f', 'i', 'I', 'q'] = some 'i', verbose := g.has 'v' }
  let force := g.lastOf ['f', 'i', 'I'] = some 'f'
  let count := g.operands.length
  let once := g.lastOf ['f', 'i', 'I'] = some 'I' && (how.recursive || 3 < count)
  let items := decimal count ++ (if count = 1 then " argument" else " arguments").toList
  let question := "remove ".toList ++ items ++ if how.recursive then " recursively".toList else []
  if g.operands.isEmpty && force then pure 0
  else if g.operands.isEmpty then refuse "missing operand"
  else if !(← agrees once question) then pure 0
  else
    overAll g.operands fun path => do
      let p ← get
      let last := lastName path
      match entryOf p path false with
      | .error e =>
        if force && (e = .noSuchFile || e = .notDirectory) then pure 0
        else do
          fileFault "cannot remove" path e
          pure 1
      | .ok (.directory _) =>
        if how.recursive && (last = ['.'] || last = ['.', '.']) then
          fault ("refusing to remove '.' or '..' directory: skipping ".toList ++
            Quoting.name path)
          pure 1
        else if how.recursive && !g.has 'P' && (locationOf p path).toOption = some [] then
          fault "it is dangerous to operate recursively on '/'".toList
          fault "use --no-preserve-root to override this failsafe".toList
          pure 1
        else removeBelow how (p.tree.entries.length + 2) path
      | .ok _ => removeBelow how 1 path

end Fleet.Tools
