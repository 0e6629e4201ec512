import Fleet.Tools.Transfer

/-!
# Putting files in place

The tool `install`: it copies files and gives them permissions, or makes directories. What is in the
way is replaced.
-/

namespace Fleet.Tools

open Shell

namespace Installing

/-- How files are put in place. -/
structure Plan : Type where
  changes : List Permissions.Change
  verbose : Bool
  backups : Backups

/-- The permissions that are given. -/
def Plan.mode (plan : Plan) (isDirectory : Bool) : Nat :=
  Permissions.adjusted isDirectory 0 0 plan.changes

/-- Makes a directory with those above it; the last one is given the permissions. -/
def makeDirectory (plan : Plan) (path : Octets) : StateM Process Nat := do
  let p ← get
  let made := (alongPath path).filter fun part => !(entryOf p part).isOk
  match p.edit fun t here => t.makeDirectories here path.toText with
  | .ok p => do
    set p
    made.forM fun part => do
      if plan.verbose then
        say (p.name ++ ": creating directory ".toList ++ Quoting.name part ++ ['\n'])
    setDirectoryMode path (plan.mode true)
    pure 0
  | .error e => do
    let part := firstRefused p path
    let e : OsError := if part.length = path.length && (entryOf p path).isOk then .fileExists else e
    fileFault "cannot create directory" part e
    pure 1

/-- Puts a file at a place. -/
def putOne (plan : Plan) (source place : Octets) : StateM Process Nat := do
  let p ← get
  match entryOf p source, entryOf p place false with
  | .error e, _ => do
    fileFault "cannot stat" source e
    pure 1
  | .ok (.directory _), _ => do
    fault ("omitting directory ".toList ++ Quoting.name source)
    pure 1
  | .ok _, .ok (.directory _) => do
    fault ("cannot overwrite directory ".toList ++ Quoting.name place ++
      " with non-directory".toList)
    pure 1
  | .ok entry, there =>
    if there.isOk && areSame p source place then refuseSame source place
    else if place.getLast? == some '/' then do
      fileFault "cannot create regular file" place .notDirectory
      pure 1
    else do
      let content := match entry with
        | .file content _ => content
        | _ => []
      let other ← plan.backups.keep place
      modify fun p => (p.edit fun t here => t.removeFile here place.toText).toOption.getD p
      let code ← change "cannot create regular file" place fun t here =>
        t.writeFile here place.toText content (plan.mode false)
      if code = 0 && plan.verbose then
        say (Quoting.name source ++ " -> ".toList ++ Quoting.name place ++ Backups.told other ++
          ['\n'])
      pure code

/-- Makes the directories above a place. -/
def makeAbove (plan : Plan) (directory : Octets) : StateM Process Nat := do
  if directory.isEmpty || isDirectory (← get) directory then pure 0
  else makeDirectory { plan with changes := [Permissions.absolute 5 0o755] } directory

/-- Puts files in place as options say. -/
def run (g : Given) (plan : Plan) : StateM Process Nat := do
  if g.has 'd' then
    if g.operands.isEmpty then refuse "missing file operand"
    else overAll g.operands (makeDirectory plan)
  else
    if g.has 'D' then
      match g.value? 't', g.operands with
      | some directory, _ => let _ ← makeAbove plan directory
      | none, [_, place] =>
        let bare := withoutSlashes place
        let _ ← makeAbove plan (withoutSlashes (bare.take (bare.length - (lastName bare).length)))
      | none, _ => pure ()
    match ← destinationOf g with
    | none => pure 1
    | some (sources, destination) =>
      overAll sources fun source => putOne plan source (destination.place source)

end Installing

/-- Puts files in place. -/
def install : Tool :=
  withOptions [flag 'b', named 'B' "backup" .perhaps, flag 'c', flag 'C' ["compare"],
    flag 'd' ["directory"], flag 'D', valued 'g' ["group"], valued 'm' ["mode"],
    valued 'o' ["owner"], flag 'p' ["preserve-timestamps"], flag 's' ["strip"],
    valued 'S' ["suffix"], valued 't' ["target-directory"], flag 'T' ["no-target-directory"],
    flag 'v' ["verbose"]] fun g => do
  orMisuse (Backups.ofOptions (← get) g) fun backups =>
    let wish := (g.value? 'm').getD "755".toList
    match Permissions.parse? wish with
    | none => do
      fault ("invalid mode ".toList ++ Quoting.value wish)
      pure 1
    | some changes => Installing.run g { changes, verbose := g.has 'v', backups }

end Fleet.Tools
