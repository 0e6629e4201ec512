import Fleet.Shell.Present
import Fleet.Tools.Files

/-!
# Putting files elsewhere

Tools that put files at other places: they give them more names, move them and copy them. A file
that is in the way may be kept under another name.
-/

namespace Fleet.Tools

open Shell

/-! ## Places -/

/-- Where several sources are put. -/
inductive Destination : Type where
  | inside (directory : Octets)
  | exactly (path : Octets)
  deriving Repr

/-- The path at a destination for a source. -/
def Destination.place (source : Octets) : Destination → Octets
  | inside directory => within directory (lastName source)
  | exactly path => path

/-- The sources and the destination that operands name, the last of them being the destination
unless an option names a directory; or a fault is reported. -/
def destinationOf (g : Given) (alone : Option Octets := none) :
    StateM Process (Option (List Octets × Destination)) := do
  let p ← get
  let isPlace (path : Octets) : Bool :=
    isDirectory p path && (!g.has 'n' || (entryOf p path false) matches .ok (.directory _))
  let lacking (what : Octets) : StateM Process (Option (List Octets × Destination)) := do
    misuse ("missing ".toList ++ what)
    pure none
  match g.value? 't', g.operands.reverse with
  | _, [] => lacking "file operand".toList
  | some directory, _ =>
    match entryOf p directory with
    | .ok (.directory _) => pure (some (g.operands, .inside directory))
    | .ok _ => do
      fileFault "target directory" directory .notDirectory
      pure none
    | .error e => do
      fileFault "target directory" directory e
      pure none
  | none, [source] =>
    match alone.filter fun _ => !g.has 'T' with
    | some directory => pure (some ([source], .inside directory))
    | none => lacking ("destination file operand after ".toList ++ Quoting.name source)
  | none, target :: sources =>
    let sources := sources.reverse
    if g.has 'T' then
      match sources with
      | [_] => pure (some (sources, .exactly target))
      | _ => do
        misuse ("extra operand ".toList ++ Quoting.name target)
        pure none
    else if isPlace target then pure (some (sources, .inside target))
    else
      match sources with
      | [_] => pure (some (sources, .exactly target))
      | _ => do
        let e : OsError := match entryOf p target with
          | .ok _ => .notDirectory
          | .error e => e
        fileFault "target" target e
        pure none

/-- Whether two paths lead to one file. -/
def areSame (p : Process) (a b : Octets) (follow : Bool := true) : Bool :=
  p.tree.areSame p.here? a.toText b.toText follow

/-- Whether two paths are one name of a file. -/
def areOneName (p : Process) (a b : Octets) : Bool :=
  match locationOf p a false, locationOf p b false with
  | .ok a, .ok b => a = b
  | _, _ => false

/-- Reports that two paths lead to one file. -/
def refuseSame (a b : Octets) : StateM Process Nat := do
  fault (Quoting.name a ++ " and ".toList ++ Quoting.name b ++ " are the same file".toList)
  pure 1

/-! ## Keeping what is replaced -/

/-- How files are named that are kept. -/
inductive Keeping : Type where
  | simple
  | numbered
  /-- With numbers if there are some with numbers already. -/
  | existing
  deriving Repr, DecidableEq

/-- Which files are kept that would be replaced. -/
structure Backups : Type where
  kind : Option Keeping := none
  suffix : Octets := ['~']
  deriving Repr

namespace Backups

/-- The words for how files are kept. -/
def words : List (List String) :=
  [["none", "off"], ["simple", "never"], ["existing", "nil"], ["numbered", "t"]]

/-- What options and the environment say. -/
def ofOptions (p : Process) (g : Given) : Except Octets Backups := do
  let word := (g.valuesOf 'B').getLast?.or (p.setting? "VERSION_CONTROL".toList)
  let suffix := ((g.value? 'S').or (p.setting? "SIMPLE_BACKUP_SUFFIX".toList)).getD ['~']
  let suffix := if suffix.isEmpty || suffix.contains '/' then ['~'] else suffix
  let chosen ← match word with
    | none => pure "existing"
    | some word => choiceFor "'backup type'" words word
  let kind : Option Keeping := match chosen with
    | "none" => none
    | "simple" => some .simple
    | "numbered" => some .numbered
    | _ => some .existing
  if g.has 'b' || g.has 'B' || (g.value? 'S').isSome then pure { kind, suffix }
  else pure { suffix }

/-- The greatest number that a name is kept with. -/
def greatest (names : List Octets) (name : Octets) : Nat :=
  let numberOf (other : Octets) : Nat :=
    let rest := other.drop (name.length + 2)
    let digits := rest.dropLast
    if (name ++ ['.', '~']).isPrefixOf other && rest.getLast? == some '~' && !digits.isEmpty &&
        digits.all Char.isDigit then
      number digits
    else 0
  (names.map numberOf).foldl max 0

/-- The path under which a file is kept. -/
def kept? (b : Backups) (p : Process) (path : Octets) : Option Octets :=
  let directory := path.take (path.length - (lastName path).length)
  let names := match locationOf p (if directory.isEmpty then ['.'] else directory) with
    | .ok location => namesIn p location
    | .error _ => []
  let last := greatest names (lastName path)
  let simple := path ++ b.suffix
  let numbered := path ++ ['.', '~'] ++ decimal (last + 1) ++ ['~']
  b.kind.map fun
    | .simple => simple
    | .numbered => numbered
    | .existing => if last = 0 then simple else numbered

/-- Keeps the file at a path, if there is one, under another path; says which. -/
def keep (b : Backups) (path : Octets) : StateM Process (Option Octets) := do
  let p ← get
  match entryOf p path false, b.kept? p path with
  | .ok (.directory _), _ | .error _, _ | _, none => pure none
  | .ok _, some other =>
    match p.edit fun t here => t.rename here path.toText other.toText with
    | .ok p => do
      set p
      pure (some other)
    | .error _ => pure none

/-- What is said about a file that was kept. -/
def told (other : Option Octets) : Octets :=
  match other with
  | some other => " (backup: ".toList ++ Quoting.name other ++ [')']
  | none => []

end Backups

/-! ## Links -/

/-- Gives an entry another name at a vacant place. -/
def nameAgain (source : Octets) (follow : Bool) (place : Octets) (entry : Entry) (t : FileTree)
    (here : Option Location) : Except OsError FileTree := do
  let (directory, name) ← t.placeOf here place.toText
  if (t.find? (directory ++ [name])).isSome then throw .fileExists
  pure (t.addName (← t.resolve here source.toText follow) (directory ++ [name]) entry)

/-- Makes links. -/
def ln : Tool :=
  withOptions [flag 'b', named 'B' "backup" .perhaps, flag 'd' ["directory"], flag 'F',
    flag 'f' ["force"], flag 'i' ["interactive"], flag 'L' ["logical"],
    flag 'n' ["no-dereference"], flag 'P' ["physical"], flag 'r' ["relative"],
    flag 's' ["symbolic"], valued 'S' ["suffix"], valued 't' ["target-directory"],
    flag 'T' ["no-target-directory"], flag 'v' ["verbose"]] fun g => do
  let action := if g.has 's' then "failed to create symbolic link" else
    "failed to create hard link"
  orMisuse (Backups.ofOptions (← get) g) fun backups => do
  match ← destinationOf g (some ['.']) with
  | none => pure 1
  | some (sources, destination) =>
    overAll sources fun source => do
      let place := destination.place source
      let place := match destination with
        | .inside ['.'] => if g.operands.length = 1 then lastName source else place
        | _ => place
      let p ← get
      let target : Octets :=
        if g.has 'r' then
          match locationOf p source, p.tree.placeOf p.here? place.toText with
          | .ok location, .ok (directory, _) => relativePath directory location
          | _, _ => source
        else source
      let tell (other : Option Octets) : StateM Process Unit := do
        if g.has 'v' then
          let arrow := if g.has 's' then " -> " else " => "
          let before := match other with
            | some other => Quoting.name other ++ " ~ ".toList
            | none => []
          say (before ++ Quoting.name place ++ arrow.toList ++ Quoting.name target ++ ['\n'])
      let mode := g.lastOf ['f', 'i']
      let clear : StateM Process (Option Octets) := do
        match ← backups.keep place with
        | some other => pure (some other)
        | none => do
          if mode.isSome && (!isDirectory (← get) place || g.has 'n') then
            modify fun p => (p.edit fun t here => t.removeFile here place.toText).toOption.getD p
          pure none
      let asks := mode = some 'i' && (entryOf p place false).isOk
      if !(← agrees asks ("replace ".toList ++ Quoting.name place)) then return 1
      if g.has 's' then
        if g.has 'f' && areOneName p source place then refuseSame source place
        else
          let other ← clear
          let code ← change action place fun t here => t.makeLink here place.toText target.toText
          if code = 0 then tell other
          pure code
      else
        let follow := g.lastOf ['L', 'P'] = some 'L'
        match entryOf p source follow with
        | .error e => do
          fileFault "failed to access" source e
          pure 1
        | .ok (.directory _) => do
          fault (Quoting.lead source ++ ": hard link not allowed for directory".toList)
          pure 1
        | .ok entry => do
          if mode.isSome && areOneName p source place then return ← refuseSame source place
          let other ← clear
          let code ← change action place (nameAgain source follow place entry)
          if code = 0 then tell other
          pure code

/-! ## Moving -/

/-- Renames files. -/
def mv : Tool :=
  withOptions [flag 'b', named 'B' "backup" .perhaps, flag 'f' ["force"], flag 'i' ["interactive"],
    flag 'n' ["no-clobber"], named 's' "strip-trailing-slashes", valued 'S' ["suffix"],
    valued 't' ["target-directory"], flag 'T' ["no-target-directory"], flag 'u',
    named 'U' "update" .perhaps, flag 'v' ["verbose"]] fun g => do
  -- Here the letter that keeps files has nothing to do with links to directories.
  let placing : Given := { g with options := g.options.filter (·.1 != 'n') }
  orMisuse (Backups.ofOptions (← get) g) fun backups => do
  match ← destinationOf placing with
  | none => pure 1
  | some (sources, destination) =>
    overAll sources fun source => do
      let place := destination.place source
      let p ← get
      let moved : Octets := Quoting.name source ++ " to ".toList ++ Quoting.name place
      let finish (other : Option Octets) (p : Process) : StateM Process Nat := do
        set p
        if g.has 'v' then
          let arrow : Octets := Quoting.name source ++ " -> ".toList ++ Quoting.name place
          say ("renamed ".toList ++ arrow ++ Backups.told other ++ ['\n'])
        pure 0
      let failed (e : OsError) : StateM Process Nat := do
        fault ("cannot move ".toList ++ moved ++ ": ".toList ++ e.description.toList)
        pure 1
      match entryOf p source false, entryOf p place false with
      | .error e, _ => do
        fileFault "cannot stat" source e
        pure 1
      | .ok own, there => do
        let mode := g.lastOf ['f', 'i', 'n']
        let isThere := there.isOk
        if isThere && mode = some 'n' then
          fault ("not replacing ".toList ++ Quoting.name place)
          pure 1
        else if isThere && (g.has 'u' || g.has 'U') then pure 0
        else if areSame p source place false then refuseSame source place
        else if !(← agrees (isThere && mode = some 'i')
            ("overwrite ".toList ++ Quoting.name place)) then
          pure 1
        else
          match own, there with
          | .directory _, .ok (.directory _) | .directory _, .error _ =>
            match (← get).edit fun t here => t.rename here source.toText place.toText with
            | .ok p => finish none p
            | .error .invalidArgument => do
              fault ("cannot move ".toList ++ Quoting.name source ++
                " to a subdirectory of itself, ".toList ++ Quoting.name place)
              pure 1
            | .error e => failed e
          | .directory _, .ok _ => do
            fault ("cannot overwrite non-directory ".toList ++ Quoting.name place ++
              " with directory ".toList ++ Quoting.name source)
            pure 1
          | _, .ok (.directory _) => do
            fault ("cannot overwrite directory ".toList ++ Quoting.name place ++
              " with non-directory".toList)
            pure 1
          | _, _ =>
            if place.getLast? == some '/' then failed .notDirectory
            else
              let other ← backups.keep place
              match (← get).edit fun t here => t.rename here source.toText place.toText with
              | .ok p => finish other p
              | .error e => failed e

/-! ## Copying -/

/-- How files are copied. -/
structure Duplication : Type where
  recursive : Bool
  /-- Whether what a link leads to is copied. -/
  follow : Bool
  /-- Whether files that are there are kept. -/
  keeping : Bool
  asking : Bool
  verbose : Bool
  /-- Whether copies are names for the same file, or links that lead there. -/
  linking : Option Char
  /-- Whether the permissions stay what they are. -/
  modes : Bool
  /-- Whether the permissions are not copied. -/
  plain : Bool
  /-- Whether the content is not copied. -/
  hollow : Bool
  /-- Whether what is in the way may be removed. -/
  force : Bool
  backups : Backups
  deriving Repr

/-- Makes a copy that is a name for the same file or a link that leads to it. -/
def linkOne (how : Duplication) (letter : Char) (source place : Octets) (entry : Entry) :
    StateM Process Nat := do
  let p ← get
  let toward := Quoting.name place ++ " to ".toList ++ Quoting.name source
  if letter = 's' && source.head? != some '/' && place.contains '/' then
    fault (Quoting.lead place ++
      ": can make relative symbolic links only in current directory".toList)
    pure 1
  else if letter = 'l' && areSame p source place false then pure 0
  else
    if how.force then
      modify fun p => (p.edit fun t here => t.removeFile here place.toText).toOption.getD p
    let kind := if letter = 's' then "symbolic link " else "hard link "
    let made (t : FileTree) (here : Option Location) : Except OsError FileTree :=
      if letter = 's' then t.makeLink here place.toText source.toText
      else nameAgain source how.follow place entry t here
    match (← get).edit made with
    | .ok p => do
      set p
      pure 0
    | .error e => do
      fault (("cannot create " ++ kind).toList ++ toward ++ ": ".toList ++ e.description.toList)
      pure 1

/-- Copies what a path leads to; `n` bounds how deep directories are. -/
def copyOne (how : Duplication) : Nat → Octets → Octets → StateM Process Nat
  | 0, _, _ => pure 1
  | n + 1, source, place => do
    let p ← get
    let tell (other : Option Octets) : StateM Process Unit := do
      if how.verbose then
        say (Quoting.name source ++ " -> ".toList ++ Quoting.name place ++ Backups.told other ++
          ['\n'])
    let there := entryOf p place
    match entryOf p source how.follow, there with
    | .error e, _ => do
      fileFault "cannot stat" source e
      pure 1
    | .ok (.directory serial), there => do
      let below := (p.tree.locate? serial).getD []
      let names := namesIn p below
      let isInside := match p.tree.placeOf p.here? place.toText with
        | .ok (directory, name) => below.isPrefixOf (directory ++ [name])
        | .error _ => false
      if !how.recursive then
        fault ("-r not specified; omitting directory ".toList ++ Quoting.name source)
        pure 1
      else if isInside then
        fault ("cannot copy a directory, ".toList ++ Quoting.name source ++
          ", into itself, ".toList ++ Quoting.name place)
        pure 1
      else
        let made ←
          match there with
          | .ok (.directory _) => pure 0
          | .ok _ => do
            fault ("cannot overwrite non-directory ".toList ++ Quoting.name place ++
              " with directory ".toList ++ Quoting.name source)
            pure 1
          | .error _ => do
            let code ←
              change "cannot create directory" place fun t here => t.makeDirectory here place.toText
            if code = 0 then
              let mode := p.tree.modeOf (.directory serial)
              let mode := if how.plain then 0o777 else mode
              setDirectoryMode place (if how.modes then mode else Permissions.without mode p.mask)
              tell none
            pure code
        if made ≠ 0 then pure 1
        else overAll names fun name => copyOne how n (within source name) (within place name)
    | .ok (.link target), _ => do
      match entryOf p place false with
      | .ok (.directory _) => do
        fault ("cannot overwrite directory ".toList ++ Quoting.name place ++
          " with non-directory".toList)
        pure 1
      | there =>
        let other ← how.backups.keep place
        if there.isOk && other.isNone then
          modify fun p => (p.edit fun t here => t.removeFile here place.toText).toOption.getD p
        let code ← change "cannot create symbolic link" place fun t here =>
          t.makeLink here place.toText target
        if code = 0 then tell other
        pure code
    | .ok _, .ok (.directory _) => do
      fault ("cannot overwrite directory ".toList ++ Quoting.name place ++
        " with non-directory".toList)
      pure 1
    | .ok entry, there => do
      let dangling := !there.isOk && (entryOf p place false) matches .ok (.link _)
      let same := areSame p source place && how.linking != some 'l'
      let isLink := (entryOf p place false) matches .ok (.link _)
      if same && !((how.force || isLink) && how.backups.kind.isSome) then
        refuseSame source place
      else if there.isOk && how.keeping then pure 0
      else if !(← agrees (there.isOk && how.asking)
          ("overwrite ".toList ++ Quoting.name place)) then
        pure 1
      else if dangling then
        fault ("not writing through dangling symlink ".toList ++ Quoting.name place)
        pure 1
      else if place.getLast? == some '/' then
        fileFault "cannot create regular file" place .notDirectory
        pure 1
      else
        match how.linking with
        | some letter => do
          let other ← how.backups.keep place
          let code ← linkOne how letter source place entry
          if code = 0 then tell other
          pure code
        | none => do
          let (content, mode) := match entry with
            | .file content mode => (content, mode)
            | .sink => ((p.readDevice source).toBytes, 0o666)
            | _ => ([], 0o755)
          let other ← how.backups.keep place
          let left := (entryOf (← get) place).isOk
          let mode := if how.plain then 0o666 else mode
          let code ← if how.hollow && left then pure 0
            else
              change "cannot create regular file" place fun t here =>
                t.writeFile here place.toText (if how.hollow then [] else content)
                  (Permissions.without mode p.mask)
          if code = 0 then
            if how.modes then
              modify fun p =>
                (p.edit fun t here => t.changeMode here place.toText mode).toOption.getD p
            tell other
          pure code

/-- Copies files, and directories if asked to. -/
def cp : Tool :=
  withOptions [flag 'a' ["archive"], named '1' "attributes-only", flag 'b',
    named 'B' "backup" .perhaps, named '2' "copy-contents", flag 'd', named '9' "debug",
    flag 'f' ["force"], flag 'H', flag 'i' ["interactive"], flag 'l' ["link"],
    flag 'L' ["dereference"], flag 'n' ["no-clobber"], flag 'P' ["no-dereference"], flag 'p',
    named '3' "preserve" .perhaps, named '4' "no-preserve" .value, named '5' "parents",
    flag 'R' ["recursive"], flag 'r', named '6' "reflink" .perhaps,
    named '7' "remove-destination", named '8' "sparse" .value, named '0' "strip-trailing-slashes",
    flag 's' ["symbolic-link"], valued 'S' ["suffix"], valued 't' ["target-directory"],
    flag 'T' ["no-target-directory"], flag 'u', named 'U' "update" .perhaps,
    flag 'v' ["verbose"], flag 'x' ["one-file-system"]] fun g => do
  let recursive := g.has 'r' || g.has 'R' || g.has 'a'
  let following := g.lastOf ['a', 'd', 'P', 'L']
  let mode := g.lastOf ['f', 'i', 'n']
  let naming (word : String) (text : Octets) : Bool :=
    (text.splitOn ',').any fun part => part = word.toList || part = "all".toList
  let preserves := g.has 'a' || g.has 'p' || g.options.any fun (key, value) =>
    key == '3' && (value.map (naming "mode")).getD true
  orMisuse (Backups.ofOptions (← get) g) fun backups => do
  let how : Duplication :=
    { recursive
      follow := following = some 'L' || (following.isNone && !recursive)
      keeping := mode = some 'n' || g.has 'u' || g.has 'U'
      asking := mode = some 'i'
      verbose := g.has 'v'
      linking := g.lastOf ['l', 's']
      modes := preserves && !g.has '4'
      plain := !preserves && ((g.value? '4').any fun text => naming "mode" text)
      hollow := g.has '1'
      force := g.has 'f'
      backups }
  if g.has 'n' then
    fault ("warning: behavior of -n is non-portable and may change in future; " ++
      "use --update=none instead").toList
  let placing : Given := { g with options := g.options.filter (·.1 != 'n') }
  match ← destinationOf placing with
  | none => pure 1
  | some (sources, destination) => do
    let (code, _) ← sources.foldlM (fun (code, seen) source => do
      if seen.contains source then
        fault ("warning: source file ".toList ++ Quoting.name source ++
          " specified more than once".toList)
        pure (code, seen)
      else
        let place : Octets := match destination with
          | .inside directory =>
            if g.has '5' then within directory source else destination.place source
          | .exactly path => path
        if g.has '5' then
          let above := (alongPath place).dropLast
          let p ← get
          let made := above.filter fun part => !(entryOf p part).isOk
          modify fun p => (p.edit fun t here =>
            t.makeDirectories here ((above.getLast?).getD ['.']).toText).toOption.getD p
          if how.verbose then
            made.forM fun part =>
              say (part.drop (place.length - source.length) ++ " -> ".toList ++ part ++ ['\n'])
        if g.has '7' then
          modify fun p => (p.edit fun t here => t.removeFile here place.toText).toOption.getD p
        let p ← get
        let own ← copyOne how (p.tree.entries.length + 2) source place
        pure (max code own, source :: seen)) (0, ([] : List Octets))
    pure code

end Fleet.Tools
