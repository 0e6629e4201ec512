import Fleet.Tools.Inputs

/-!
# Names of files

Tools that give a file another name or take a name away, each by one request to the system, that
wait until files are stored, that make files with new names, and that check names.
-/

namespace Fleet.Tools

open Shell

/-! ## Names given and taken away -/

/-- Reports an operand that is not expected. -/
def extraOperand (text : Octets) : StateM Process Nat := do
  misuse ("extra operand ".toList ++ Quoting.value text)
  pure 1

/-- Gives a file another name. -/
def link : Tool :=
  withOptions [] fun g =>
    match g.operands with
    | [] => refuse "missing operand"
    | [only] => do
      misuse ("missing operand after ".toList ++ Quoting.value only)
      pure 1
    | _ :: _ :: extra :: _ => extraOperand extra
    | [source, target] => do
      let p ← get
      let linked (t : FileTree) (here : Option Location) : Except OsError FileTree := do
        let entry ← t.entryAt here source.toText false
        let (directory, name) ← t.placeOf here target.toText
        if (t.find? (directory ++ [name])).isSome then throw .fileExists
        match entry with
        | .directory _ => throw .notPermitted
        | entry =>
          let location ← t.resolve here source.toText false
          pure (t.addName location (directory ++ [name]) entry)
      match p.edit linked with
      | .ok p => do
        set p
        pure 0
      | .error e => do
        fault ("cannot create link ".toList ++ Quoting.name target ++ " to ".toList ++
          Quoting.name source ++ ": ".toList ++ e.description.toList)
        pure 1

/-- Takes a name of a file away. -/
def unlink : Tool :=
  withOptions [] fun g =>
    match g.operands with
    | [] => refuse "missing operand"
    | _ :: extra :: _ => extraOperand extra
    | [path] => change "cannot unlink" path fun t here => t.removeFile here path.toText

/-- Waits until files are stored, which they always are. -/
def sync : Tool :=
  withOptions [flag 'd' ["data"], flag 'f' ["file-system"]] fun g => do
  if g.has 'd' && g.has 'f' then
    fault "cannot specify both --data and --file-system".toList
    return 1
  if g.has 'd' && g.operands.isEmpty then
    fault "--data needs at least one argument".toList
    return 1
  overAll g.operands fun path => do
    match entryOf (← get) path with
    | .ok _ => pure 0
    | .error e => do
      fileFault "error opening" path e
      pure 1

/-! ## New names -/

namespace Temporary

/-- The characters of new names. -/
def letters : Octets :=
  "abcdefghijklmnopqrstuvwxyzABCDEFGHIJKLMNOPQRSTUVWXYZ0123456789".toList

/-- As many characters, given by a number. -/
def word : Nat → Nat → Octets
  | 0, _ => []
  | n + 1, seed =>
    letters.getD (seed / 65536 % 62) 'a' :: word n ((seed * 1103515245 + 12345) % 4294967296)

/-- The first name that is vacant, of at most the given number that are tried. -/
def vacant (p : Process) (start : Octets) (count : Nat) (suffix : Octets) : Nat → Nat → Octets
  | 0, seed => start ++ word count seed ++ suffix
  | n + 1, seed =>
    let path := start ++ word count seed ++ suffix
    match entryOf p path false with
    | .ok _ => vacant p start count suffix n (seed * 69069 + 1)
    | .error _ => path

/-- What is asked for. -/
structure Wish : Type where
  /-- The name before the characters that are replaced, with its directory. -/
  start : Octets
  count : Nat
  suffix : Octets
  deriving Repr

/-- Reads what is asked for, with what is wrong about it. -/
def wish (p : Process) (g : Given) : Except Octets Wish := do
  let given := g.operands.head?
  let template := given.getD "tmp.XXXXXXXXXX".toList
  let about (before : String) (text : Octets) (after : String) : Octets :=
    before.toList ++ Quoting.value text ++ after.toList
  let (template, suffix) ← match g.value? 's' with
    | some suffix =>
      if template.getLast? != some 'X' then
        throw (about "with --suffix, template " template " must end in X")
      else pure (template ++ suffix, suffix)
    | none => pure (template, (template.reverse.takeWhile (· ≠ 'X')).reverse)
  let suffix := if suffix.length = template.length then [] else suffix
  if suffix.contains '/' then
    throw (about "invalid suffix " suffix ", contains directory separator")
  let body := template.take (template.length - suffix.length)
  let count := (body.reverse.takeWhile (· == 'X')).length
  if count < 3 then throw (about "too few X's in template " template "")
  let start := body.take (body.length - count)
  let isBelow := g.has 'p' || g.has 't' || given.isNone
  let environs? : Option Octets :=
    ((p.vars.find? fun v => v.name == "TMPDIR".toList).bind Variable.value).filter (!·.isEmpty)
  let asked := (g.value? 'p').filter (!·.isEmpty)
  let directory :=
    (if g.has 't' then environs?.or asked else asked.or environs?).getD "/tmp".toList
  if !isBelow then pure { start, count, suffix }
  else if g.has 't' && template.contains '/' then
    throw (about "invalid template, " template ", contains directory separator")
  else if template.head? == some '/' then
    throw (about "invalid template, " template "; with --tmpdir, it may not be absolute")
  else pure { start := within directory start, count, suffix }

/-- Makes a file or a directory with a new name, and prints its path. -/
def make (g : Given) (w : Wish) : StateM Process Nat := do
  let p ← get
  let path := vacant p w.start w.count w.suffix 100 (p.nextNumber * 2654435761 + 97 * p.line)
  let pattern := w.start ++ List.replicate w.count 'X' ++ w.suffix
  let print : StateM Process Nat := do
    say (path ++ ['\n'])
    pure 0
  let made (kind : String) (mode : Nat)
      (edit : FileTree → Option Location → Except OsError FileTree) : StateM Process Nat := do
    let complete (t : FileTree) (here : Option Location) : Except OsError FileTree := do
      (← edit t here).changeMode here path.toText mode
    match p.edit complete with
    | .ok after => do
      set after
      print
    | .error e => do
      if !g.has 'q' then
        fault (("failed to create " ++ kind ++ " via template ").toList ++ Quoting.value pattern ++
          ": ".toList ++ e.description.toList)
      pure 1
  if g.has 'u' then print
  else if g.has 'd' then made "directory" 0o700 fun t here => t.makeDirectory here path.toText
  else made "file" 0o600 fun t here => t.writeFile here path.toText []

end Temporary

/-- Makes a file or a directory with a new name. -/
def mktemp : Tool :=
  withOptions [flag 'd' ["directory"], flag 'q' ["quiet"], flag 't', flag 'u' ["dry-run"],
    valued 'p', ⟨'p', ["tmpdir"], .perhaps, false⟩, named 's' "suffix" .value] fun g => do
  if 1 < g.operands.length then refuse "too many templates"
  else orFault (Temporary.wish (← get) g) (Temporary.make g)

/-! ## Checks -/

namespace NameCheck

/-- The characters that names may consist of everywhere. -/
def isPortable (c : Char) : Bool :=
  c.isAlphanum || c == '/' || c == '.' || c == '_' || c == '-'

/-- What is wrong with a path for the system that there is, or, if `basic` says so, for others;
`careful` asks for paths that are no options and not empty. -/
def problem? (p : Process) (basic careful : Bool) (path : Octets) : Option Octets :=
  let parts := path.splitOn '/'
  let limit (n length : Nat) (what : String) (text : Octets) : Octets :=
    "limit ".toList ++ decimal n ++ " exceeded by length ".toList ++ decimal length ++
      (" of file name " ++ what).toList ++ Quoting.name text
  if careful && parts.any fun part => part.head? == some '-' then
    some ("leading '-' in a component of file name ".toList ++ Quoting.name path)
  else if (basic || careful) && path.isEmpty then some "empty file name".toList
  else if basic then
    match path.find? fun c => !isPortable c with
    | some c =>
      some ("non-portable character ".toList ++ Quoting.value [c] ++ " in file name ".toList ++
        Quoting.name path)
    | none =>
      if 255 < path.length then some (limit 255 path.length "" path)
      else
        (parts.find? fun part => 14 < part.length).map fun part =>
          limit 14 part.length "component " part
  else
    match entryOf p path false with
    | .ok _ => none
    | .error e =>
      if e = .noSuchFile && !path.isEmpty then none
      else some (Quoting.lead path ++ ": ".toList ++ e.description.toList)

end NameCheck

/-- Checks whether paths can be used. -/
def pathchk : Tool :=
  withOptions [flag 'p', flag 'P', named 'b' "portability"] fun g =>
    overFiles "operand" g.operands fun path => do
      let basic := g.has 'p' || g.has 'b'
      let careful := g.has 'P' || g.has 'b'
      match NameCheck.problem? (← get) basic careful path with
      | some text => do
        fault text
        pure 1
      | none => pure 0

end Fleet.Tools
