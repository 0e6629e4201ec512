import Fleet.Tools.Files

/-!
# Inputs of tools

Tools read the files that are named, a hyphen being the input; without files they read the input. A
directory can be opened, but not read.
-/

namespace Fleet.Tools

open Shell

/-- The lines of a text that a character ends, without their ends. -/
def recordsOf (mark : Char) (text : Octets) : List Octets :=
  match (text.splitOn mark).reverse with
  | [] :: rest => rest.reverse
  | all => all.reverse

/-- The lines of a text, without their ends. -/
def linesOf (text : Octets) : List Octets :=
  recordsOf '\n' text

/-- Lines with an end each. -/
def unrecords (mark : Char) (lines : List Octets) : Octets :=
  (lines.map (· ++ [mark])).flatten

/-- Lines with their ends. -/
def unlines (lines : List Octets) : Octets :=
  unrecords '\n' lines

/-- Lines with their ends, the last of which may lack one. -/
def keepEnds (mark : Char) (text : Octets) : List Octets :=
  let lines := recordsOf mark text
  if text.getLast? == some mark then lines.map (· ++ [mark])
  else lines.dropLast.map (· ++ [mark]) ++ (lines.getLast?).toList

/-- The character that ends a line: an option makes it the one with the number 0. -/
def lineMark (g : Given) : Char :=
  if g.has 'z' then '\x00' else '\n'

/-- Why a file could not be read. -/
structure Unread : Type where
  path : Octets
  /-- Whether the file could be opened. -/
  opened : Bool
  error : OsError
  deriving Repr

/-- Whether a path stands for the input. -/
def isInput (path : Octets) : Bool :=
  path = ['-'] || path = "/dev/stdin".toList

/-- The content of a file, a hyphen being the input. -/
def readSource (path : Octets) : StateM Process (Except Unread Octets) := do
  let p ← get
  if isInput path then
    match p.inputFault? with
    | some error => pure (.error { path, opened := true, error })
    | none => do
      let (text, p) := p.readAll 0
      set p
      pure (.ok text)
  else
    match p.readFile path with
    | .ok text => pure (.ok text)
    | .error error => pure (.error { path, opened := error = .isDirectory, error })

/-- The usual report of a file that could not be read. -/
def Unread.report (u : Unread) : Octets :=
  Quoting.lead u.path ++ ": ".toList ++ u.error.description.toList

/-- The contents of the files that can be read, with their paths, and whether all could; the others
are reported as given. Without files the input is read. -/
def sourcesOr (report : Unread → Octets) (paths : List Octets) :
    StateM Process (List (Octets × Octets) × Bool) := do
  let paths := if paths.isEmpty then [['-']] else paths
  let read ← paths.mapM fun path => do
    match ← readSource path with
    | .ok text => pure (some (path, text))
    | .error u => do
      fault (report u)
      pure none
  pure (read.filterMap id, read.all Option.isSome)

/-- The contents of the files that can be read, with their paths, and whether all could. -/
def sources (paths : List Octets) : StateM Process (List (Octets × Octets) × Bool) :=
  sourcesOr Unread.report paths

/-- The code of a tool that could read all of its files, or not. -/
def codeOf (good : Bool) : Nat :=
  if good then 0 else 1

/-- Reads files one after the other, and prints what becomes of the text of each. -/
def filterEach (paths : List Octets) (f : Octets → Octets) : StateM Process Nat :=
  overAll (if paths.isEmpty then [['-']] else paths) fun path => do
    match ← readSource path with
    | .ok text => do
      say (f text)
      pure 0
    | .error u => do
      fault u.report
      pure 1

/-- Reads all files one after the other, and prints what becomes of their text. What becomes of the
text that was read before is printed before a file is reported that could not be read. -/
def filterText (paths : List Octets) (f : Octets → Octets) : StateM Process Nat := do
  let print (text : Octets) (printed : Nat) : StateM Process Nat := do
    let shown := f text
    say (shown.drop printed)
    pure shown.length
  let step (state : Octets × Nat × Nat) (path : Octets) : StateM Process (Octets × Nat × Nat) := do
    let (before, printed, code) := state
    match ← readSource path with
    | .ok text => pure (before ++ text, printed, code)
    | .error u => do
      let printed ← if before.isEmpty then pure 0 else print before printed
      fault u.report
      pure (before, printed, 1)
  let paths := if paths.isEmpty then [['-']] else paths
  let (text, printed, code) ← paths.foldlM step ([], 0, 0)
  let _ ← print text printed
  pure code

/-- Text brought to a width by blanks in front of it. -/
def rightAligned (width : Nat) (text : Octets) : Octets :=
  List.replicate (width - text.length) ' ' ++ text

/-- The factor that letters behind a number stand for. -/
def unitOf? (letters : Octets) : Option Nat :=
  let powers : List (Char × Nat) :=
    [('k', 1), ('K', 1), ('m', 2), ('M', 2), ('G', 3), ('T', 4), ('P', 5), ('E', 6), ('Z', 7),
      ('Y', 8)]
  let power (base : Nat) (n : Nat) : Nat := (List.replicate n base).foldl (· * ·) 1
  match letters with
  | [] => some 1
  | ['b'] => some 512
  | c :: rest =>
    (powers.lookup c).bind fun n =>
      match String.ofList rest with
      | "" | "iB" => some (power 1024 n)
      | "B" | "D" => some (power 1000 n)
      | _ => none

/-- The largest number that an option can give. -/
def numberLimit : Nat :=
  0xFFFFFFFFFFFFFFFF

/-- A number, perhaps with letters for a factor behind it; what is wrong with it is said as given.
-/
def countOf (what : String) (text : Octets) : Except Octets Nat :=
  let digits := text.takeWhile Char.isDigit
  let complaint : Octets := ("invalid " ++ what ++ ": ").toList ++ Quoting.value text
  match unitOf? (text.drop digits.length) with
  | none => .error complaint
  | some unit =>
    if digits.isEmpty then .error complaint
    else if numberLimit < number digits * unit then
      .error (complaint ++ ": Value too large for defined data type".toList)
    else .ok (number digits * unit)

/-- Goes on with a value, or reports what is wrong and ends with a code. -/
def orFault {α : Type} (value : Except Octets α) (go : α → StateM Process Nat) (code : Nat := 1) :
    StateM Process Nat := do
  match value with
  | .ok a => go a
  | .error message => do
    fault message
    pure code

end Fleet.Tools
