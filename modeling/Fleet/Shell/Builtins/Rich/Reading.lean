import Fleet.Shell.Builtins.Reading
import Fleet.Shell.Builtins.Rich.Declaring

/-!
# Reading in the rich shell

What is read may end at another character or after some octets, and may be given to an array; the
lines of a text may become the elements of one.
-/

namespace Fleet.Shell.Reading

/-- How much is read. -/
structure Extent : Type where
  raw : Bool := false
  /-- The character at which reading ends, if there is one. -/
  mark : Option Char := some '\n'
  /-- How many octets are read at most. -/
  limit : Option Nat := none
  deriving Repr

/-- What is read from a text, each octet with whether it is escaped, what follows it, and whether it
has an end. -/
def takeRecord (e : Extent) : Octets → List PatternOctet → List PatternOctet × Octets × Bool
  | [], taken => (taken.reverse, [], e.limit.any (· ≤ taken.length))
  | c :: rest, taken =>
    if e.limit.any (· ≤ taken.length) then (taken.reverse, c :: rest, true)
    else if some c = e.mark then (taken.reverse, rest, true)
    else if c = '\x00' then takeRecord e rest taken
    else if c = '\\' && !e.raw then
      match rest with
      | [] => (taken.reverse, [], false)
      | d :: rest => takeRecord e rest (if d = '\n' then taken else (d, true) :: taken)
    else takeRecord e rest ((c, false) :: taken)

/-- What is left to read from a descriptor; it is a mistake if it cannot be read. -/
def leftOf (descriptor : Octets) : Exec (Nat × Octets) := do
  let p ← get
  let invalid {α : Type} : Exec α := failWith 1
    (descriptor ++ ": invalid file descriptor: ".toList ++ OsError.badDescriptor.description.toList)
  match natural? descriptor with
  | none => failWith 1 (descriptor ++ ": invalid file descriptor specification".toList)
  | some n =>
    match p.stream? n with
    | some (_, .input _ _) => do
      let (left, p) := p.readAll n
      set p
      pure (n, left)
    | some (_, .silent) => pure (n, [])
    | some (_, .folder) =>
      failWith 1 ("read error: ".toList ++ decimal n ++ ": ".toList ++
        OsError.isDirectory.description.toList)
    | _ => invalid

/-- Gives fields to variables; those that are left become empty. -/
def storeFields : List Octets → List Octets → Exec Unit
  | [], _ => pure ()
  | name :: rest, fields => do
    let d := Declaring.parts name
    store d.name d.subscript false (fields.headD [])
    storeFields rest fields.tail

/-- The fields of what was read. -/
def fieldsOf (p : Process) (taken : List PatternOctet) : List Octets :=
  let cells := taken.map fun (c, escaped) => Cell.octet c escaped (!escaped)
  (splitFields (separatorsOf p) .closed [] cells).map fun field => field.map Prod.fst

/-- Reads a line, or something else, into variables or an array. -/
def runRich (arguments : List Octets) : Exec Unit := do
  let (options, names) ←
    Letters.take ⟨['r', 's', 'e'], ['a', 'd', 'n', 'N', 'p', 't', 'u', 'i']⟩ arguments
  let value? (c : Char) : Option Octets := (options.reverse.find? (·.1 == c)).map Prod.snd
  match (value? 't').filter fun time => !time.all fun c => c.isDigit || c == '.' with
  | some time => failWith 1 (time ++ ": invalid timeout specification".toList)
  | none => pure ()
  let counts := [value? 'n', value? 'N'].filterMap id
  match counts.find? fun count => (natural? count).isNone with
  | some count => failWith 1 (count ++ ": invalid number".toList)
  | none => pure ()
  match (names.map fun name => (Declaring.parts name).name).find? fun name => !isName name with
  | some name => failWith 1 ('`' :: name ++ "': not a valid identifier".toList)
  | none => pure ()
  if value? 't' == some ['0'] then setStatus 0
  else
    let exact := (value? 'N').isSome
    let mark := match value? 'd' with
      | some [] => '\x00'
      | some (c :: _) => c
      | none => '\n'
    let e : Extent :=
      { raw := (options.lookup 'r').isSome
        mark := if exact then none else some mark
        limit := counts.head?.bind natural? }
    let (n, left) ← leftOf ((value? 'u').getD ['0'])
    let (taken, after, ended) := takeRecord e left []
    modify (·.giveBack n after)
    let p ← get
    let text := taken.map Prod.fst
    let worked ← Declaring.tolerating (match value? 'a', names with
      | some array, _ => storeTable array false false ((fieldsOf p taken).map fun f =>
        (none, false, f))
      | none, [] => store "REPLY".toList none false text
      | none, names =>
        if exact then storeFields names [text]
        else
          let start : Cutting := { left := names.length }
          storeFields names (taken.foldl (Cutting.step (separatorsOf p)) start).all)
    setStatus (if ended && worked then 0 else 1)

/-- The pieces of a text, each with the mark that ends it, which the last one may lack. -/
def records (mark : Char) (text : Octets) : List Octets :=
  let pieces := text.splitOn mark
  let ended := pieces.dropLast.map (· ++ [mark])
  match pieces.getLast? with
  | some [] | none => ended
  | some last => ended ++ [last]

/-- Makes the lines of a text the elements of an array. -/
def runTable (arguments : List Octets) : Exec Unit := do
  let (options, names) ←
    Letters.take ⟨['t'], ['d', 'n', 'O', 's', 'u', 'C', 'c']⟩ arguments
  let value? (c : Char) : Option Octets := (options.reverse.find? (·.1 == c)).map Prod.snd
  let number (c : Char) : Exec (Option Nat) :=
    match value? c with
    | none => pure none
    | some text =>
      match natural? text with
      | some n => pure (some n)
      | none => failWith 1 (text ++ ": invalid number".toList)
  let most ← number 'n'
  let start ← number 'O'
  let passed ← number 's'
  let name := names.headD "MAPFILE".toList
  if !isName name then failWith 1 ('`' :: name ++ "': not a valid identifier".toList)
  let mark := match value? 'd' with
    | some [] => '\x00'
    | some (c :: _) => c
    | none => '\n'
  let (n, left) ← leftOf ((value? 'u').getD ['0'])
  let all := records mark left
  let taken := all.drop (passed.getD 0)
  let (own, after) := match most.filter (0 < ·) with
    | some most => (taken.take most, taken.drop most)
    | none => (taken, [])
  modify (·.giveBack n after.flatten)
  let trims := (options.lookup 't').isSome
  let values := own.map fun record =>
    if trims && record.getLast? == some mark then record.dropLast else record
  let items : List Given := values.zipIdx.map fun (value, i) =>
    (some (decimal (i + start.getD 0)), false, value)
  let worked ← Declaring.tolerating (storeTable name false start.isSome items)
  setStatus (if worked then 0 else 1)

end Fleet.Shell.Reading
