import Fleet.Awk.Values
import Fleet.Shell.Wrappers

/-!
# Running programs

What a running program has: its names, the record with its fields, the input, and the files and
commands that it reads from and writes to. What is printed is kept back until something else could
print, or the program ends.
-/

namespace Fleet.Awk

open Shell (Exec Process Start inCopy captured)
open Tools (Regex)

/-- What a name stands for. -/
inductive Slot : Type where
  | value (v : Value)
  | table (number : Nat)
  /-- Nothing yet; if it is used as a table, as that one. -/
  | undecided (number : Nat)

/-- How the fields of a text are told apart. -/
inductive Separator : Type where
  | blanks
  /-- Every octet is a field. -/
  | octets
  | regex (r : Regex)
  deriving Repr

/-- What is being read from besides the input. -/
structure Opened : Type where
  name : Octets
  rest : Octets
  /-- What closing it gives. -/
  code : Nat

/-- What is being written to. -/
structure Writer : Type where
  name : Octets
  /-- The descriptor of a file; a command has none until it is run. -/
  descriptor : Option Nat
  /-- What is kept back, the latest first. -/
  pending : List Octets

/-- A running program. -/
structure Machine : Type where
  globals : Std.HashMap Octets Slot := {}
  /-- The names of the functions that are being called, the innermost first. -/
  frames : List (List (Octets × Slot)) := []
  tables : Std.HashMap Nat Table := {}
  nextTable : Nat := 0
  record : Octets := []
  /-- The fields of the record; none until they are needed. -/
  fields : Option (Array Value) := none
  /-- How the fields are told apart, with the text that says so. -/
  separator : Octets × Separator := ([' '], .blanks)
  /-- What is left of the file that is read as input. -/
  input : Option Octets := none
  /-- The number of the argument that comes next. -/
  operand : Nat := 1
  /-- Whether a file was among the arguments. -/
  opened : Bool := false
  /-- Whether the input is over. -/
  finished : Bool := false
  readers : List Opened := []
  writers : List Writer := []
  /-- What is kept back of the output, the latest first. -/
  pending : List Octets := []
  /-- The rules that go on until their last record. -/
  inside : List Nat := []
  code : Nat := 0
  /-- What the next arbitrary number is made from. -/
  seed : Nat := 0
  seedShown : Value := .number 0

/-- What ends a statement early. -/
inductive Leave : Type where
  | breakOff
  | goOn
  | next
  | nextFile
  | giveBack (v : Value)
  /-- The program is over; its code is known. -/
  | exit
  /-- A mistake ends the program at once. -/
  | fatal

/-- A step of a program. -/
abbrev Run : Type → Type :=
  ExceptT Leave (StateT Machine Exec)

namespace Run

/-- A step of the process that the program runs in. -/
def lift {α : Type} (step : Exec α) : Run α :=
  fun m => do pure (.ok (← step), m)

/-- Something that is said or done without failing. -/
def lifted {α : Type} (step : StateM Process α) : Run α :=
  lift (liftM step)

/-- Ends the program with a message. -/
def fail {α : Type} (message : Octets) : Run α := do
  lifted (Tools.fault message)
  modify fun m => { m with code := 2 }
  throw .fatal

/-! ## Names -/

/-- What a name stands for. -/
def slot (name : Octets) : Run Slot := do
  let m ← get
  match (m.frames.headD []).lookup name with
  | some s => pure s
  | none => pure ((m.globals[name]?).getD (.value .unset))

/-- Lets a name stand for something. -/
def setSlot (name : Octets) (s : Slot) : Run Unit :=
  modify fun m =>
    match m.frames with
    | frame :: rest =>
      if (frame.lookup name).isSome then
        { m with frames := (frame.map fun (n, old) => (n, if n == name then s else old)) :: rest }
      else { m with globals := m.globals.insert name s }
    | [] => { m with globals := m.globals.insert name s }

/-- The number of a new table. -/
def newTable : Run Nat := do
  let m ← get
  set { m with nextTable := m.nextTable + 1 }
  pure m.nextTable

/-- The number of the table that a name stands for. -/
def tableOf (name : Octets) : Run Nat := do
  match ← slot name with
  | .table number => pure number
  | .undecided number => do
    setSlot name (.table number)
    pure number
  | .value _ => do
    let number ← newTable
    setSlot name (.table number)
    pure number

/-- A table. -/
def table (number : Nat) : Run Table := do
  pure (((← get).tables[number]?).getD {})

/-- Replaces a table. -/
def setTable (number : Nat) (t : Table) : Run Unit :=
  modify fun m => { m with tables := m.tables.insert number t }

/-- The value of a name that has a meaning of its own. -/
def special (name : String) : Run Value := do
  match (← get).globals[name.toList]? with
  | some (.value v) => pure v
  | _ => pure .unset

/-- Gives a name with a meaning of its own a value. -/
def setSpecial (name : String) (v : Value) : Run Unit :=
  modify fun m => { m with globals := m.globals.insert name.toList (.value v) }

/-- The text of a value. -/
def text (v : Value) : Run Octets := do
  match v with
  | .number x =>
    match whole? x with
    | some _ => pure (v.toText [])
    | none => do pure (v.toText ((← special "CONVFMT").toText []))
  | v => pure (v.toText [])

/-- The text of a name that has a meaning of its own. -/
def specialText (name : String) : Run Octets := do
  text (← special name)

/-- Ends the program because of a mistake while it runs. -/
def failAtRecord {α : Type} (message : Octets) : Run α := do
  let file ← specialText "FILENAME"
  let inFile ← text (.number (← special "FNR").toNumber)
  let all ← text (.number (← special "NR").toNumber)
  fail ("run time error: ".toList ++ message ++ "\n\tFILENAME=\"".toList ++ file ++
    "\" FNR=".toList ++ inFile ++ " NR=".toList ++ all)

/-- The regular expression that a text is. -/
def regexOf (source : Octets) : Run Regex := do
  match Pattern.parse source with
  | .ok r => pure r
  | .error fault => fail (TextFault.message 1 (.badRegex source fault))

/-! ## Fields -/

/-- The separator that a text stands for. A single octet stands for itself. -/
def separatorOf (source : Octets) : Run Separator := do
  match source with
  | [] => pure .octets
  | [' '] => pure .blanks
  | [c] => pure (.regex (.octet c))
  | source => do pure (.regex (← regexOf source))

/-- The parts of a text between matches that are not empty, at most as many as given. -/
def partsBetween (r : Regex) (text : Array Char) : Nat → Nat → List Octets
  | 0, start => [(text.extract start text.size).toList]
  | n + 1, start =>
    let match? := Tools.Regex.findWith? Pattern.dialect r (fun i j => i < j) text start
    match match? with
    | none => [(text.extract start text.size).toList]
    | some (i, j, _) => (text.extract start i).toList :: partsBetween r text n j

/-- The words of a text. -/
def wordsOf : Nat → Octets → List Octets
  | 0, _ => []
  | n + 1, text =>
    match text.dropWhile isBlank with
    | [] => []
    | start =>
      let word := start.takeWhile (!isBlank ·)
      word :: wordsOf n (start.drop word.length)

/-- The fields of a text. -/
def fieldsOf (separator : Separator) (text : Octets) : List Octets :=
  if text.isEmpty then []
  else
    match separator with
    | .blanks => wordsOf text.length text
    | .octets => text.map fun c => [c]
    | .regex (.octet c) => text.splitOn c
    | .regex r => partsBetween r text.toArray text.length 0

/-- The fields of the record. -/
def fields : Run (Array Value) := do
  let m ← get
  match m.fields with
  | some all => pure all
  | none => do
    let source ← specialText "FS"
    let own ←
      if source == m.separator.1 then pure m.separator.2
      else do
        let own ← separatorOf source
        modify fun m => { m with separator := (source, own) }
        pure own
    let all := ((fieldsOf own m.record).map Value.input).toArray
    modify fun m => { m with fields := some all }
    pure all

/-- Replaces the record. -/
def setRecord (record : Octets) : Run Unit :=
  modify fun m => { m with record, fields := none }

/-- Replaces the fields, and with them the record. -/
def setFields (all : Array Value) : Run Unit := do
  let between ← specialText "OFS"
  let texts ← all.toList.mapM text
  modify fun m => { m with fields := some all, record := List.intercalate between texts }

/-- A field; the record itself is the one before the first. -/
def field (index : Int) : Run Value := do
  if index < 0 then failAtRecord ("negative field index $".toList ++ integerText index)
  else if index = 0 then pure (.input (← get).record)
  else pure (((← fields)[(index - 1).toNat]?).getD .unset)

/-- Fields with more of them, without a value. -/
def padded (all : Array Value) (count : Nat) : Array Value :=
  all ++ Array.replicate (count - all.size) (.text [])

/-- Gives a field a value. -/
def setField (index : Int) (v : Value) : Run Unit := do
  if index < 0 then failAtRecord ("negative field index $".toList ++ integerText index)
  else if index = 0 then setRecord (← text v)
  else
    let place := (index - 1).toNat
    setFields ((padded (← fields) (place + 1)).set! place v)

/-- The value of a name. -/
def variableValue (name : Octets) : Run Value := do
  match ← slot name with
  | .value v =>
    if name = "NF".toList then do pure (.ofNat (← fields).size) else pure v
  | .table _ | .undecided _ => pure .unset

/-- Gives a name a value. -/
def assign (name : Octets) (v : Value) : Run Unit := do
  if name = "NF".toList then
    let count := toInteger v.toNumber
    if count < 0 then failAtRecord "negative value assigned to NF".toList
    let all ← fields
    setFields ((padded all count.toNat).extract 0 count.toNat)
  else
    -- The record is still divided as it was when it was read.
    if name = "FS".toList then
      let _ ← fields
    setSlot name (.value v)

/-! ## Printing -/

/-- Writes what was kept back of the output. -/
def flushOutput : Run Unit := do
  let m ← get
  if !m.pending.isEmpty then
    set { m with pending := [] }
    lifted (Shell.say m.pending.reverse.flatten)

/-- Writes what was kept back for a file. -/
def flushWriter (w : Writer) : Run Writer := do
  match w.descriptor with
  | some descriptor => do
    lifted (modify (·.write descriptor w.pending.reverse.flatten))
    pure { w with pending := [] }
  | none => pure w

/-- Writes everything that was kept back for files and the output. -/
def flushAll : Run Unit := do
  flushOutput
  let writers ← (← get).writers.mapM flushWriter
  modify fun m => { m with writers }

/-- The step that runs a command. -/
def commandStep (start : Start) (command : Octets) : Exec Unit :=
  start (fun e => e.description.toList) "/bin/sh".toList ["-c".toList, command]

/-- What the end of a command comes to: its code, or its signal and 256. -/
def codeOf (fate : Option Nat) (status : Nat) : Nat :=
  match fate with
  | some signal => 256 + signal
  | none => status

/-- Runs a command that goes on with the streams of the program. -/
def runCommand (start : Start) (command : Octets) : Run Nat := do
  flushAll
  let fate ← lift (inCopy (commandStep start command))
  pure (codeOf fate (← lifted get).status)

/-- Runs a command that reads what was printed for it. -/
def feed (start : Start) (command given : Octets) : Run Nat := do
  let fate ← lift (inCopy do
    modify (·.openStream 0 (.input given))
    commandStep start command)
  pure (codeOf fate (← lifted get).status)

/-- Closes what is written to; gives what that comes to. -/
def closeWriter (start : Start) (w : Writer) : Run Nat := do
  let w ← flushWriter w
  match w.descriptor with
  | some descriptor => do
    lifted (modify (Shell.closeDescriptor · descriptor))
    pure 0
  | none => feed start w.name w.pending.reverse.flatten

/-- Closes all that is written to, the latest first. -/
def closeAll (start : Start) : Run Unit := do
  (← get).writers.reverse.forM fun w => do
    let _ ← closeWriter start w
  flushOutput
  modify fun m => { m with writers := [] }

/-- The descriptors that files are written through. -/
def firstDescriptor : Nat :=
  100

/-- Prints text for a file or a command, which is opened first if it is not yet. -/
def printTo (name : Octets) (opening : Option Shell.Opening) (text : Octets) : Run Unit := do
  let m ← get
  if m.writers.any (·.name == name) then
    let more (w : Writer) : Writer :=
      if w.name == name then { w with pending := text :: w.pending } else w
    set { m with writers := m.writers.map more }
  else
    match opening with
    | none => do
      flushAll
      modify fun m => { m with writers := m.writers ++ [⟨name, none, [text]⟩] }
    | some opening => do
      let p ← lifted get
      match Process.descriptorNamed? name with
      | some 1 => modify fun m => { m with pending := text :: m.pending }
      | some descriptor => lifted (modify (·.write descriptor text))
      | none =>
        let used := m.writers.filterMap (·.descriptor)
        let descriptor := (used.foldl max firstDescriptor) + 1
        match Shell.openForWriting { p with options := [] } descriptor opening name with
        | .ok opened => do
          lifted (set { opened with options := p.options })
          modify fun m => { m with writers := m.writers ++ [⟨name, some descriptor, [text]⟩] }
        | .error e =>
          fail ("cannot open \"".toList ++ name ++ "\" for output (".toList ++
            e.description.toList ++ [')'])

/-- Prints text. -/
def print (text : Octets) : Run Unit :=
  modify fun m => { m with pending := text :: m.pending }

/-! ## Reading -/

/-- The first record of a text that is not empty, and what follows it. -/
def recordOf (separator text : Octets) : Run (Octets × Octets) := do
  match separator with
  | [c] =>
    let own := text.takeWhile (· ≠ c)
    pure (own, text.drop (own.length + 1))
  | [] => do
    let start := text.dropWhile (· == '\n')
    let (own, after) := paragraph start
    pure (own, after.dropWhile (· == '\n'))
  | source => do
    let r ← regexOf source
    let all := text.toArray
    match Tools.Regex.findWith? Pattern.dialect r (fun i j => i < j) all 0 with
    | some (i, j, _) => pure (text.take i, text.drop j)
    | none => pure (text, [])
where
  /-- The lines up to an empty one, and what follows them. -/
  paragraph : Octets → Octets × Octets
    | [] => ([], [])
    | ['\n'] => ([], [])
    | '\n' :: '\n' :: rest => ([], rest)
    | c :: rest =>
      let (own, after) := paragraph rest
      (c :: own, after)

/-- The content of a file, or of the input, which a hyphen stands for; none if it cannot be opened.
-/
def contentOf (path : Octets) : Run (Except OsError Octets) := do
  let p ← lifted get
  let isInput := path = ['-'] || Process.descriptorNamed? path = some 0
  let content : Except OsError Octets ←
    if isInput then
      match p.inputFault? with
      | some e => pure (.error e)
      | none => do
        let (text, p) := p.readAll 0
        lifted (set p)
        pure (.ok text)
    else pure (p.readFile path)
  match content with
  | .error .isDirectory => fail "read error (Is a directory)".toList
  | content => pure content

/-- The assignment that an argument is: a name and the text for it. -/
def assignmentOf? (argument : Octets) : Option (Octets × Octets) :=
  let name := argument.takeWhile isInName
  match argument.drop name.length with
  | '=' :: rest => if (name.head?).any startsName then some (name, textOf rest) else none
  | _ => none

/-- Opens the next file of the input; says whether there is one. -/
def openNext : Nat → Run Bool
  | 0 => pure false
  | n + 1 => do
    let m ← get
    let last := toInteger (← special "ARGC").toNumber
    if m.finished then pure false
    else if (m.operand : Int) < last then
      set { m with operand := m.operand + 1 }
      let number ← tableOf "ARGV".toList
      let t ← table number
      let key := Key.number m.operand
      if !(t.look false key).1 then openNext n
      else
        let (v, t) := t.get key
        setTable number t
        let argument ← text v
        if argument.isEmpty then openNext n
        else
          match assignmentOf? argument with
          | some (name, value) => do
            assign name (.input value)
            openNext n
          | none => openFile argument
    else if m.opened then
      set { m with finished := true }
      pure false
    else openFile ['-']
where
  /-- Opens a file as input. -/
  openFile (path : Octets) : Run Bool := do
    match ← contentOf path with
    | .ok content => do
      modify fun m => { m with input := some content, opened := true }
      setSpecial "FILENAME" (.text path)
      setSpecial "FNR" (.number 0)
      pure true
    | .error e =>
      fail ("cannot open \"".toList ++ path ++ "\" (".toList ++ e.description.toList ++ [')'])

/-- The next record of the input; none if it is over. -/
def nextRecord : Nat → Run (Option Octets)
  | 0 => pure none
  | n + 1 => do
    let between ← specialText "RS"
    let rest := (← get).input.map fun rest =>
      if between.isEmpty then rest.dropWhile (· == '\n') else rest
    match rest with
    | some (c :: rest) => do
      let (own, after) ← recordOf between (c :: rest)
      modify fun m => { m with input := some after }
      pure (some own)
    | some [] => do
      modify fun m => { m with input := none }
      nextRecord n
    | none => do
      if ← openNext (toInteger (← special "ARGC").toNumber).toNat.succ then nextRecord n
      else pure none

/-- Counts a record. -/
def countRecord : Run Unit := do
  setSpecial "NR" (.number ((← special "NR").toNumber + 1))
  setSpecial "FNR" (.number ((← special "FNR").toNumber + 1))

/-- The next record of something that is read from besides the input; -1 if it cannot be opened, and
0 if it is over. -/
def readFrom (name : Octets) (isOpen : Run (Option (Octets × Nat))) : Run (Float × Octets) := do
  let known := (← get).readers.find? (·.name == name)
  let reader : Option Opened ←
    match known with
    | some r => pure (some r)
    | none => do
      match ← isOpen with
      | none => pure none
      | some (text, code) => do
        let r : Opened := ⟨name, text, code⟩
        modify fun m => { m with readers := r :: m.readers }
        pure (some r)
  match reader with
  | none => pure (-1, [])
  | some r => do
    let between ← specialText "RS"
    let rest := if between.isEmpty then r.rest.dropWhile (· == '\n') else r.rest
    if rest.isEmpty then pure (0, [])
    else
      let (own, after) ← recordOf between rest
      modify fun m => { m with
        readers := m.readers.map fun r => if r.name == name then { r with rest := after } else r }
      pure (1, own)

/-- What a command prints, and the code it ends with. -/
def outputOf (start : Start) (command : Octets) : Run (Option (Octets × Nat)) := do
  flushAll
  let (text, fate) ← lift (captured (commandStep start command))
  pure (some (text, codeOf fate (← lifted get).status))

/-- Closes what has a name; gives what that comes to, or -1 if there is nothing of that name. -/
def close (start : Start) (name : Octets) : Run Float := do
  let m ← get
  match m.writers.find? (·.name == name), m.readers.find? (·.name == name) with
  | some w, _ => do
    modify fun m => { m with writers := m.writers.filter (·.name != name) }
    pure (Float.ofNat (← closeWriter start w))
  | none, some r => do
    modify fun m => { m with readers := m.readers.filter (·.name != name) }
    pure (Float.ofNat r.code)
  | none, none => pure (-1)

end Run

end Fleet.Awk
