import Fleet.Awk.Machine
import Fleet.Awk.Parser

/-!
# What expressions and statements do

Expressions and statements work on a running program. The fuel bounds how deep they are and how many
rounds loops have; a program that goes on for longer ends.
-/

namespace Fleet.Awk

open Shell (Start)
open Tools (Regex)

/-- What the steps of a program need to know. -/
structure Setting : Type where
  script : Script
  /-- How commands are started. -/
  start : Start

namespace Run

/-! ## Texts -/

/-- A replacement with what has been matched in the place of each `&`. -/
def filled (matched : Octets) : Octets → Octets
  | [] => []
  | '\\' :: '&' :: rest => '&' :: filled matched rest
  | '\\' :: '\\' :: rest => '\\' :: filled matched rest
  | '&' :: rest => matched ++ filled matched rest
  | c :: rest => c :: filled matched rest

/-- A text from a position on with its matches replaced, and how many there are; at most as many as
given. Right behind a match nothing empty is replaced. -/
def replaced (r : Regex) (new : Octets) (text : Array Char) (all : Bool) :
    Nat → Nat → Option Nat → Octets × Nat
  | 0, start, _ => ((text.extract start text.size).toList, 0)
  | n + 1, start, before =>
    let fits (i j : Nat) : Bool := !(i = j && before == some i)
    match Tools.Regex.findWith? Pattern.dialect r fits text start with
    | none => ((text.extract start text.size).toList, 0)
    | some (i, j, _) =>
      let own := (text.extract start i).toList ++ filled (text.extract i j).toList new
      if !all then (own ++ (text.extract j text.size).toList, 1)
      else if i < j then
        let (rest, count) := replaced r new text all n j (some j)
        (own ++ rest, count + 1)
      else
        if text.size ≤ j then (own, 1)
        else
          let (rest, count) := replaced r new text all n (j + 1) none
          (own ++ (text.extract j (j + 1)).toList ++ rest, count + 1)

/-- The moment that six numbers tell: a year, a month, a day, and a time of day; each may be more
than usual. -/
def momentOf (zone : Calendar.Zone) (t : Octets) : Int :=
  let number? (word : Octets) : Option Int :=
    if word.any Char.isDigit then some (toInteger (Value.text word).toNumber) else none
  match (((t.splitOn ' ').filter (!·.isEmpty)).take 6).mapM number? with
  | some [year, month, day, hour, minute, second] =>
    (Calendar.monthStart year month + day - 1) * 86400 + hour * 3600 + minute * 60 + second -
      zone.offset
  | _ => -1

/-- The part of a text from a place on, of some length. Places in front of the text make the part
longer. -/
def part (text : Octets) (start : Float) (length : Option Float) : Octets :=
  let first := toInteger start
  let before := (max first 1 - 1).toNat
  match length with
  | none => text.drop before
  | some length => (text.drop before).take (toInteger length - min first 0).toNat

/-- The place of a text in another one, counted from 1; 0 if it is not there. -/
def placeOf (inner : Octets) : Nat → Octets → Nat
  | n, text =>
    if inner.isPrefixOf text then n
    else
      match text with
      | [] => 0
      | _ :: rest => placeOf inner (n + 1) rest

/-- Whether a text has a match. -/
def isMatch (r : Regex) (text : Octets) : Bool :=
  (find? r text.toArray 0).isSome

/-- The next arbitrary number from 0 to 1. -/
def arbitrary : Run Float := do
  let m ← get
  let seed := (m.seed * 1103515245 + 12345) % 0x80000000
  set { m with seed }
  pure (Float.ofNat seed / Float.ofNat 0x80000000)

/-- The key that a value is as an index. -/
def keyOf (v : Value) : Run Key := do
  match v with
  | .number x =>
    let n := toInteger x
    if Float.ofInt n == x then pure (.number n) else do pure (.text (← text v))
  | v => do pure (.text (← text v))

/-- A sequence of values as the index of a table. -/
def keyOfAll (values : List Value) : Run Key := do
  match values with
  | [v] => keyOf v
  | values => do
    let between ← specialText "SUBSEP"
    pure (.text (List.intercalate between (← values.mapM text)))

/-- Reads a line into a place, or makes it the record; `assign` gives the place its value. -/
def takeLine (counts : Bool) (line : Octets) (assign : Option (Value → Run Unit)) : Run Unit := do
  if counts then countRecord
  match assign with
  | some assign => assign (.input line)
  | none => setRecord line

/-- The values that parameters are given: those that there are, and nothing for the others. -/
def frameOf : List Octets → List Slot → List (Octets × Slot)
  | [], _ => []
  | name :: names, [] => (name, .value .unset) :: frameOf names []
  | name :: names, s :: rest => (name, s) :: frameOf names rest

/-- Values in a format. What was written before a mistake is dealt with as given. -/
def formatted (function : String) (before : Octets → Run Unit) (pattern : Value)
    (rest : List Value) : Run Octets := do
  let pattern ← text pattern
  let convert ← specialText "CONVFMT"
  match format (Value.toText convert) pattern rest with
  | (written, none) => pure written
  | (written, some fault) => do
    before written
    failAtRecord (fault.message function pattern)

mutual

/-- The value of an expression. -/
def value (g : Setting) : Nat → Expression → Run Value
  | 0, _ => fail "out of time".toList
  | n + 1, e => do
    match e with
    | .number x => pure (.number x)
    | .text octets => pure (.text octets)
    | .regex r => do pure (.ofBool (isMatch r (← get).record))
    | .value place | .plain place => read g n place
    | .assign place none new => do
      let v ← value g n new
      write g n place v
      pure v
    | .assign place (some operation) new => do
      let right ← value g n new
      let left ← read g n place
      let v := Value.number (operation.apply left.toNumber right.toNumber)
      write g n place v
      pure v
    | .step place up before => do
      let old := (← read g n place).toNumber
      let new := if up then old + 1 else old - 1
      write g n place (.number new)
      pure (.number (if before then old else new))
    | .operate operation left right => do
      let x := (← value g n left).toNumber
      let y := (← value g n right).toNumber
      pure (.number (operation.apply x y))
    | .plus inner => do pure (.number (← value g n inner).toNumber)
    | .minus inner => do pure (.number (-(← value g n inner).toNumber))
    | .negation inner => do pure (.ofBool (!(← value g n inner).holds))
    | .compare relation left right => do
      let a ← value g n left
      let b ← value g n right
      pure (.ofBool (relation.holds (← specialText "CONVFMT") a b))
    | .join left right => do
      let a ← text (← value g n left)
      let b ← text (← value g n right)
      pure (.text (a ++ b))
    | .matching holds subject pattern => do
      let subject ← text (← value g n subject)
      let r ← regex g n pattern
      pure (.ofBool (isMatch r subject == holds))
    | .both left right => do
      if !(← value g n left).holds then pure (.ofBool false)
      else do pure (.ofBool (← value g n right).holds)
    | .either left right => do
      if (← value g n left).holds then pure (.ofBool true)
      else do pure (.ofBool (← value g n right).holds)
    | .choice condition first second => do
      if (← value g n condition).holds then value g n first else value g n second
    | .contains indices name => do
      let key ← keyOfAll (← values g n indices)
      let number ← tableOf name
      let (found, t) := (← table number).look false key
      setTable number t
      pure (.ofBool found)
    | .call name arguments => call g n name arguments
    | .apply function arguments => apply g n function arguments
    | .read source place => readLine g n source place

/-- The values of expressions. -/
def values (g : Setting) : Nat → List Expression → Run (List Value)
  | 0, _ => fail "out of time".toList
  | _, [] => pure []
  | n + 1, e :: rest => do
    let v ← value g n e
    pure (v :: (← values g n rest))

/-- The regular expression that an expression stands for. -/
def regex (g : Setting) : Nat → Expression → Run Regex
  | 0, _ => fail "out of time".toList
  | n + 1, e => do
    match e with
    | .regex r => pure r
    | e => do regexOf (← text (← value g n e))

/-- The value of a place. -/
def read (g : Setting) : Nat → Place → Run Value
  | 0, _ => fail "out of time".toList
  | n + 1, place => do
    match place with
    | .named name => variableValue name
    | .element name indices => do
      let key ← keyOfAll (← values g n indices)
      let number ← tableOf name
      let (v, t) := (← table number).get key
      setTable number t
      pure v
    | .field index => do field (toInteger (← value g n index).toNumber)

/-- Gives a place a value. -/
def write (g : Setting) : Nat → Place → Value → Run Unit
  | 0, _, _ => fail "out of time".toList
  | n + 1, place, v => do
    match place with
    | .named name => assign name v
    | .element name indices => do
      let key ← keyOfAll (← values g n indices)
      let number ← tableOf name
      setTable number ((← table number).set key v)
    | .field index => do setField (toInteger (← value g n index).toNumber) v

/-- Reads a line; the value says whether there was one. -/
def readLine (g : Setting) : Nat → Source → Option Place → Run Value
  | 0, _, _ => fail "out of time".toList
  | n + 1, source, place => do
    let assign := place.map fun place => write g n place
    match source with
    | .records => do
      match ← nextRecord n with
      | none => pure (.number 0)
      | some line => do
        takeLine true line assign
        pure (.number 1)
    | .file path => do
      let path ← text (← value g n path)
      let (found, line) ← readFrom path do
        match ← contentOf path with
        | .ok content => pure (some (content, 0))
        | .error _ => pure none
      if found > 0 then takeLine false line assign
      pure (.number found)
    | .command command => do
      let command ← text (← value g n command)
      let (found, line) ← readFrom command (outputOf g.start command)
      if found > 0 then takeLine false line assign
      pure (.number found)

/-- What a parameter is given for an argument: a table may still be made of a name without a value.
-/
def passed (g : Setting) : Nat → Expression → Run Slot
  | 0, _ => fail "out of time".toList
  | n + 1, e => do
    match e with
    | .value (.named name) =>
      match ← slot name with
      | .value .unset => do
        if name = "NF".toList then pure (.value (← value g n e))
        else
          let number ← newTable
          setSlot name (.undecided number)
          pure (.undecided number)
      | .value _ => do pure (.value (← value g n e))
      | s => pure s
    | e => do pure (.value (← value g n e))

/-- What all parameters are given. -/
def passedAll (g : Setting) : Nat → List Expression → Run (List Slot)
  | 0, _ => fail "out of time".toList
  | _, [] => pure []
  | n + 1, e :: rest => do
    let s ← passed g n e
    pure (s :: (← passedAll g n rest))

/-- Calls a function of the program. -/
def call (g : Setting) : Nat → Octets → List Expression → Run Value
  | 0, _, _ => fail "out of time".toList
  | n + 1, name, arguments => do
    let slots ← passedAll g n arguments
    match g.script.definitions.find? (·.name == name) with
    | none => pure .unset
    | some d => do
      modify fun m => { m with frames := frameOf d.parameters slots :: m.frames }
      let result ← tryCatch (do
        execAll g n d.body
        pure Value.unset) fun
        | .giveBack v => pure v
        | leave => throw leave
      modify fun m => { m with frames := m.frames.tail }
      pure result

/-- The value of a function that is always there. -/
def apply (g : Setting) : Nat → Function → List Expression → Run Value
  | 0, _, _ => fail "out of time".toList
  | n + 1, function, arguments => do
    let numeric (f : Float → Float) : Run Value := do
      match ← values g n arguments with
      | v :: _ => pure (.number (f v.toNumber))
      | [] => pure (.number 0)
    let textual (f : Octets → Run Value) : Run Value := do
      match ← values g n arguments with
      | v :: _ => do f (← text v)
      | [] => f []
    match function, arguments with
    | .sin, _ => numeric Float.sin
    | .cos, _ => numeric Float.cos
    | .exp, _ => numeric Float.exp
    | .log, _ => numeric Float.log
    | .sqrt, _ => numeric Float.sqrt
    | .int, _ => numeric truncated
    | .atan2, _ => do
      match ← values g n arguments with
      | [y, x] => pure (.number (Float.atan2 y.toNumber x.toNumber))
      | _ => pure .unset
    | .rand, _ => do pure (.number (← arbitrary))
    | .srand, _ => do
      let new ← values g n arguments
      let m ← get
      let seed := new.headD (.number 0)
      set { m with seed := (toInteger seed.toNumber).natAbs, seedShown := seed }
      pure m.seedShown
    | .tolower, _ => textual fun t => pure (.text (t.map Char.toLower))
    | .toupper, _ => textual fun t => pure (.text (t.map Char.toUpper))
    | .length, [] => do pure (.ofNat (← get).record.length)
    | .length, [.value (.named name)] => do
      match ← slot name with
      | .table number => do pure (.ofNat (← table number).count)
      | .undecided number => do pure (.ofNat (← table number).count)
      | .value v =>
        if name = "NF".toList then textual fun t => pure (.ofNat t.length)
        else do pure (.ofNat (← text v).length)
    | .length, _ => textual fun t => pure (.ofNat t.length)
    | .substr, _ => do
      match ← values g n arguments with
      | [t, start] => do pure (.text (part (← text t) start.toNumber none))
      | [t, start, length] => do
        pure (.text (part (← text t) start.toNumber (some length.toNumber)))
      | _ => pure .unset
    | .index, _ => do
      match ← values g n arguments with
      | [t, inner] => do pure (.ofNat (placeOf (← text inner) 1 (← text t)))
      | _ => pure .unset
    | .locate, [t, pattern] => do
      let t ← text (← value g n t)
      let r ← regex g n pattern
      let (place, length) : Nat × Int :=
        match find? r t.toArray 0 with
        | some (i, j) => (i + 1, (j : Int) - i)
        | none => (0, -1)
      setSpecial "RSTART" (.ofNat place)
      setSpecial "RLENGTH" (.number (Float.ofInt length))
      pure (.ofNat place)
    | .split, t :: .value (.named name) :: rest => do
      let t ← text (← value g n t)
      let separator ←
        match rest with
        | [] => do separatorOf (← specialText "FS")
        | .regex r :: _ => pure (Separator.regex r)
        | e :: _ => do separatorOf (← text (← value g n e))
      let parts := fieldsOf separator t
      setTable (← tableOf name) (Table.ofParts parts)
      pure (.ofNat parts.length)
    | .sub, pattern :: new :: rest => replace g n false pattern new rest.head?
    | .gsub, pattern :: new :: rest => replace g n true pattern new rest.head?
    | .sprintf, _ => do
      match ← values g n arguments with
      | pattern :: rest => do pure (.text (← formatted "sprintf" (fun _ => pure ()) pattern rest))
      | [] => pure .unset
    | .system, _ => textual fun command => do pure (.ofNat (← runCommand g.start command))
    | .close, _ => textual fun name => do pure (.number (← close g.start name))
    | .fflush, _ => do
      let _ ← values g n arguments
      flushAll
      pure (.number 0)
    | .systime, _ => do
      let p ← lifted get
      pure (.ofNat (p.clock / 1000000))
    | .mktime, _ => textual fun t => do
      pure (.number (Float.ofInt (momentOf (← lifted get).zone t)))
    | .strftime, _ => do
      let p ← lifted get
      let given ← values g n arguments
      let format ← match given with
        | format :: _ => text format
        | [] => pure []
      let t : Calendar.Instant := match given with
        | _ :: seconds :: _ => ⟨toInteger seconds.toNumber, 0⟩
        | _ => p.now
      let universal := match given with
        | [_, _, choice] => choice.holds
        | _ => false
      let zone := if universal then .universal else p.zone
      pure (.text ((t.reading zone).display (if format.isEmpty then "%c".toList else format)))
    | .locate, _ | .split, _ | .sub, _ | .gsub, _ => do
      let _ ← values g n arguments
      pure .unset

/-- Replaces matches in a place, or in the record; gives how many there are. -/
def replace (g : Setting) : Nat → Bool → Expression → Expression → Option Expression → Run Value
  | 0, _, _, _, _ => fail "out of time".toList
  | n + 1, all, pattern, new, target => do
    let r ← regex g n pattern
    let new ← text (← value g n new)
    let place := match target with
      | some (.value place) => place
      | _ => .field (.number 0)
    let t ← text (← read g n place)
    let (written, count) := replaced r new t.toArray all (t.length + 1) 0 none
    if count ≠ 0 then write g n place (.text written)
    pure (.ofNat count)

/-- Does what a statement says. -/
def exec (g : Setting) : Nat → Statement → Run Unit
  | 0, _ => fail "out of time".toList
  | n + 1, s => do
    match s with
    | .expression e => do
      let _ ← value g n e
    | .print all outlet => do
      let texts ←
        match all with
        | [] => do pure [(← get).record]
        | all => do
          let pattern ← specialText "OFMT"
          pure ((← values g n all).map (Value.toText pattern))
      let line := List.intercalate (← specialText "OFS") texts ++ (← specialText "ORS")
      printAt g n outlet line
    | .printFormatted all outlet => do
      match ← values g n all with
      | pattern :: rest => do
        let written ← formatted "printf" print pattern rest
        printAt g n outlet written
      | [] => pure ()
    | .block all => execAll g n all
    | .branch condition first second => do
      if (← value g n condition).holds then exec g n first
      else
        match second with
        | some second => exec g n second
        | none => pure ()
    | .loop condition body => do rounds g n (some condition) none body
    | .loopAfter body condition => do
      if ← runRound g n body then rounds g n (some condition) none body
    | .count start condition step body => do
      match start with
      | some e => do
        let _ ← value g n e
      | none => pure ()
      rounds g n condition step body
    | .forEach name keyed body => do
      let number ← tableOf keyed
      let (keys, t) := (← table number).keys
      setTable number t
      each g n name keys body
    | .delete name none => do setTable (← tableOf name) {}
    | .delete name (some indices) => do
      let key ← keyOfAll (← values g n indices)
      let number ← tableOf name
      setTable number ((← table number).erase key)
    | .breakOff => throw .breakOff
    | .goOn => throw .goOn
    | .next => throw .next
    | .nextFile => throw .nextFile
    | .exit code => do
      match code with
      | some e => do
        let v ← value g n e
        modify fun m => { m with code := ((toInteger v.toNumber) % 256).toNat }
      | none => pure ()
      throw .exit
    | .giveBack none => throw (.giveBack .unset)
    | .giveBack (some e) => do throw (.giveBack (← value g n e))

/-- Does what statements say, one after the other. -/
def execAll (g : Setting) : Nat → List Statement → Run Unit
  | 0, _ => fail "out of time".toList
  | _, [] => pure ()
  | n + 1, s :: rest => do
    exec g n s
    execAll g n rest

/-- A round of a loop; says whether the loop goes on. -/
def runRound (g : Setting) : Nat → Statement → Run Bool
  | 0, _ => fail "out of time".toList
  | n + 1, body =>
    tryCatch (do
      exec g n body
      pure true) fun
      | .breakOff => pure false
      | .goOn => pure true
      | leave => throw leave

/-- The rounds of a loop while a condition holds, with a step after each. -/
def rounds (g : Setting) : Nat → Option Expression → Option Expression → Statement → Run Unit
  | 0, _, _, _ => fail "out of time".toList
  | n + 1, condition, step, body => do
    let holds ←
      match condition with
      | some e => do pure (← value g n e).holds
      | none => pure true
    if holds then
      if ← runRound g n body then
        match step with
        | some e => do
          let _ ← value g n e
        | none => pure ()
        rounds g n condition step body

/-- A round for each key. -/
def each (g : Setting) : Nat → Octets → List Octets → Statement → Run Unit
  | 0, _, _, _ => fail "out of time".toList
  | _, _, [], _ => pure ()
  | n + 1, name, key :: rest, body => do
    assign name (.text key)
    if ← runRound g n body then each g n name rest body

/-- Prints text where a statement says. -/
def printAt (g : Setting) : Nat → Outlet → Octets → Run Unit
  | 0, _, _ => fail "out of time".toList
  | n + 1, outlet, line => do
    match outlet with
    | .usual => print line
    | .file keeps path => do
      let path ← text (← value g n path)
      printTo path (some (if keeps then .append else .fresh)) line
    | .command command => do
      let command ← text (← value g n command)
      printTo command none line

end

/-- Whether a rule applies to the record. -/
def applies (g : Setting) (fuel : Nat) : Pattern → Run Bool
  | .start | .finish => pure false
  | .always => pure true
  | .when condition => do pure (← value g fuel condition).holds
  | .between number first last => do
    let inside := (← get).inside.contains number
    let begins ← if inside then pure true else do pure (← value g fuel first).holds
    if !begins then pure false
    else
      let ends := (← value g fuel last).holds
      modify fun m =>
        let others := m.inside.filter (· != number)
        { m with inside := if ends then others else number :: others }
      pure true

/-- Does what the rules say about the record. -/
def perform (g : Setting) (fuel : Nat) : Run Unit :=
  g.script.rules.forM fun rule => do
    if ← applies g fuel rule.pattern then
      match rule.action with
      | some all => execAll g fuel all
      | none => exec g fuel (.print [] .usual)

/-- Goes through the records of the input. -/
def performAll (g : Setting) (fuel : Nat) : Nat → Run Unit
  | 0 => fail "out of time".toList
  | n + 1 => do
    match ← nextRecord fuel with
    | none => pure ()
    | some line => do
      takeLine true line none
      tryCatch (perform g fuel) fun
        | .next => pure ()
        | .nextFile => modify fun m => { m with input := none }
        | leave => throw leave
      performAll g fuel n

/-- Does what the rules for the start or the end say. -/
def performAt (g : Setting) (fuel : Nat) (isMeant : Pattern → Bool) : Run Unit :=
  g.script.rules.forM fun rule =>
    if isMeant rule.pattern then execAll g fuel (rule.action.getD []) else pure ()

/-- Runs a program; its code is in the machine afterwards. -/
def whole (g : Setting) (fuel : Nat) : Run Unit := do
  let isStart : Pattern → Bool
    | .start => true
    | _ => false
  let isFinish : Pattern → Bool
    | .finish => true
    | _ => false
  let reads := g.script.rules.any fun rule => !isStart rule.pattern
  let body : Run Unit := do
    performAt g fuel isStart
    if reads then performAll g fuel fuel
  let fatal ← tryCatch (do
    body
    pure false) fun
    | .exit => pure false
    | .fatal => pure true
    | _ => pure false
  if !fatal then
    tryCatch (performAt g fuel isFinish) fun _ => pure ()
  closeAll g.start

end Run

end Fleet.Awk
