import Fleet.Tools.Inputs

/-!
# Lines of two files that belong together

A tool that puts lines of two sorted files together if they have the same key, a field of the line.
-/

namespace Fleet.Tools

open Shell

namespace Joining

/-- A field of a line that is printed. -/
inductive Column : Type where
  /-- The key. -/
  | key
  /-- A field of a line of the first or the second file. -/
  | field (second : Bool) (place : Nat)
  deriving Repr, DecidableEq

/-- Whether it is checked that files are sorted. -/
inductive Checking : Type where
  /-- Once some line was found alone. -/
  | usual
  | always
  | never
  deriving Repr, DecidableEq

/-- How lines are put together. -/
structure Plan : Type where
  keys : Nat × Nat
  /-- What stands between fields; if there is nothing, white characters do. -/
  separator : Option Char
  foldsCase : Bool
  alone : Bool × Bool
  pairs : Bool
  columns : Option (List Column)
  /-- Whether as many fields are printed as the first lines have. -/
  automatic : Bool
  filler : Octets
  checking : Checking
  header : Bool
  mark : Char
  deriving Repr

/-- A line with its fields. -/
structure Line : Type where
  text : Octets
  fields : List Octets
  deriving Repr

/-- Whether a character stands between fields. -/
def isBetween (c : Char) : Bool :=
  c == ' ' || c == '\t' || c == '\n'

/-- The fields between white characters; at most the given number. -/
def looseFields : Nat → Octets → List Octets
  | 0, _ => []
  | n + 1, text =>
    let own := text.takeWhile fun c => !isBetween c
    match text.drop own.length with
    | [] => [own]
    | rest => own :: looseFields n (rest.dropWhile isBetween)

/-- A line with its fields. -/
def Plan.line (plan : Plan) (text : Octets) : Line :=
  match plan.separator with
  | some c => ⟨text, if text.isEmpty then [] else if c = '\n' then [text] else text.splitOn c⟩
  | none =>
    let start := text.dropWhile isBetween
    ⟨text, if start.isEmpty then [] else looseFields (text.length + 1) start⟩

/-- The order of two keys. -/
def compareKeys (foldsCase : Bool) (a b : Octets) : Ordering :=
  let fold (text : Octets) : Octets := if foldsCase then text.map Char.toUpper else text
  if fold a < fold b then .lt else if fold b < fold a then .gt else .eq

/-- The key of a line of the first or the second file. -/
def Plan.key (plan : Plan) (second : Bool) (line : Line) : Octets :=
  line.fields.getD (if second then plan.keys.2 else plan.keys.1) []

/-- What is printed for two lines, one of which may be missing. The numbers say how many fields the
first lines had. -/
def Plan.shown (plan : Plan) (counts : Nat × Nat) (a b : Option Line) : Octets :=
  let between := plan.separator.getD ' '
  let between := if between = '\n' then ' ' else between
  let field (line : Option Line) (place : Nat) : Octets :=
    match (line.bind fun l => l.fields[place]?).filter (!·.isEmpty) with
    | some text => text
    | none => plan.filler
  let key : Octets :=
    match a with
    | some _ => field a plan.keys.1
    | none => field b plan.keys.2
  let others (line : Option Line) (place count : Nat) : List Octets :=
    let count :=
      if plan.automatic then count else ((line.map fun l => l.fields.length).getD 0)
    ((List.range count).filter (· != place)).map (field line)
  let all := match plan.columns with
    | some columns => columns.map fun
      | .key => key
      | .field second place => field (if second then b else a) place
    | none => key :: others a plan.keys.1 counts.1 ++ others b plan.keys.2 counts.2
  joined [between] all ++ [plan.mark]

/-- A file that is gone through. -/
structure Side : Type where
  path : Octets
  lines : List Line
  before : Option Line := none
  number : Nat := 0
  warned : Bool := false
  deriving Repr

/-- How far two files have been gone through. -/
structure State : Type where
  first : Side
  second : Side
  /-- Whether some line was found alone. -/
  unpaired : Bool := false
  /-- How many fields the first lines had. -/
  counts : Nat × Nat := (0, 0)
  deriving Repr

/-- A step of the work, which a file that is not sorted may end. -/
abbrev Work : Type → Type :=
  ExceptT Unit (StateT State (StateM Process))

/-- The side of the first or the second file. -/
def State.side (s : State) (second : Bool) : Side :=
  if second then s.second else s.first

/-- The state with a side replaced. -/
def State.withSide (s : State) (second : Bool) (side : Side) : State :=
  if second then { s with second := side } else { s with first := side }

/-- Prints text. -/
def put (text : Octets) : Work Unit :=
  ((say text : StateM Process Unit) : StateT State (StateM Process) Unit)

/-- Reports something. -/
def report (message : Octets) : Work Unit :=
  ((fault message : StateM Process Unit) : StateT State (StateM Process) Unit)

/-- The next line of a file. -/
def Plan.next (plan : Plan) (second : Bool) : Work (Option Line) := do
  let s ← get
  let side := s.side second
  match side.lines with
  | [] => pure none
  | line :: rest =>
    let number := side.number + 1
    let checks := plan.checking = .always || (plan.checking = .usual && s.unpaired)
    let disordered := match side.before with
      | some before =>
        compareKeys plan.foldsCase (plan.key second before) (plan.key second line) == .gt
      | none => false
    let isBad := checks && !side.warned && disordered
    set (s.withSide second
      { side with lines := rest, before := some line, number, warned := side.warned || isBad })
    if isBad then
      report (Quoting.lead side.path ++ ':' :: decimal number ++ ": is not sorted: ".toList ++
        line.text)
      if plan.checking = .always then throw ()
    pure (some line)

/-- The lines from the next one on that have a key, and the one after them; at most the given
number. -/
def Plan.sameKey (plan : Plan) (second : Bool) (key : Octets) : Nat → Work (List Line × Option Line)
  | 0 => pure ([], none)
  | n + 1 => do
    match ← plan.next second with
    | none => pure ([], none)
    | some line =>
      if compareKeys plan.foldsCase (plan.key second line) key == .eq then
        let (lines, after) ← sameKey plan second key n
        pure (line :: lines, after)
      else pure ([], some line)

/-- Prints the line of one file alone, if that is wanted. -/
def Plan.single (plan : Plan) (second : Bool) (line : Line) : Work Unit := do
  let counts := (← get).counts
  if second then
    if plan.alone.2 then put (plan.shown counts none (some line))
  else if plan.alone.1 then put (plan.shown counts (some line) none)

/-- Goes through what is left of one file; at most the given number of lines. -/
def Plan.tail (plan : Plan) (second : Bool) : Nat → Option Line → Work Unit
  | 0, _ => pure ()
  | _, none => pure ()
  | n + 1, some line => do
    plan.single second line
    let wanted := if second then plan.alone.2 else plan.alone.1
    if wanted || !((← get).side second).warned then tail plan second n (← plan.next second)

/-- Goes through both files from two lines on; at most the given number of steps is made. -/
def Plan.merge (plan : Plan) : Nat → Option Line → Option Line → Work Unit
  | 0, _, _ => pure ()
  | n + 1, some a, some b => do
    let unpaired : Work Unit := modify fun s => { s with unpaired := true }
    match compareKeys plan.foldsCase (plan.key false a) (plan.key true b) with
    | .lt => do
      plan.single false a
      let next ← plan.next false
      unpaired
      merge plan n next (some b)
    | .gt => do
      plan.single true b
      let next ← plan.next true
      unpaired
      merge plan n (some a) next
    | .eq => do
      let s ← get
      let (more, afterFirst) ← plan.sameKey false (plan.key true b) (s.first.lines.length + 1)
      let (others, afterSecond) ← plan.sameKey true (plan.key false a) (s.second.lines.length + 1)
      if plan.pairs then
        (a :: more).forM fun x => (b :: others).forM fun y =>
          put (plan.shown s.counts (some x) (some y))
      merge plan n afterFirst afterSecond
  | _, a, b => do
    let s ← get
    let checks (warned : Bool) : Bool :=
      plan.checking ≠ .never && !(s.first.warned && s.second.warned) && !warned
    let goOn (second wanted : Bool) (line : Option Line) : Work Unit := do
      let side := (← get).side second
      if wanted || checks side.warned then plan.tail second (side.lines.length + 2) line
    let alone : Work Unit := modify fun s => { s with unpaired := true }
    if a.isSome && b.isSome then alone
    goOn false plan.alone.1 a
    goOn true plan.alone.2 b

/-- Goes through both files. -/
def Plan.run (plan : Plan) : Work Unit := do
  let a ← plan.next false
  let b ← plan.next true
  let count (line : Option Line) : Nat := (line.map fun l => l.fields.length).getD 0
  if plan.automatic then modify fun s => { s with counts := (count a, count b) }
  let s ← get
  let steps := s.first.lines.length + s.second.lines.length + 3
  if plan.header && (a.isSome || b.isSome) then
    let blank : Line := ⟨[], []⟩
    put (plan.shown s.counts (some (a.getD blank)) (some (b.getD blank)))
    set { s with first.before := none, second.before := none }
    let a ← if a.isSome then plan.next false else pure none
    let b ← if b.isSome then plan.next true else pure none
    plan.merge steps a b
  else plan.merge steps a b

/-- Puts the lines of two texts together. -/
def Plan.texts (plan : Plan) (first second : Octets × Octets) : StateM Process Nat := do
  let side (path text : Octets) : Side :=
    { path, lines := (recordsOf plan.mark text).map plan.line }
  let start : State := { first := side first.1 first.2, second := side second.1 second.2 }
  let (result, s) ← plan.run.run.run start
  match result with
  | .error _ => pure 1
  | .ok _ =>
    if s.first.warned || s.second.warned then
      fault "input is not in sorted order".toList
      pure 1
    else pure 0

/-! ## Options -/

/-- The place of a field. -/
def placeOf (text : Octets) : Except Octets Nat :=
  let n := number text
  if !text.isEmpty && text.all Char.isDigit && n ≠ 0 then .ok (n - 1)
  else .error ("invalid field number: ".toList ++ Quoting.value text)

/-- The column that a text names. -/
def columnOf (text : Octets) : Except Octets Column :=
  match text with
  | ['0'] => .ok .key
  | '0' :: _ => .error ("invalid field specifier: ".toList ++ Quoting.value text)
  | '1' :: '.' :: place => (placeOf place).map (.field false)
  | '2' :: '.' :: place => (placeOf place).map (.field true)
  | '1' :: _ | '2' :: _ => .error ("invalid field specifier: ".toList ++ Quoting.value text)
  | _ => .error ("invalid file number in field spec: ".toList ++ Quoting.value text)

/-- The columns that a list names. -/
def columnsOf (text : Octets) : Except Octets (List Column) :=
  ((text.splitBy fun a b => isEnd a == isEnd b).filter fun word => !word.any isEnd).mapM columnOf
where
  /-- Whether a character stands between names of columns. -/
  isEnd (c : Char) : Bool := c == ',' || c == ' ' || c == '\t'

/-- The places of the keys. -/
def keysOf (g : Given) : Except Octets (Nat × Nat) :=
  let step (state : Option Nat × Option Nat) (given : Char × Option Octets) :
      Except Octets (Option Nat × Option Nat) := do
    let (key, value) := given
    let join (old : Option Nat) (place : Nat) : Except Octets (Option Nat) :=
      match old with
      | some other =>
        if other = place && key ≠ 'j' then .ok old
        else
          .error ("incompatible join fields ".toList ++ decimal other ++ ", ".toList ++
            decimal (if other = place then place + 1 else place))
      | none => .ok (some place)
    if key = '1' || key = '2' || key = 'j' then
      let place ← placeOf (value.getD [])
      let first ← if key = '2' then pure state.1 else join state.1 place
      let second ← if key = '1' then pure state.2 else join state.2 place
      pure (first, second)
    else pure state
  (g.options.foldlM step (none, none)).map fun (a, b) => (a.getD 0, b.getD 0)

/-- The character that a text gives as the separator. -/
def separatorOf (text : Octets) : Except Octets Char :=
  match text with
  | [] => .ok '\n'
  | [c] => .ok c
  | ['\\', '0'] => .ok '\x00'
  | _ => .error ("multi-character tab ".toList ++ Quoting.value text)

/-- How lines are put together, by the options. -/
def planOf (g : Given) : Except Octets Plan := do
  let keys ← keysOf g
  let separator ← match g.value? 't' with
    | none => pure none
    | some text => (separatorOf text).map some
  let files ← (g.valuesOf 'a' ++ g.valuesOf 'v').mapM fun text =>
    if text = ['1'] || text = ['2'] then .ok text
    else .error ("invalid field number: ".toList ++ Quoting.value text)
  let lists := g.valuesOf 'o'
  let automatic := lists.any fun text => text == "auto".toList
  let columns ← if automatic || lists.isEmpty then pure none else
    (lists.mapM columnsOf).map fun all => some all.flatten
  pure
    { keys, separator, automatic, columns
      foldsCase := g.has 'i'
      alone := (files.contains ['1'], files.contains ['2'])
      pairs := !g.has 'v'
      filler := (g.value? 'e').getD []
      checking := match g.lastOf ['C', 'N'] with
        | some 'C' => .always
        | some _ => .never
        | none => .usual
      header := g.has 'H'
      mark := lineMark g }

end Joining

/-- Puts lines of two sorted files together that have the same key. -/
def join : Tool :=
  withOptions [valued '1', valued '2', valued 'j', valued 't', valued 'a', valued 'v', valued 'e',
    valued 'o', flag 'i' ["ignore-case"], flag 'z' ["zero-terminated"], named 'C' "check-order",
    named 'N' "nocheck-order", named 'H' "header"] fun g =>
  orFault (Joining.planOf g) fun plan =>
    match g.operands with
    | [] => refuse "missing operand"
    | [only] => do
      misuse ("missing operand after ".toList ++ Quoting.value only)
      pure 1
    | _ :: _ :: extra :: _ => do
      misuse ("extra operand ".toList ++ Quoting.value extra)
      pure 1
    | [first, second] => do
      if first = ['-'] && second = ['-'] then
        fault "both files cannot be standard input".toList
        return 1
      let failed (u : Unread) : StateM Process Nat := do
        fault ((if u.opened then "read error".toList else Quoting.lead u.path) ++ ": ".toList ++
          u.error.description.toList)
        pure 1
      match ← readSource first with
      | .error u => failed u
      | .ok a =>
        match ← readSource second with
        | .error u => failed u
        | .ok b => plan.texts (first, a) (second, b)

end Fleet.Tools
