import Fleet.Tools.Inputs

/-!
# Repeated lines

The tool `uniq`: of neighbouring lines that are the same it prints one, or only some of them. Fields
and octets at the start of lines may be left out of account.
-/

namespace Fleet.Tools

open Shell

namespace Repeats

/-- When neighbouring lines are the same. -/
structure Likeness : Type where
  fields : Nat
  octets : Nat
  /-- How many octets count. -/
  most : Option Nat
  ignoreCase : Bool
  deriving Repr

/-- A text without the fields at its start. -/
def afterFields : Nat → Octets → Octets
  | 0, text => text
  | n + 1, text =>
    let isBlank (c : Char) : Bool := c == ' ' || c == '\t' || c == '\n'
    afterFields n ((text.dropWhile isBlank).dropWhile (!isBlank ·))

/-- What counts of a line. -/
def Likeness.key (l : Likeness) (line : Octets) : Octets :=
  let rest := (afterFields l.fields line).drop l.octets
  let rest := match l.most with
    | some n => rest.take n
    | none => rest
  if l.ignoreCase then rest.map Char.toUpper else rest

/-- Lines in groups of neighbours that are the same. -/
def groups (l : Likeness) : List Octets → List (List Octets)
  | [] => []
  | line :: rest =>
    match groups l rest with
    | (next :: more) :: others =>
      if l.key line == l.key next then (line :: next :: more) :: others
      else [line] :: (next :: more) :: others
    | others => [line] :: others

/-- Which lines are printed. -/
structure Choice : Type where
  /-- Lines that are not repeated. -/
  single : Bool
  /-- One line for those that are repeated. -/
  first : Bool
  /-- The other ones that are repeated. -/
  later : Bool
  counted : Bool
  deriving Repr

/-- What is printed of a group. -/
def Choice.lines (c : Choice) (group : List Octets) : List Octets :=
  let chosen :=
    if group.length ≤ 1 then (if c.single then group else [])
    else if c.later then (if c.first then group else group.dropLast)
    else if c.first then group.take 1
    else []
  let count := rightAligned 7 (decimal group.length) ++ [' ']
  if c.counted then chosen.map (count ++ ·) else chosen

/-- The groups with what is printed between them. -/
def separated (before between after : Bool) (groups : List (List Octets)) : List Octets :=
  let inner := if between then List.intercalate [[]] groups else groups.flatten
  let lead := if before && !groups.isEmpty then [[]] else []
  let close := if after && !groups.isEmpty then [[]] else []
  lead ++ inner ++ close

/-- A number that an option gives. -/
def amount (what : String) (text : Octets) : Except Octets Nat :=
  if text.isEmpty || !text.all Char.isDigit then
    .error (text ++ (": invalid number of " ++ what).toList)
  else .ok (min (number text) numberLimit)

/-- The options of the tool. -/
def known : List KnownOption :=
  [flag 'c' ["count"], flag 'd' ["repeated"], flag 'D', named 'A' "all-repeated" .perhaps,
    named 'G' "group" .perhaps, valued 'f' ["skip-fields"], flag 'i' ["ignore-case"],
    valued 's' ["skip-chars"], flag 'u' ["unique"], valued 'w' ["check-chars"],
    flag 'z' ["zero-terminated"]] ++
  "0123456789".toList.map fun d => flag d

/-- The word behind an option, if it was given, or the usual one. -/
def word (g : Given) (key : Char) (option : String) (choices : List String) (usual : String) :
    Except Octets String :=
  match g.value? key with
  | some text => choiceOf option (choices.map fun c => [c]) text
  | none => .ok usual

/-- What the options ask for: what is printed of text, given how groups are kept apart. -/
def textFor (g : Given) (l : Likeness) (repeats grouping : String) (text : Octets) : Octets :=
  let mark := lineMark g
  let all := groups l (recordsOf mark text)
  if g.has 'G' then
    unrecords mark (separated (grouping = "prepend" || grouping = "both")
      true (grouping = "append" || grouping = "both") all)
  else
    let every := g.has 'D' || g.has 'A'
    let c : Choice :=
      { single := !g.has 'd' && !every, first := !g.has 'u', later := every, counted := g.has 'c' }
    if every && repeats ≠ "none" then
      let printed := (all.filter fun group => 1 < group.length).map c.lines
      unrecords mark (separated (repeats = "prepend") true false printed)
    else unrecords mark (all.flatMap c.lines)

/-- A first operand such as `+3` gives the number of octets that are left out. -/
def plusOperand (operands : List Octets) : Option Nat × List Octets :=
  let isPlus (operand : Octets) : Bool :=
    match operand with
    | '+' :: digits => !digits.isEmpty && digits.all Char.isDigit
    | _ => false
  let own := operands.filter isPlus
  (own.getLast?.map fun operand => number operand.tail, operands.filter (!isPlus ·))

/-- Prints the lines of a file, or writes them to another one. -/
def runOn (input output : Octets) (f : Octets → Octets) : StateM Process Nat := do
  let missing (path : Octets) (e : OsError) : StateM Process Nat := do
    fault (Quoting.lead path ++ ": ".toList ++ e.description.toList)
    pure 1
  match ← readSource input with
  | .error u =>
    if u.opened then do
      fileFault "error reading" input u.error
      pure 1
    else missing input u.error
  | .ok text =>
    if output = ['-'] then do
      say (f text)
      pure 0
    else
      match (← get).save output (f text).toBytes with
      | .ok p =>
        set p
        pure 0
      | .error e => missing output e

/-- Runs with options. -/
def run (g : Given) : StateM Process Nat := do
  let optional (key : Char) (what : String) : Except Octets (Option Nat) :=
    match g.value? key with
    | some text => (amount what text).map some
    | none => .ok none
  let (plus, operands) := plusOperand g.operands
  let digits := (g.options.map Prod.fst).filter Char.isDigit
  let words : Except Octets (String × String) := do
    let repeats ← word g 'A' "all-repeated" ["none", "prepend", "separate"] "none"
    let grouping ← word g 'G' "group" ["prepend", "append", "separate", "both"] "separate"
    pure (repeats, grouping)
  let likeness : Except Octets Likeness := do
    let fields ← optional 'f' "fields to skip"
    let octets ← optional 's' "bytes to skip"
    let most ← optional 'w' "bytes to compare"
    let fields := if digits.isEmpty then fields.getD 0 else number digits
    pure ⟨fields, (octets <|> plus).getD 0, most, g.has 'i'⟩
  orMisuse words fun (repeats, grouping) =>
    orFault likeness fun l =>
      match operands with
      | _ :: _ :: extra :: _ => do
        misuse ("extra operand ".toList ++ Quoting.value extra)
        pure 1
      | _ =>
        if g.has 'G' && ['c', 'd', 'D', 'A', 'u'].any g.has then
          refuse "--group is mutually exclusive with -c/-d/-D/-u"
        else if g.has 'c' && (g.has 'D' || g.has 'A') then
          refuse "printing all duplicated lines and repeat counts is meaningless"
        else
          runOn (operands.getD 0 ['-']) (operands.getD 1 ['-']) (textFor g l repeats grouping)

end Repeats

/-- Prints lines without repeating neighbours. -/
def uniq : Tool :=
  withOptions Repeats.known Repeats.run

end Fleet.Tools
