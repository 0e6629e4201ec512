import Fleet.Tools.Inputs

/-!
# Tabs and blanks

The tools `expand`, which puts blanks in the place of tabs, and `unexpand`, which puts tabs in the
place of blanks. Tab stops are columns that are listed; behind the last of them they may go on at a
distance.
-/

namespace Fleet.Tools

open Shell

namespace Tabs

/-- What follows the last stop of a list. -/
inductive Beyond : Type where
  | nothing
  /-- Stops at the multiples of a distance. -/
  | multiples (distance : Nat)
  /-- Stops at a distance from the last of the list. -/
  | further (distance : Nat)
  deriving Repr, DecidableEq

/-- Where tab stops are. -/
structure Stops : Type where
  listed : List Nat
  beyond : Beyond
  deriving Repr

/-- The next stop behind a column, if there is one. -/
def Stops.next? (s : Stops) (column : Nat) : Option Nat :=
  let multiple (distance : Nat) : Nat := column + (distance - column % distance)
  match s.listed, s.beyond with
  | [], .nothing => some (multiple 8)
  | [], .multiples distance | [], .further distance => some (multiple distance)
  | [distance], .nothing => some (multiple distance)
  | listed, beyond =>
    match listed.find? (column < ·), beyond with
    | some stop, _ => some stop
    | none, .nothing => none
    | none, .multiples distance => some (multiple distance)
    | none, .further distance =>
      some (column + (distance - (column - listed.getLastD 0) % distance))

/-- A tab stop as it is written: a number with the mark in front of it. -/
structure Item : Type where
  mark : Option Char
  value : Nat
  deriving Repr

/-- The items of a list, or what is wrong with it. The current item is given as far as it was
read. -/
def items : Option Char → Option Nat → Octets → Except Octets (List Item)
  | mark, value, [] => .ok (value.map fun value => { mark, value }).toList
  | mark, value, c :: rest =>
    if c = ',' || c = ' ' || c = '\t' then do
      let others ← items (if value.isSome then none else mark) none rest
      pure ((value.map fun value => { mark, value : Item }).toList ++ others)
    else if c = '/' || c = '+' then
      if value.isSome then
        .error (['\'', c] ++ "' specifier not at start of number: ".toList ++
          Quoting.value (c :: rest))
      else items (some c) none rest
    else if c.isDigit then
      let n := value.getD 0 * 10 + (c.toNat - '0'.toNat)
      if numberLimit < n then
        .error ("tab stop is too large ".toList ++
          Quoting.value (decimal (n / 10) ++ (c :: rest).takeWhile Char.isDigit))
      else items mark (some n) rest
    else
      .error ("tab size contains invalid character(s): ".toList ++ Quoting.value (c :: rest))

/-- The stops that items give, or what is wrong with them. -/
def stopsOf (items : List Item) : Except Octets Stops := do
  let of (mark : Option Char) : List Nat :=
    (items.filter (·.mark == mark)).map Item.value
  let listed := of none
  for mark in ['/', '+'] do
    if 1 < (of (some mark)).length ||
        (items.dropLast.any (·.mark == some mark) && (items.getLast?.bind Item.mark).isNone) then
      throw (['\'', mark] ++ "' specifier only allowed with the last value".toList)
  if listed.contains 0 then throw "tab size cannot be 0".toList
  if (listed.zip listed.tail).any fun (a, b) => b ≤ a then
    throw "tab sizes must be ascending".toList
  match (of (some '/')).filter (· ≠ 0), (of (some '+')).filter (· ≠ 0) with
  | _ :: _, _ :: _ => throw "'/' specifier is mutually exclusive with '+'".toList
  | distance :: _, [] => pure { listed, beyond := .multiples distance }
  | [], distance :: _ => pure { listed, beyond := .further distance }
  | [], [] => pure { listed, beyond := .nothing }

/-- The stops that options give. A digit as an option is the start of a list. -/
def stopsOfOptions (g : Given) : Except Octets Stops := do
  let lists := g.options.filterMap fun (key, value) =>
    if key == 't' then value
    else if key.isDigit then some (key :: value.getD [])
    else none
  stopsOf (← lists.mapM (items none none)).flatten

/-- A line without tabs; only tabs at its start are replaced if asked for. -/
def expanded (stops : Stops) (initial : Bool) (line : Octets) : Octets :=
  let (text, _, _) := line.foldl (fun (text, column, converts) c =>
    if !converts then (c :: text, column, false)
    else if c = '\t' then
      let stop := (stops.next? column).getD (column + 1)
      (List.replicate (stop - column) ' ' ++ text, stop, true)
    else if c = '\x08' then (c :: text, column - 1, !initial)
    else (c :: text, column + 1, !initial || c == ' ')) (([] : Octets), 0, true)
  text.reverse

/-- A line on its way to having tabs. -/
structure State : Type where
  /-- What has been printed, the last octet first. -/
  done : Octets := []
  column : Nat := 0
  /-- Blanks that may become a tab, the first of them first. -/
  pending : Octets := []
  /-- Whether a blank stands just before a tab stop. -/
  single : Bool := false
  /-- Whether the octet before was a blank. -/
  afterBlank : Bool := true
  converts : Bool := true

/-- The state after the blanks have been printed that were kept, and then an octet. -/
def State.flush (s : State) (all : Bool) (c : Char) (isBlank : Bool) : State :=
  let kept := match s.pending with
    | first :: rest => if !rest.isEmpty && s.single then '\t' :: rest else first :: rest
    | [] => []
  { s with
    done := c :: kept.reverse ++ s.done
    pending := []
    single := if s.pending.isEmpty then s.single else false
    afterBlank := isBlank
    converts := s.converts && (all || isBlank) }

/-- The state after an octet; all blanks are converted, or only those at the start. -/
def State.push (stops : Stops) (all : Bool) (s : State) (c : Char) : State :=
  if !s.converts then { s with done := c :: s.done }
  else if c = ' ' || c = '\t' then
    match stops.next? s.column with
    | none => { s.flush all c true with converts := false }
    | some stop =>
      let keep (c : Char) (column : Nat) (pending : Octets) : State :=
        { s with column, pending := if s.single then pending.take 1 else [] }.flush all c true
      if c = '\t' then keep c stop ('\t' :: s.pending.drop 1)
      else if s.afterBlank && s.column + 1 = stop then
        keep '\t' stop ('\t' :: s.pending.drop 1)
      else
        { s with
          column := s.column + 1
          pending := s.pending ++ [c]
          single := s.single || s.column + 1 = stop
          afterBlank := true }
  else if c = '\x08' then { s with column := s.column - 1 }.flush all c false
  else { s with column := s.column + 1 }.flush all c false

/-- A line with tabs in the place of blanks. -/
def unexpanded (stops : Stops) (all : Bool) (line : Octets) : Octets :=
  let s := line.foldl (State.push stops all) ({} : State)
  if s.pending.isEmpty then s.done.reverse
  else (s.flush all ' ' false).done.tail.reverse

/-- Options that are digits. -/
def digitOptions : List KnownOption :=
  "0123456789".toList.map fun c => perhapsValued c

end Tabs

/-- Prints files with blanks in the place of tabs. -/
def expand : Tool :=
  withOptions ([flag 'i' ["initial"], valued 't' ["tabs"]] ++ Tabs.digitOptions) fun g =>
  orFault (Tabs.stopsOfOptions g) fun stops =>
    filterText g.operands fun text =>
      ((keepEnds '\n' text).map (Tabs.expanded stops (g.has 'i'))).flatten

/-- Prints files with tabs in the place of blanks. -/
def unexpand : Tool :=
  withOptions ([flag 'a' ["all"], named 'f' "first-only", valued 't' ["tabs"]] ++
    Tabs.digitOptions) fun g =>
  let all := !g.has 'f' && (g.has 'a' || g.has 't')
  orFault (Tabs.stopsOfOptions g) fun stops =>
    filterText g.operands fun text =>
      ((keepEnds '\n' text).map (Tabs.unexpanded stops all)).flatten

end Fleet.Tools
