import Fleet.Tools.Formats
import Fleet.Tools.Inputs
import Fleet.Tools.Regex.Parser

/-!
# Files in sections

A tool that writes the sections of a file to files of their own. Where a section ends is given by
the number of a line, or by an expression that a line matches.
-/

namespace Fleet.Tools

open Shell

namespace Sections

/-- Where a section ends. -/
inductive Limit : Type where
  /-- In front of a line. -/
  | line (number : Nat)
  /-- At a distance from a line that matches. -/
  | found (r : Regex) (offset : Int)
  deriving Repr

/-- A section as it is asked for. -/
structure Wish : Type where
  text : Octets
  limit : Limit
  /-- Whether the section is passed over. -/
  skips : Bool
  /-- How many more times the wish is repeated; without a number as often as possible. -/
  again : Option Nat := some 0
  deriving Repr

/-- How sections are written. -/
structure Plan : Type where
  wishes : List Wish
  start : Octets
  format : Octets
  quiet : Bool
  keeps : Bool
  elides : Bool
  dropsMatched : Bool
  deriving Repr

/-- How far the file has been gone through. -/
structure State : Type where
  lines : List Octets
  /-- How many lines have been taken. -/
  taken : Nat := 0
  /-- The line that was searched last. -/
  current : Nat := 0
  /-- The text of the section that is open. -/
  own : Option Octets := none
  /-- How many files have been written. -/
  count : Nat := 0

/-- A step of the work, which a mistake may end; the code to end with is given then. -/
abbrev Work : Type → Type :=
  ExceptT Nat (StateT State (StateM Process))

/-- Does something as a tool. -/
def act (work : StateM Process Unit) : Work Unit :=
  (work : StateT State (StateM Process) Unit)

/-- The name of a file. -/
def Plan.nameOf (plan : Plan) (i : Nat) : Octets :=
  plan.start ++ (Printer.program.page plan.format [decimal i]).text

/-- Takes the next line. -/
def take? : Work (Option Octets) := do
  let s ← get
  match s.lines with
  | [] => pure none
  | line :: rest => do
    set { s with lines := rest, taken := s.taken + 1, current := max s.current (s.taken + 1) }
    pure (some line)

/-- Adds a line to the section that is open. -/
def keep (line : Octets) : Work Unit :=
  modify fun s => { s with own := s.own.map (· ++ line) }

/-- Opens a section. -/
def openSection : Work Unit :=
  modify fun s => { s with own := some [] }

/-- Writes the section that is open, and prints its size. -/
def Plan.close (plan : Plan) : Work Unit := do
  let s ← get
  match s.own with
  | none => pure ()
  | some text => do
    set { s with own := none }
    if plan.elides && text.isEmpty then return
    let path := plan.nameOf s.count
    match (← (get : StateM Process Process)).save path text.toBytes with
    | .error e => do
      act (fault (Quoting.lead path ++ ": ".toList ++ e.description.toList))
      throw 1
    | .ok p => do
      (set p : StateM Process Unit)
      modify fun s => { s with count := s.count + 1 }
      if !plan.quiet then act (say (decimal text.length ++ ['\n']))

/-- Adds all lines that are left to the section that is open. -/
def rest : Work Unit :=
  modify fun s =>
    { s with
      own := s.own.map (· ++ s.lines.flatten)
      taken := s.taken + s.lines.length
      lines := [] }

/-- Reports a mistake and ends the work. -/
def Plan.give {α : Type} (plan : Plan) (message : Octets) : Work α := do
  act (fault message)
  plan.close
  throw 1

/-- How a repetition is named. -/
def repetition (i : Nat) : Octets :=
  if i = 0 then [] else " on repetition ".toList ++ decimal i

/-- Takes lines into the section that is open, as many as given. -/
def takeLines (wrong : Work Unit) (keeps : Bool) : Nat → Work Unit
  | 0 => pure ()
  | n + 1 => do
    match ← take? with
    | none => wrong
    | some line => do
      if keeps then keep line
      takeLines wrong keeps n

/-- Ends a section in front of a line. -/
def Plan.atLine (plan : Plan) (wish : Wish) (number i : Nat) : Work Unit := do
  let outOfRange : Work Unit :=
    plan.give (Quoting.value wish.text ++ ": line number out of range".toList ++ repetition i)
  openSection
  let s ← get
  if s.lines.isEmpty then
    if plan.dropsMatched then outOfRange
    act (fault "input disappeared".toList)
    modify fun s => { s with own := none }
    throw 1
  takeLines outOfRange true (number * (i + 1) - (s.taken + 1))
  plan.close
  if plan.dropsMatched then
    let _ ← take?
  else if (← get).lines.isEmpty then outOfRange

/-- The number of the first line after a line that matches. -/
def search? (r : Regex) (s : State) : Option Nat :=
  let start := max s.current s.taken
  let candidates := (s.lines.drop (start - s.taken)).zipIdx (start + 1)
  (candidates.find? fun (line, _) =>
    let text := if line.getLast? == some '\n' then line.dropLast else line
    (Regex.find? { form := .basic } r text.toArray 0).isSome).map Prod.snd

/-- Ends a section at a distance from a line that matches; gives whether there was one. -/
def Plan.atMatch (plan : Plan) (wish : Wish) (r : Regex) (offset : Int) (i : Nat) : Work Bool := do
  if !wish.skips then openSection
  let s ← get
  match search? r s with
  | none =>
    if wish.again.isNone then
      if !wish.skips then
        rest
        plan.close
      pure false
    else
      act (fault (Quoting.value wish.text ++ ": match not found".toList ++ repetition i))
      if !wish.skips then
        rest
        plan.close
      throw 1
  | some found =>
    let stop : Int := found + offset
    let wrong : Work Unit :=
      plan.give (Quoting.value wish.text ++ ": line number out of range".toList)
    if stop < s.taken + 1 then wrong
    takeLines wrong (!wish.skips) (stop - (s.taken + 1)).toNat
    modify fun s => { s with current := if 0 < offset then stop.toNat else found }
    if !wish.skips then plan.close
    if plan.dropsMatched then
      let _ ← take?
    pure true

/-- Does what a wish asks for as often as it says; at most the given number of times. Gives whether
there is more to be done. -/
def Plan.fulfil (plan : Plan) (wish : Wish) : Nat → Nat → Work Bool
  | 0, _ => pure true
  | n + 1, i => do
    let goesOn ← match wish.limit with
      | .line number => do
        plan.atLine wish number i
        pure true
      | .found r offset => plan.atMatch wish r offset i
    if !goesOn then pure false
    else if wish.again.any (· ≤ i) then pure true
    else fulfil plan wish n (i + 1)

/-- Does what wishes ask for. -/
def Plan.fulfilAll (plan : Plan) (steps : Nat) : List Wish → Work Unit
  | [] => do
    openSection
    rest
    plan.close
  | wish :: more => do
    if ← plan.fulfil wish steps 0 then fulfilAll plan steps more

/-- Writes the sections of a text; after a mistake all files are removed, unless they are kept. -/
def Plan.run (plan : Plan) (text : Octets) : StateM Process Nat := do
  let lines := keepEnds '\n' text
  let (result, s) ← (plan.fulfilAll (lines.length + 2) plan.wishes).run.run { lines }
  match result with
  | .ok _ => pure 0
  | .error code => do
    if !plan.keeps then
      (List.range s.count).forM fun i =>
        modify fun p =>
          ((p.edit fun t here => t.removeFile here (plan.nameOf i).toText).toOption).getD p
    pure code

/-! ## Options -/

/-- An integer with a sign. -/
def integer? (text : Octets) : Option Int :=
  let digits := if text.head? == some '-' || text.head? == some '+' then text.tail else text
  if digits.isEmpty || !digits.all Char.isDigit then none
  else some (if text.head? == some '-' then -(number digits : Int) else number digits)

/-- Reads a wish, given the number of the line before. -/
def wishOf (last : Nat) (text : Octets) : Except Octets (Wish × Nat) :=
  match text with
  | c :: body =>
    if c = '/' || c = '%' then
      let after := (body.reverse.takeWhile (· ≠ c)).reverse
      if after.length = body.length then
        .error (text ++ ": closing delimiter '".toList ++ [c] ++ "' missing".toList)
      else
        match Regex.parse { form := .basic } (body.take (body.length - after.length - 1)) with
        | .error _ =>
          .error (Quoting.value text ++
            ": invalid regular expression: Invalid regular expression".toList)
        | .ok r =>
          match if after.isEmpty then some 0 else integer? after with
          | some offset => .ok ({ text, limit := .found r offset, skips := c = '%' }, last)
          | none => .error (Quoting.value text ++ ": integer expected after delimiter".toList)
    else
      match integer? text with
      | some (.ofNat 0) => .error (text ++ ": line number must be greater than zero".toList)
      | some (.ofNat n) =>
        if n < last then
          .error ("line number ".toList ++ Quoting.value text ++
            " is smaller than preceding line number, ".toList ++ decimal last)
        else .ok ({ text, limit := .line n, skips := false }, n)
      | _ => .error (Quoting.value text ++ ": invalid pattern".toList)
  | [] => .error (Quoting.value text ++ ": invalid pattern".toList)

/-- How often a wish is repeated. -/
def againOf (text : Octets) : Except Octets (Option Nat) :=
  let body := text.tail
  let inner := body.dropLast
  if body.getLast? != some '\x7d' then
    .error (Quoting.value text ++ ": '\x7d' is required in repeat count".toList)
  else if inner = ['*'] then .ok none
  else if inner.isEmpty || !inner.all Char.isDigit then
    .error (Quoting.value ('\x7b' :: inner) ++
      "\x7d: integer required between '\x7b' and '\x7d'".toList)
  else .ok (some (number inner))

/-- Texts, each with the number of repetitions behind it, if there is one. -/
def withCounts : List Octets → List (Octets × Option Octets)
  | text :: count :: others =>
    if count.head? == some '\x7b' then (text, some count) :: withCounts others
    else (text, none) :: withCounts (count :: others)
  | [text] => [(text, none)]
  | [] => []

/-- Reads wishes, with the lines that are named twice. -/
def wishesOf : Nat → List (Octets × Option Octets) → Except Octets (List Wish × List Octets)
  | _, [] => .ok ([], [])
  | last, (text, count) :: rest => do
    let (wish, next) ← wishOf last text
    let twice := match wish.limit with
      | .line n => if n = last then [text] else []
      | .found _ _ => []
    let again ← match count with
      | none => pure (some 0)
      | some count => againOf count
    let (wishes, doubled) ← wishesOf next rest
    pure ({ wish with again } :: wishes, twice ++ doubled)

/-- What is wrong with a format for the numbers of files. -/
def formatFault? (format : Octets) : Option Octets :=
  match (format.dropWhile (· ≠ '%')) with
  | [] => some "missing % conversion specification in suffix".toList
  | _ :: rest =>
    match rest.dropWhile "-+ #0'123456789.".toList.contains with
    | [] => some "missing conversion specifier in suffix".toList
    | c :: after =>
      if !"diouxX".toList.contains c then
        some ("invalid conversion specifier in suffix: ".toList ++ [c])
      else if after.contains '%' then
        some "too many % conversion specifications in suffix".toList
      else none

end Sections

/-- Writes the sections of a file to files of their own. -/
def csplit : Tool :=
  withOptions [valued 'b' ["suffix-format"], valued 'f' ["prefix"], flag 'k' ["keep-files"],
    valued 'n' ["digits"], flag 's' ["quiet", "silent"], flag 'q', flag 'z' ["elide-empty-files"],
    named 'M' "suppress-matched"] fun g => do
  let digits := (g.value? 'n').getD ['2']
  if digits.isEmpty || !digits.all Char.isDigit then
    fault ("invalid number: ".toList ++ Quoting.value digits)
    return 1
  let format := (g.value? 'b').getD ("%0".toList ++ digits ++ ['d'])
  match g.operands with
  | [] => refuse "missing operand"
  | [only] => do
    misuse ("missing operand after ".toList ++ Quoting.value only)
    pure 1
  | path :: texts =>
    match Sections.formatFault? format with
    | some message => do
      fault message
      pure 1
    | none =>
      orFault (Sections.wishesOf 0 (Sections.withCounts texts)) fun (wishes, doubled) => do
        doubled.forM fun text =>
          fault ("warning: line number ".toList ++ Quoting.value text ++
            " is the same as preceding line number".toList)
        match ← readSource path with
        | .ok text =>
          let plan : Sections.Plan :=
            { wishes, format
              start := (g.value? 'f').getD "xx".toList
              quiet := g.has 's' || g.has 'q'
              keeps := g.has 'k'
              elides := g.has 'z'
              dropsMatched := g.has 'M' }
          plan.run text
        | .error u => do
          if u.opened then
            if !(g.has 's' || g.has 'q') then say "0\n".toList
            fault ("read error: ".toList ++ u.error.description.toList)
          else
            fault ("cannot open ".toList ++ Quoting.name path ++ " for reading: ".toList ++
              u.error.description.toList)
          pure 1

end Fleet.Tools
