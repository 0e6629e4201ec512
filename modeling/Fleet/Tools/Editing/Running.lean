import Fleet.Shell.Process
import Fleet.Tools.Editing.Script
import Fleet.Tools.Quoting

/-!
# Editing lines by a script

A script is run for each line in turn, with the text of the line at hand and a second text that is
kept from one line to the next. What is printed at the end of the last line lacks the end of a line
if the last line does; it is made up for when more is printed.
-/

namespace Fleet.Tools.Editing

open Shell (decimal)

/-- A line of the input. -/
structure Line : Type where
  text : Octets
  /-- Whether it has an end. -/
  ended : Bool
  number : Nat
  isLast : Bool
  /-- Whether it is the first one after which line numbers start again. -/
  isFirst : Bool
  source : Octets
  deriving Repr

/-- What has been printed or written, the last piece first, and whether the end of the last line is
missing. -/
structure Output : Type where
  pieces : List Octets := []
  unended : Bool := false
  deriving Repr

/-- Text is added, after the end of the line that is missing. -/
def Output.add (o : Output) (mark : Char) (text : Octets) : Output :=
  { o with pieces := text :: (if o.unended then [mark] :: o.pieces else o.pieces), unended := false }

/-- A line is added, perhaps without its end. -/
def Output.addLine (o : Output) (mark : Char) (text : Octets) (ended : Bool) : Output :=
  let o := o.add mark text
  if ended then { o with pieces := [mark] :: o.pieces } else { o with unended := true }

/-- All that was added. -/
def Output.text (o : Output) : Octets :=
  o.pieces.reverse.flatten

/-- What is printed after the line. -/
inductive Addition : Type where
  | text (t : Octets)
  | file (path : Octets)
  | line (path : Octets)
  deriving Repr

/-- What does not change while a script is run. -/
structure Setting : Type where
  commands : Array Command
  /-- Whether lines are only printed if the script says so. -/
  quiet : Bool
  mark : Char
  /-- How wide lines are in which all octets are visible. -/
  width : Nat
  /-- Whether the file for the output is one of those that the script can write to. -/
  sharesOutput : Bool
  /-- The content of a file. -/
  content : Octets → Option Octets

/-- The state of a script that is run. -/
structure State : Type where
  space : Octets := []
  kept : Octets := []
  line : Line
  rest : List Line
  replaced : Bool := false
  lastRegex : Option (Regex.Dialect × Regex) := none
  additions : List Addition := []
  /-- The ranges that are open, by the places of their commands, with the numbers of the lines where
  they end, if these are known. -/
  ranges : List (Nat × Option Nat) := []
  output : Output := {}
  files : List (Octets × Output) := []
  /-- What is left of files that are read by lines. -/
  readers : List (Octets × List Octets) := []

/-- How a script goes on. -/
inductive Move : Type where
  | goto (place : Nat)
  /-- The line is done with; perhaps it is printed. -/
  | nextLine (prints : Bool)
  /-- The script starts again with the text at hand. -/
  | again
  | quit (code : Nat)
  /-- There is no regular expression that was used last. -/
  | failed
  deriving Repr, DecidableEq

/-- How a script has ended. -/
inductive Finish : Type where
  | done
  | quit (code : Nat)
  | failed
  deriving Repr, DecidableEq

/-! ## Output -/

/-- Prints a line. -/
def State.print (s : State) (g : Setting) (text : Octets) (ended : Bool) : State :=
  { s with output := s.output.addLine g.mark text ended }

/-- Prints the text at hand. -/
def State.printSpace (s : State) (g : Setting) : State :=
  s.print g s.space s.line.ended

/-- Prints text as it is. -/
def State.say (s : State) (g : Setting) (text : Octets) : State :=
  { s with output := s.output.add g.mark text }

/-- Writes a line to a file. -/
def State.writeTo (s : State) (g : Setting) (path text : Octets) (ended : Bool) : State :=
  if g.sharesOutput && path = "/dev/stdout".toList then s.print g text ended
  else
    let old := (s.files.lookup path).getD {}
    { s with
      files := (path, old.addLine g.mark text ended) :: s.files.filter fun (p, _) => p != path }

/-- The lines of a text, each with whether it has an end. -/
def splitLines (mark : Char) (text : Octets) : List (Octets × Bool) :=
  match (text.splitOn mark).reverse with
  | [] => []
  | last :: before =>
    let lines := before.reverse.map fun line => (line, true)
    if last.isEmpty then lines else lines ++ [(last, false)]

/-- Prints what is to be printed after the line. -/
def State.flush (s : State) (g : Setting) : State :=
  let said := s.additions.foldl (fun (s : State) a =>
    match a with
    | .text t => s.say g t
    | .file path =>
      match g.content path with
      | some text => if text.isEmpty then s else s.say g text
      | none => s
    | .line path =>
      let lines := match s.readers.lookup path with
        | some lines => lines
        | none => (splitLines g.mark ((g.content path).getD [])).map Prod.fst
      match lines with
      | [] => s
      | line :: rest =>
        let s := s.print g line true
        { s with readers := (path, rest) :: s.readers.filter fun (p, _) => p != path }) s
  { said with additions := [] }

/-- The ranges that are open before the first line: those that start in front of it. -/
def openRanges (commands : Array Command) : List (Nat × Option Nat) :=
  commands.toList.zipIdx.filterMap fun (c, place) =>
    match c.selection.first, c.selection.stop with
    | some (.line 0), some _ => some (place, none)
    | _, _ => none

/-- The state with the next line, if there is one. -/
def State.load (s : State) (g : Setting) : Option State :=
  match s.rest with
  | [] => none
  | line :: rest =>
    some
      { s with
        line, rest
        space := line.text
        replaced := false
        ranges := if line.isFirst then openRanges g.commands else s.ranges }

/-! ## Addresses -/

/-- The first match of an expression in the text at hand, and the expression that was used; none if
there is no expression that was used last. -/
def State.find (s : State) (e : Expression) (text : Array Char) :
    Option ((Regex.Dialect × Regex) × Option (Nat × Nat × Captures)) :=
  (e.regex <|> s.lastRegex).map fun (d, r) => ((d, r), Regex.find? d r text 0)

/-- Whether an address selects the line; none if there is no expression that was used last. -/
def State.isAt (s : State) : Address → Option (Bool × State)
  | .line n => some (s.line.number = n, s)
  | .steps first distance =>
    some (first ≤ s.line.number && (s.line.number - first) % distance = 0, s)
  | .last => some (s.line.isLast, s)
  | .matching e =>
    (s.find e s.space.toArray).map fun (used, found) =>
      (found.isSome, { s with lastRegex := some used })

/-- The state without the range of a command. -/
def State.closeRange (s : State) (place : Nat) : State :=
  { s with ranges := s.ranges.filter fun (p, _) => p != place }

/-- The state with a range of a command that ends at the given line, if that is known. -/
def State.openRange (s : State) (place : Nat) (stop : Option Nat) : State :=
  { s.closeRange place with ranges := (place, stop) :: (s.closeRange place).ranges }

/-- Whether a command applies to the line within a range that is open; the range may end. -/
def State.inRange (s : State) (place : Nat) (stop : RangeEnd) (known : Option Nat) :
    Option (Bool × State) :=
  match known, stop with
  | some last, _ =>
    some (s.line.number ≤ last, if last ≤ s.line.number then s.closeRange place else s)
  | none, .address a =>
    (s.isAt a).map fun (isEnd, s) => (true, if isEnd then s.closeRange place else s)
  | none, _ => some (true, s)

/-- Whether a command applies to the line, apart from whether it is for all others. -/
def State.isSelected (s : State) (place : Nat) (c : Selection) : Option (Bool × State) :=
  match c.first, c.stop with
  | none, _ => some (true, s)
  | some first, none => s.isAt first
  | some first, some stop =>
    match s.ranges.lookup place with
    | some known => s.inRange place stop known
    | none =>
      match s.isAt first with
      | none => none
      | some (false, s) => some (false, s)
      | some (true, s) =>
        let n := s.line.number
        let upTo (last : Nat) : Option (Bool × State) :=
          some (true, if last ≤ n then s else s.openRange place (some last))
        match stop with
        | .address (.line last) => upTo last
        | .after count => upTo (n + count)
        | .multiple factor => upTo (if factor = 0 then n else (n / factor + 1) * factor)
        | .address _ => some (true, s.openRange place none)

/-! ## Changing the text -/

/-- Octets of which some are changed to other letters. -/
def cased (pieces : List (Octets ⊕ Casing)) : Octets :=
  let step (state : List Char × Casing × Option Casing) (piece : Octets ⊕ Casing) :
      List Char × Casing × Option Casing :=
    let (done, mode, next) := state
    match piece with
    | .inr .nextUpper => (done, mode, some .nextUpper)
    | .inr .nextLower => (done, mode, some .nextLower)
    | .inr mode => (done, mode, none)
    | .inl text =>
      let change (c : Char) : Char :=
        match mode with
        | .upper => c.toUpper
        | .lower => c.toLower
        | _ => c
      match text, next with
      | [], _ => state
      | c :: rest, some .nextUpper => ((rest.map change).reverseAux (c.toUpper :: done), mode, none)
      | c :: rest, some .nextLower => ((rest.map change).reverseAux (c.toLower :: done), mode, none)
      | text, _ => ((text.map change).reverseAux done, mode, none)
  ((pieces.foldl step ([], .asIs, none)).1).reverse

/-- A part of a text. -/
def part (text : Array Char) (start stop : Nat) : Octets :=
  (text.extract start stop).toList

/-- What a replacement amounts to for a match. -/
def expand (text : Array Char) (captures : Captures) (pieces : List Piece) : Octets :=
  cased (pieces.map fun
    | .octet c => .inl [c]
    | .group index =>
      match captures.lookup index with
      | some (start, stop) => .inl (part text start stop)
      | none => .inl []
    | .casing c => .inr c)

/-- A text from a place on with matches replaced, and whether there were any. `count` matches have
been found before, the last of which may end at the given place; at most the given number of places
is looked at. -/
def replaceFrom (d : Regex.Dialect) (r : Regex) (u : Substitution) (text : Array Char) :
    Nat → Nat → Nat → Option Nat → Octets × Bool
  | 0, _, start, _ => (part text start text.size, false)
  | n + 1, count, start, before =>
    match Regex.find? d r text start with
    | none => (part text start text.size, false)
    | some (i, j, captures) =>
      let lead := part text start i
      let passed := part text j (j + 1)
      if j = i && before = some i then
        let (rest, changed) :=
          if text.size ≤ i then ([], false) else replaceFrom d r u text n count (i + 1) none
        (lead ++ passed ++ rest, changed)
      else
        let chosen := u.first ≤ count + 1
        let own := if chosen then expand text captures u.pieces else part text i j
        if chosen && !u.all then (lead ++ own ++ part text j text.size, true)
        else if j = i then
          let (rest, changed) :=
            if text.size ≤ i then ([], false) else replaceFrom d r u text n (count + 1) (i + 1) none
          (lead ++ own ++ passed ++ rest, chosen || changed)
        else
          let (rest, changed) := replaceFrom d r u text n (count + 1) j (some j)
          (lead ++ own ++ rest, chosen || changed)

/-- A text with all octets visible, in lines of at most some width. -/
def visible (width : Nat) (text : Octets) : Octets :=
  let shown (c : Char) : Octets :=
    match c with
    | '\\' => ['\\', '\\']
    | c =>
      match Quoting.letter? c with
      | some l => ['\\', l]
      | none => if Quoting.isPrintable c then [c] else Quoting.octal c
  let (lines, _) := text.foldl (fun (done, column) c =>
    let own := shown c
    if 1 < width && width - 1 < column + own.length then
      (own.reverseAux ('\n' :: '\\' :: done), own.length)
    else (own.reverseAux done, column + own.length)) (([] : List Char), 0)
  lines.reverse ++ ['$', '\n']

/-- The first line of a text. -/
def firstLine (mark : Char) (text : Octets) : Octets :=
  text.takeWhile (· != mark)

/-! ## Running -/

/-- Replaces matches in the text at hand. -/
def State.substitute (s : State) (g : Setting) (u : Substitution) : Option State :=
  let text := s.space.toArray
  (s.find u.expression text).map fun ((d, r), _) =>
    let s := { s with lastRegex := some (d, r) }
    let (space, changed) := replaceFrom d r u text (2 * text.size + 4) 0 0 none
    if !changed then s
    else
      let s := { s with space, replaced := true }
      let s := if u.prints then s.printSpace g else s
      match u.file with
      | some path => s.writeTo g path s.space s.line.ended
      | none => s

/-- What a command does at a place. -/
def State.apply (s : State) (g : Setting) (place : Nat) (c : Command) : State × Move :=
  let on : Move := .goto (place + 1)
  let add (a : Addition) : State × Move := ({ s with additions := s.additions ++ [a] }, on)
  let toward (label : Octets) : Move :=
    if label.isEmpty then .goto g.commands.size
    else .goto ((labelPlace? g.commands.toList label).getD g.commands.size)
  match c.action with
  | .opening | .closing | .label _ => (s, on)
  | .jump .always label => (s, toward label)
  | .jump .ifReplaced label =>
    if s.replaced then ({ s with replaced := false }, toward label) else (s, on)
  | .jump .unlessReplaced label =>
    if s.replaced then ({ s with replaced := false }, on) else (s, toward label)
  | .substitute u =>
    match s.substitute g u with
    | some s => (s, on)
    | none => (s, .failed)
  | .transliterate pairs =>
    ({ s with space := s.space.map fun c => (pairs.lookup c).getD c }, on)
  | .insert text => (s.say g text, on)
  | .append text => add (.text text)
  | .change text =>
    let isOpen := (s.ranges.lookup place).isSome
    (if isOpen && !c.selection.others then s else s.say g text, .nextLine false)
  | .appendFile path => add (.file path)
  | .appendLine path => add (.line path)
  | .write path => (s.writeTo g path s.space s.line.ended, on)
  | .writeFirst path => (s.writeTo g path (firstLine g.mark s.space) true, on)
  | .print => (s.printSpace g, on)
  | .printFirst => (s.print g (firstLine g.mark s.space) true, on)
  | .printNumber => (s.say g (decimal s.line.number ++ ['\n']), on)
  | .printName => (s.say g (s.line.source ++ ['\n']), on)
  | .list width => (s.say g (visible (width.getD g.width) s.space), on)
  | .delete => (s, .nextLine false)
  | .deleteFirst =>
    if s.space.contains g.mark then
      ({ s with space := (s.space.dropWhile (· != g.mark)).drop 1 }, .again)
    else (s, .nextLine false)
  | .next =>
    if s.line.isLast then (s, .nextLine true)
    else
      let s := if g.quiet then s else s.printSpace g
      match (s.flush g).load g with
      | some s => (s, on)
      | none => (s, .nextLine false)
  | .joinNext =>
    if s.line.isLast then (s, .nextLine true)
    else
      let old := s.space
      match (s.flush g).load g with
      | some s => ({ s with space := old ++ g.mark :: s.space }, on)
      | none => (s, .nextLine true)
  | .get => ({ s with space := s.kept }, on)
  | .getAlso => ({ s with space := s.space ++ g.mark :: s.kept }, on)
  | .hold => ({ s with kept := s.space }, on)
  | .holdAlso => ({ s with kept := s.kept ++ g.mark :: s.space }, on)
  | .exchange => ({ s with space := s.kept, kept := s.space }, on)
  | .clear => ({ s with space := [] }, on)
  | .quit code prints =>
    let s := if prints && !g.quiet then s.printSpace g else s
    (if prints then s.flush g else s, .quit code)

/-- What happens at a place of a script. -/
def State.step (s : State) (g : Setting) (place : Nat) : State × Move :=
  match g.commands[place]? with
  | none => (s, .nextLine true)
  | some c =>
    match s.isSelected place c.selection with
    | none => (s, .failed)
    | some (selected, s) =>
      if selected != c.selection.others then s.apply g place c
      else
        match c.action with
        | .opening =>
          (s, .goto (afterGroup g.commands.toList (g.commands.size + 1) 1 (place + 1)))
        | _ => (s, .goto (place + 1))

/-- Runs a script from a place on, for at most the given number of steps. -/
def State.run (g : Setting) : Nat → Nat → State → State × Finish
  | 0, _, s => (s, .done)
  | n + 1, place, s =>
    match s.step g place with
    | (s, .goto place) => run g n place s
    | (s, .again) => run g n 0 (s.flush g)
    | (s, .quit code) => (s, .quit code)
    | (s, .failed) => (s, .failed)
    | (s, .nextLine prints) =>
      let s := if prints && !g.quiet then s.printSpace g else s
      let s := s.flush g
      match s.load g with
      | some s => run g n 0 s
      | none => (s, .done)

/-- How many steps a script may take. -/
def patience : Nat :=
  1000000

/-- Runs a script for all lines that are left. -/
def State.runAll (g : Setting) (s : State) : State × Finish :=
  match s.load g with
  | some s => run g patience 0 s
  | none => (s, .done)

end Fleet.Tools.Editing
