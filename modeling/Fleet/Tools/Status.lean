import Fleet.Tools.Inputs
import Fleet.World.Permissions

/-!
# What files are

The tools `stat`, which says what a file is in the form that is asked for, and `du`, which says how
much room files take.
-/

namespace Fleet.Tools

open Shell

namespace Status

/-- The bits that say in a mode what kind of file there is. -/
def kindBits : Entry → Nat
  | .directory _ => 0o40000
  | .file _ _ | .program _ => 0o100000
  | .link _ => 0o120000
  | .sink => 0o20000

/-- The letter of a kind of file. -/
def kindLetter : Entry → Char
  | .directory _ => 'd'
  | .file _ _ | .program _ => '-'
  | .link _ => 'l'
  | .sink => 'c'

/-- The size of a file. -/
def size : Entry → Nat
  | .file content _ => content.length
  | .directory _ => 4096
  | .link target => target.utf8ByteSize
  | .program _ | .sink => 0

/-- The room that a file takes, in octets. -/
def room : Entry → Nat
  | .file content _ => (content.length + 4095) / 4096 * 4096
  | .directory _ => 4096
  | _ => 0

/-- How many names a file has. A directory has its own, the one above, and one of each directory in
it. -/
def linkCount (p : Process) (location : Option Location) : Entry → Nat
  | .directory serial =>
    let location := (p.tree.locate? serial).getD []
    2 + (p.tree.children location).countP fun name =>
      (p.tree.find? (location ++ [name]) matches some (.directory _))
  | _ => (location.map fun l => (p.tree.namesOf l).length).getD 1

/-- What a letter stands for in a form: a number in a base, or a text. -/
def field? (p : Process) (path : Octets) (entry : Entry) (c : Char) : Option (Octets × Nat) :=
  let mode := p.tree.modeOf entry
  let number (n : Nat) : Option (Octets × Nat) := some (decimal n, 10)
  let text (t : Octets) : Option (Octets × Nat) := some (t, 0)
  match c with
  | 'a' => some (Permissions.octal 1 mode, 8)
  | 'A' => text (kindLetter entry :: Permissions.letters mode)
  | 'b' => number (room entry / 512)
  | 'B' => number 512
  | 'f' => some (Nat.toDigits 16 (kindBits entry + mode), 16)
  | 'F' => text (kindName entry).toList
  | 'g' | 'u' => number 0
  | 'G' | 'U' => text "root".toList
  | 'h' =>
    number (linkCount p (locationOf p path (!(entry matches .link _))).toOption entry)
  | 'i' =>
    number (match entry with
      | .directory serial => serial + 2
      | _ => 1)
  | 'n' => text path
  | 'N' =>
    text (match entry with
      | .link target =>
        Quoting.name path ++ " -> ".toList ++ Quoting.name (Octets.ofText target)
      | _ => Quoting.name path)
  | 'o' => number 4096
  | 's' => number (size entry)
  | 't' | 'T' => some (['0'], 16)
  | _ => none

/-- A field brought to a width, as the marks in front of it say. -/
def aligned (marks : Octets) (width : Nat) (precision : Option Nat) (field : Octets)
    (base : Nat) : Octets :=
  let body :=
    if base = 0 then
      match precision with
      | some n => field.take n
      | none => field
    else
      let digits := List.replicate ((precision.getD 0) - field.length) '0' ++ field
      match marks.contains '#', base with
      | true, 8 => if field.head? == some '0' then digits else '0' :: digits
      | true, 16 => '0' :: 'x' :: digits
      | _, _ => digits
  let space := width - body.length
  if marks.contains '-' then body ++ List.replicate space ' '
  else if marks.contains '0' && base ≠ 0 then List.replicate space '0' ++ body
  else List.replicate space ' ' ++ body

/-- The octet that a letter behind a backslash stands for. -/
def escape? (c : Char) : Option Char :=
  [('a', '\x07'), ('b', '\x08'), ('e', '\x1B'), ('f', '\x0C'), ('n', '\n'), ('r', '\r'),
    ('t', '\t'), ('v', '\x0B'), ('"', '"'), ('\\', '\\')].lookup c

/-- What a file is in a form, or the part of the form that makes no sense. -/
def shown (p : Process) (path : Octets) (entry : Entry) (escapes : Bool) :
    Nat → Octets → Except Octets Octets
  | 0, _ => .ok []
  | _, [] => .ok []
  | n + 1, '%' :: rest => do
    let marks := rest.takeWhile "'-+ #0I".toList.contains
    let afterMarks := rest.drop marks.length
    let width := afterMarks.takeWhile Char.isDigit
    let afterWidth := afterMarks.drop width.length
    let (precision, after) := match afterWidth with
      | '.' :: more =>
        let digits := more.takeWhile Char.isDigit
        (some (number digits), more.drop digits.length)
      | more => (none, more)
    let read := rest.take (rest.length - after.length)
    match after with
    | [] =>
      if read.isEmpty then pure ['%'] else throw ('%' :: read)
    | '%' :: after =>
      if read.isEmpty then return '%' :: (← shown p path entry escapes n after)
      else throw ('%' :: read ++ ['%'])
    | c :: after =>
      let text := match field? p path entry c with
        | some (field, base) => aligned marks (number width) precision field base
        | none => ['?']
      return text ++ (← shown p path entry escapes n after)
  | n + 1, '\\' :: rest => do
    if !escapes then return '\\' :: (← shown p path entry escapes n rest)
    match rest with
    | [] => pure ['\\']
    | c :: after =>
      let digits := rest.takeWhile fun c => '0' ≤ c && c ≤ '7'
      let digits := digits.take 3
      if !digits.isEmpty then
        return Char.ofNat (Permissions.ofOctal digits % 256) ::
          (← shown p path entry escapes n (rest.drop digits.length))
      else return (escape? c).getD c :: (← shown p path entry escapes n after)
  | n + 1, c :: rest => return c :: (← shown p path entry escapes n rest)

/-- What a file is, in lines, when no form is asked for. -/
def summary : String :=
  "  File: %N\n  Size: %-10s\tBlocks: %-10b IO Block: %-6o %F\nDevice: 0,0\tInode: %-10i" ++
    "  Links: %h\nAccess: (%04a/%10.10A)  Uid: (%5u/%8U)   Gid: (%5g/%8G)\n"

/-- Says what a file is. -/
def tell (form : Octets) (escapes follows : Bool) (path : Octets) : StateM Process Nat := do
  let p ← get
  match entryOf p path follows with
  | .error e => do
    fileFault "cannot statx" path e
    pure 1
  | .ok entry =>
    match shown p path entry escapes (form.length + 1) form with
    | .ok text => do
      say text
      pure 0
    | .error part => do
      fault (Quoting.value part ++ ": invalid directive".toList)
      pure 1

end Status

/-- Says what files are. -/
def stat : Tool :=
  withOptions [flag 'L' ["dereference"], flag 'f' ["file-system"], named 'C' "cached" .value,
    valued 'c' ["format"], named 'P' "printf" .value, flag 't' ["terse"]] fun g =>
  let (form, escapes) : Octets × Bool :=
    match g.lastOf ['c', 'P'] with
    | some 'P' => ((g.value? 'P').getD [], true)
    | some _ => ((g.value? 'c').getD [] ++ ['\n'], false)
    | none => (Status.summary.toList, false)
  overFiles "operand" g.operands (Status.tell form escapes (g.has 'L'))

namespace Status

/-- How the room of files is shown. -/
structure Plan : Type where
  /-- Whether sizes count rather than the room that is taken. -/
  apparent : Bool
  /-- Whether files are shown that are no directories. -/
  all : Bool
  /-- How deep files lie that are shown. -/
  depth : Option Nat
  /-- The unit of numbers; none if they are shown with a letter. -/
  unit : Option Nat
  powers : Nat
  stop : Char

/-- A number of octets with a letter for its unit, rounded up. -/
def withLetter (power n : Nat) : Nat → List Char → Nat → Octets
  | 0, _, _ => decimal n
  | fuel + 1, letters, unit =>
    if n < unit * power || letters.length ≤ 1 then
      let letter := letters.headD ' '
      if unit = 1 then decimal n
      else
        let tenths := (10 * n + unit - 1) / unit
        if tenths < 100 then decimal (tenths / 10) ++ '.' :: decimal (tenths % 10) ++ [letter]
        else decimal ((n + unit - 1) / unit) ++ [letter]
    else withLetter power n fuel letters.tail (unit * power)

/-- A number of octets as it is shown. -/
def Plan.amount (plan : Plan) (n : Nat) : Octets :=
  match plan.unit with
  | some unit => decimal ((n + unit - 1) / unit)
  | none =>
    let letters := if plan.powers = 1000 then " kMGTPE" else " KMGTPE"
    withLetter plan.powers n 8 letters.toList 1

/-- Shows how much room a file takes with what is below it, and gives that. -/
def Plan.measure (plan : Plan) : Nat → Nat → Octets → StateM Process Nat
  | 0, _, _ => pure 0
  | n + 1, level, path => do
    let p ← get
    match entryOf p path false with
    | .error _ => pure 0
    | .ok entry => do
      let own :=
        match entry, plan.apparent with
        | .directory _, true => 0
        | entry, true => size entry
        | entry, false => room entry
      let inner := match entry with
        | .directory serial =>
          (p.tree.children ((p.tree.locate? serial).getD [])).map Octets.ofText
        | _ => []
      let below ← inner.mapM fun name => plan.measure n (level + 1) (within path name)
      let total := below.foldl (· + ·) own
      let isShown := level = 0 ||
        ((plan.all || entry matches .directory _) && plan.depth.all (level ≤ ·))
      if isShown then say (plan.amount total ++ '\t' :: path ++ [plan.stop])
      pure total

end Status

/-- Says how much room files take. -/
def du : Tool :=
  withOptions [flag 'a' ["all"], named 'A' "apparent-size", valued 'B' ["block-size"],
    flag 'b' ["bytes"], flag 'c' ["total"], valued 'd' ["max-depth"], flag 'h' ["human-readable"],
    named 'i' "si", flag 'k', flag 'm', flag 's' ["summarize"], flag '0' ["null"], flag 'x',
    flag 'L', flag 'P', flag 'H', flag 'l', flag 'S'] fun g => do
  let blockText := (g.value? 'B').getD []
  let blockDigits := blockText.takeWhile Char.isDigit
  let blockUnit := (unitOf? (blockText.drop blockDigits.length)).getD 1
  let block := (if blockDigits.isEmpty then 1 else number blockDigits) * blockUnit
  let unit : Option Nat :=
    match g.lastOf ['b', 'B', 'h', 'i', 'k', 'm'] with
    | some 'b' => some 1
    | some 'B' => some block
    | some 'h' | some 'i' => none
    | some 'm' => some 1048576
    | _ => some 1024
  let depth := if g.has 's' then some 0 else (g.value? 'd').map number
  let plan : Status.Plan :=
    { apparent := g.has 'A' || g.has 'b', all := g.has 'a', depth, unit
      powers := if g.lastOf ['h', 'i'] == some 'i' then 1000 else 1024
      stop := if g.has '0' then '\x00' else '\n' }
  let paths := if g.operands.isEmpty then [['.']] else g.operands
  let (sum, code, _) ← paths.foldlM (fun (sum, code, seen) path => do
    let p ← get
    match locationOf p path false with
    | .error e => do
      fileFault "cannot access" path e
      pure (sum, 1, seen)
    | .ok location =>
      -- A file that was counted before is not counted again.
      if seen.contains location then pure (sum, code, seen)
      else do
        let own ← plan.measure 64 0 path
        pure (sum + own, code, location :: seen)) (0, 0, ([] : List Location))
  if g.has 'c' then say (plan.amount sum ++ "\ttotal".toList ++ [plan.stop])
  pure code

end Fleet.Tools
