import Fleet.Shell.Pattern
import Fleet.Tools.Alignment
import Fleet.Tools.Inputs
import Fleet.Tools.Regex.Parser
import Fleet.Tools.Transfer

/-!
# Differences between files

Tools that compare files: `diff` line by line, and directories file by file. Differences are shown
in one of several forms.
-/

namespace Fleet.Tools

open Shell

namespace Differences

open Fleet.Tools.Alignment (Hunk)

/-- The form in which differences are shown. -/
inductive Form : Type where
  | normal
  | unified
  | context
  | commands
  | forwardCommands
  | counted
  | sideBySide
  deriving Repr, DecidableEq

/-- What two files are compared for, and how that is shown. -/
structure Plan : Type where
  form : Form
  /-- How many lines around differences are shown. -/
  context : Nat
  /-- What of a line counts. -/
  essence : Octets → Octets
  ignoresBlank : Bool
  ignored : List Regex
  brief : Bool
  reportsSame : Bool
  recursive : Bool
  /-- Whether a missing file counts as empty. -/
  fills : Bool
  textual : Bool
  stripsReturns : Bool
  expandsTabs : Bool
  tabFirst : Bool
  width : Nat
  leftColumn : Bool
  skipsCommon : Bool
  labels : List Octets
  excluded : List Octets
  /-- The options as they were given. -/
  switches : Octets

/-- Whether differences are shown as commands of an editor, which ends all lines. -/
def Plan.isEdited (plan : Plan) : Bool :=
  plan.form = .commands || plan.form = .forwardCommands

/-! ## Lines -/

/-- Whether a character is white. -/
def isWhite (c : Char) : Bool :=
  c == ' ' || ('\t' ≤ c && c ≤ '\r')

/-- A text with each run of white characters made one blank. -/
def narrowed (text : Octets) : Octets :=
  ((text.splitBy fun a b => isWhite a && isWhite b).map fun run =>
    if run.any isWhite then [' '] else run).flatten

/-- A text without white characters at its end. -/
def trimmed (text : Octets) : Octets :=
  (text.reverse.dropWhile isWhite).reverse

/-- A line with tabs made blanks; the column of what follows is given. -/
def untabbed : Nat → Octets → Octets
  | _, [] => []
  | column, '\t' :: rest =>
    let count := 8 - column % 8
    List.replicate count ' ' ++ untabbed (column + count) rest
  | column, c :: rest => c :: untabbed (column + 1) rest

/-- What of a line counts, by the options that are given. -/
def essenceOf (g : Given) (line : Octets) : Octets :=
  let line := if g.has 'i' then line.map Char.toLower else line
  let line := if g.has 'E' then untabbed 0 line else line
  if g.has 'w' then line.filter fun c => !isWhite c
  else if g.has 'b' then narrowed (trimmed line)
  else if g.has 'Z' then trimmed line
  else line

/-- The numbers of texts, the same for the same texts, and all that have a number then. -/
def numbered (texts : List Octets) (known : List (Octets × Nat)) :
    List Nat × List (Octets × Nat) :=
  let step (state : List Nat × List (Octets × Nat)) (text : Octets) :
      List Nat × List (Octets × Nat) :=
    match state.2.lookup text with
    | some n => (n :: state.1, state.2)
    | none => (state.2.length :: state.1, (text, state.2.length) :: state.2)
  let (numbers, known) := texts.foldl step ([], known)
  (numbers.reverse, known)

/-- Lines of two files, and what differs. -/
structure Pair : Type where
  first : Array Octets
  second : Array Octets
  hunks : List Hunk

/-- How many lines at the start of two texts are the same. -/
def equalLines : List Octets → List Octets → Nat
  | a :: x, b :: y => if a = b then equalLines x y + 1 else 0
  | _, _ => 0

/-- Compares lines. The same lines at the start and at the end are set aside, except for as many as
are shown around differences, so that differences can be moved there. -/
def Plan.align (plan : Plan) (first second : List Octets) : Pair :=
  let spared :=
    match plan.form with
    | .unified | .context => plan.context
    | _ => 0
  let start := equalLines first second - spared
  let (x, y) := (first.drop start, second.drop start)
  let stop := equalLines x.reverse y.reverse - spared
  let inner (lines : List Octets) : List Octets :=
    (lines.take (lines.length - stop)).map plan.essence
  let (a, known) := numbered (inner x) []
  let (b, _) := numbered (inner y) known
  let moved (h : Hunk) : Hunk := { h with first := h.first + start, second := h.second + start }
  ⟨first.toArray, second.toArray, (Alignment.hunks a.toArray b.toArray).map moved⟩

/-- The lines from a number on. -/
def slice (lines : Array Octets) (start count : Nat) : List Octets :=
  (List.range count).map fun i => lines.getD (start + i) []

/-- Whether what differs does not count. -/
def Plan.skips (plan : Plan) (pair : Pair) (h : Hunk) : Bool :=
  let trivial (line : Octets) : Bool :=
    let text := if line.getLast? == some '\n' then line.dropLast else line
    (plan.ignoresBlank && text.isEmpty) ||
      plan.ignored.any fun r => (Regex.find? { form := .basic } r text.toArray 0).isSome
  (plan.ignoresBlank || !plan.ignored.isEmpty) &&
    (slice pair.first h.first h.removed ++ slice pair.second h.second h.added).all trivial

/-! ## Forms -/

/-- A line after its mark; that it has no end is noted. -/
def Plan.line (plan : Plan) (mark : Octets) (line : Octets) : Octets :=
  let text := if plan.expandsTabs then untabbed 0 line else line
  mark ++ text ++
    if line.getLast? == some '\n' then [] else "\n\\ No newline at end of file\n".toList

/-- Lines after their marks. -/
def Plan.lines (plan : Plan) (mark : Char) (lines : List Octets) : Octets :=
  let mark : Octets := [mark, if plan.tabFirst then '\t' else ' ']
  (lines.map (plan.line mark)).flatten

/-- The numbers of lines, the first of which is given, with something between them. -/
def range (between : Char) (start count : Nat) : Octets :=
  if count ≤ 1 then decimal (start + count)
  else decimal (start + 1) ++ between :: decimal (start + count)

/-- The letter for a difference. -/
def letter (h : Hunk) : Char :=
  if h.added = 0 then 'd' else if h.removed = 0 then 'a' else 'c'

/-- A difference in the usual form. -/
def Plan.normal (plan : Plan) (pair : Pair) (h : Hunk) : Octets :=
  range ',' h.first h.removed ++ letter h :: range ',' h.second h.added ++ ['\n'] ++
    plan.lines '<' (slice pair.first h.first h.removed) ++
    (if letter h = 'c' then "---\n".toList else []) ++
    plan.lines '>' (slice pair.second h.second h.added)

/-- Lines of the second file as an editor takes them. -/
def insertion : List Octets → Octets
  | [] => ".\n".toList
  | ['.', '\n'] :: rest =>
    "..\n.\ns/.//\n".toList ++ if rest.isEmpty then [] else "a\n".toList ++ insertion rest
  | line :: rest => line ++ insertion rest

/-- A difference as a command of an editor. -/
def command (pair : Pair) (h : Hunk) : Octets :=
  range ',' h.first h.removed ++ [letter h, '\n'] ++
    if h.added = 0 then [] else insertion (slice pair.second h.second h.added)

/-- A difference as a command with its letter first. -/
def forwardCommand (pair : Pair) (h : Hunk) : Octets :=
  letter h :: range ' ' h.first h.removed ++ ['\n'] ++
    if h.added = 0 then []
    else (slice pair.second h.second h.added).flatten ++ ".\n".toList

/-- A difference as commands with numbers of lines. -/
def countedCommand (pair : Pair) (h : Hunk) : Octets :=
  (if h.removed = 0 then []
    else 'd' :: decimal (h.first + 1) ++ ' ' :: decimal h.removed ++ ['\n']) ++
  if h.added = 0 then []
  else
    'a' :: decimal (h.first + h.removed) ++ ' ' :: decimal h.added ++ ['\n'] ++
      (slice pair.second h.second h.added).flatten

/-- Differences that are shown together, since they are close to each other. -/
def Plan.groups (plan : Plan) (pair : Pair) : List Hunk → List (List Hunk)
  | [] => []
  | h :: rest =>
    match groups plan pair rest with
    | (next :: more) :: others =>
      let gap := next.first - (h.first + h.removed)
      let limit :=
        if plan.skips pair h || plan.skips pair next then plan.context else 2 * plan.context + 1
      if gap < limit then (h :: next :: more) :: others else [h] :: (next :: more) :: others
    | others => [h] :: others

/-- The lines of both files that a group shows: where they start and end. -/
structure Window : Type where
  first : Nat
  firstEnd : Nat
  second : Nat
  secondEnd : Nat
  deriving Repr

/-- The lines that a group shows. -/
def Plan.window (plan : Plan) (pair : Pair) (group : List Hunk) : Window :=
  let start := group.headD ⟨0, 0, 0, 0⟩
  let last := group.getLastD ⟨0, 0, 0, 0⟩
  { first := start.first - plan.context
    firstEnd := min pair.first.size (last.first + last.removed + plan.context)
    second := start.second - plan.context
    secondEnd := min pair.second.size (last.second + last.added + plan.context) }

/-- The numbers of lines in the unified form. -/
def unifiedRange (start stop : Nat) : Octets :=
  if stop ≤ start then decimal start ++ ",0".toList
  else if stop = start + 1 then decimal stop
  else decimal (start + 1) ++ ',' :: decimal (stop - start)

/-- The lines of a group in the unified form, from a line of the first file on. -/
def Plan.unifiedLines (plan : Plan) (pair : Pair) (stop : Nat) : List Hunk → Nat → Octets
  | [], i => (slice pair.first i (stop - i)).flatMap (plan.line (common plan))
  | h :: rest, i =>
    (slice pair.first i (h.first - i)).flatMap (plan.line (common plan)) ++
      (slice pair.first h.first h.removed).flatMap (plan.line (mark plan '-')) ++
      (slice pair.second h.second h.added).flatMap (plan.line (mark plan '+')) ++
      unifiedLines plan pair stop rest (h.first + h.removed)
where
  /-- The mark of lines that do not differ. -/
  common (plan : Plan) : Octets := [if plan.tabFirst then '\t' else ' ']
  /-- The mark of lines that differ. -/
  mark (plan : Plan) (c : Char) : Octets := if plan.tabFirst then [c, '\t'] else [c]

/-- A group in the unified form. -/
def Plan.unified (plan : Plan) (pair : Pair) (group : List Hunk) : Octets :=
  let w := plan.window pair group
  "@@ -".toList ++ unifiedRange w.first w.firstEnd ++ " +".toList ++
    unifiedRange w.second w.secondEnd ++ " @@\n".toList ++
    plan.unifiedLines pair w.firstEnd group w.first

/-- The numbers of lines in the form with context. -/
def contextRange (start stop : Nat) : Octets :=
  if stop ≤ start + 1 then decimal stop else decimal (start + 1) ++ ',' :: decimal stop

/-- The mark of a line, given where differences start in its file, how long they are there and in
the other file, and the mark for what is only in its file. -/
def contextMark (i : Nat) (own : Char) (places : List (Nat × Nat × Nat)) : Char :=
  match places.find? fun (start, count, _) => start ≤ i && i < start + count with
  | some (_, _, others) => if others = 0 then own else '!'
  | none => ' '

/-- A group in the form with context. -/
def Plan.contextual (plan : Plan) (pair : Pair) (group : List Hunk) : Octets :=
  let w := plan.window pair group
  let side (lines : Array Octets) (start stop : Nat) (own : Char)
      (places : List (Nat × Nat × Nat)) : Octets :=
    if places.all fun (_, count, _) => count = 0 then []
    else
      ((List.range (stop - start)).map fun k =>
        plan.lines (contextMark (start + k) own places) [lines.getD (start + k) []]).flatten
  "***************\n*** ".toList ++ contextRange w.first w.firstEnd ++ " ****\n".toList ++
    side pair.first w.first w.firstEnd '-' (group.map fun h => (h.first, h.removed, h.added)) ++
    "--- ".toList ++ contextRange w.second w.secondEnd ++ " ----\n".toList ++
    side pair.second w.second w.secondEnd '+' (group.map fun h => (h.second, h.added, h.removed))

/-! ## Side by side -/

/-- The width of a column, and where the second column starts. -/
def Plan.columns (plan : Plan) : Nat × Nat :=
  let tab := if plan.expandsTabs then 1 else 8
  let w := plan.width
  let off := w / 2 + (tab + 3) / 2 + (if w % 2 = 1 && (tab + 3) % 2 = 1 then 1 else 0)
  let off := off - off % tab
  if off ≤ 3 || w ≤ off then (0, w) else (min (off - 3) (w - off), off)

/-- Blanks and tabs that lead from one column to another; at most the given number of tabs. -/
def Plan.advance (plan : Plan) : Nat → Nat → Nat → Octets
  | 0, start, stop => List.replicate (stop - start) ' '
  | n + 1, start, stop =>
    let next := start + 8 - start % 8
    if !plan.expandsTabs && next ≤ stop then '\t' :: advance plan n next stop
    else List.replicate (stop - start) ' '

/-- As much of a line as has room, and the column after it. The columns of the text and of what is
printed are given. -/
def Plan.half (plan : Plan) (room : Nat) : Nat → Nat → Octets → Octets × Nat
  | _, out, [] => ([], out)
  | _, out, '\n' :: _ => ([], out)
  | place, out, '\t' :: rest =>
    let count := 8 - place % 8
    if place = out && out + count < room then
      let (text, stop) := half plan room (place + count) (out + count) rest
      ((if plan.expandsTabs then List.replicate count ' ' else ['\t']) ++ text, stop)
    else half plan room (place + count) out rest
  | place, out, c :: rest =>
    if place + 1 ≤ room then
      let (text, stop) := half plan room (place + 1) (place + 1) rest
      (c :: text, stop)
    else half plan room (place + 1) out rest

/-- A row of two columns. -/
def Plan.row (plan : Plan) (left : Option Octets) (mark : Char) (right : Option Octets) : Octets :=
  let (width, offset) := plan.columns
  let isEnded (line : Option Octets) : Bool := (line.bind List.getLast?) == some '\n'
  let (text, column) := (left.map (plan.half width 0 0)).getD ([], 0)
  let mark :=
    if mark = '|' && isEnded left != isEnded right then (if isEnded left then '/' else '\\')
    else mark
  let gutter := (width + offset - 1) / 2
  let (sign, column) :=
    if mark = ' ' then ([], column)
    else (plan.advance gutter column gutter ++ [mark], gutter + 1)
  let rest : Octets :=
    match right with
    | some ['\n'] | none => []
    | some line => plan.advance offset column offset ++ (plan.half width 0 0 line).1
  text ++ sign ++ rest ++ if isEnded left || isEnded right then ['\n'] else []

/-- Lines that do not differ, in two columns. -/
def Plan.commonRows (plan : Plan) (first second : List Octets) : Octets :=
  if plan.skipsCommon then []
  else if plan.leftColumn then (first.map fun line => plan.row (some line) '(' none).flatten
  else ((first.zip second).map fun (a, b) => plan.row (some a) ' ' (some b)).flatten

/-- All lines in two columns, from given lines on. -/
def Plan.rows (plan : Plan) (pair : Pair) : List Hunk → Nat → Nat → Octets
  | [], i, j =>
    plan.commonRows (slice pair.first i (pair.first.size - i))
      (slice pair.second j (pair.second.size - j))
  | h :: rest, i, j =>
    let first := slice pair.first h.first h.removed
    let second := slice pair.second h.second h.added
    let common := min h.removed h.added
    plan.commonRows (slice pair.first i (h.first - i)) (slice pair.second j (h.second - j)) ++
      ((first.zip second).map fun (a, b) => plan.row (some a) '|' (some b)).flatten ++
      ((second.drop common).map fun line => plan.row none '>' (some line)).flatten ++
      ((first.drop common).map fun line => plan.row (some line) '<' none).flatten ++
      rows plan pair rest (h.first + h.removed) (h.second + h.added)

/-! ## Files -/

/-- What is compared: its path, and what is there. -/
structure Side : Type where
  path : Octets
  /-- The text of a file; a directory has none. -/
  text : Option Octets
  /-- Whether there is something. -/
  present : Bool := true

/-- What stands in front of the differences of two files. -/
def Plan.header (plan : Plan) (inside : Bool) (a b : Side) : Octets :=
  let stamp := "\t1970-01-01 00:00:00.000000000 +0000".toList
  let titleOf (i : Nat) (side : Side) : Octets :=
    (plan.labels[i]?).getD (side.path ++ stamp)
  let titles (first second : String) : Octets :=
    first.toList ++ titleOf 0 a ++ ['\n'] ++ second.toList ++ titleOf 1 b ++ ['\n']
  (if inside then
    "diff".toList ++ plan.switches ++ ' ' :: Quoting.lead a.path ++ ' ' :: Quoting.lead b.path ++
      ['\n']
  else []) ++
  match plan.form with
  | .unified => titles "--- " "+++ "
  | .context => titles "*** " "--- "
  | _ => []

/-- The differences of two files, in the form that is wanted, and whether there are any. -/
def Plan.shown (plan : Plan) (pair : Pair) : Octets × Bool :=
  let counted := pair.hunks.filter fun h => !plan.skips pair h
  let groups := (plan.groups pair pair.hunks).filter fun group =>
    group.any fun h => !plan.skips pair h
  let text := match plan.form with
    | .normal => counted.flatMap (plan.normal pair)
    | .unified => groups.flatMap (plan.unified pair)
    | .context => groups.flatMap (plan.contextual pair)
    | .commands => counted.reverse.flatMap (command pair)
    | .forwardCommands => counted.flatMap (forwardCommand pair)
    | .counted => counted.flatMap (countedCommand pair)
    | .sideBySide => plan.rows pair pair.hunks 0 0
  (text, !counted.isEmpty)

/-- A text without the returns in front of ends of lines. -/
def withoutReturns : Octets → Octets
  | '\r' :: '\n' :: rest => '\n' :: withoutReturns rest
  | c :: rest => c :: withoutReturns rest
  | [] => []

/-- Compares two files. -/
def Plan.files (plan : Plan) (inside : Bool) (a b : Side) (first second : Octets) :
    StateM Process Nat := do
  let report (between after : String) : StateM Process Unit :=
    say ("Files ".toList ++ a.path ++ between.toList ++ b.path ++ after.toList)
  let isBinary := !plan.textual && (first.contains '\x00' || second.contains '\x00')
  let clean (text : Octets) : Octets := if plan.stripsReturns then withoutReturns text else text
  let alike : StateM Process Nat := do
    if plan.reportsSame then report " and " " are identical\n"
    pure 0
  if isBinary then
    if first = second then alike
    else
      if plan.brief then report " and " " differ\n"
      else
        say ("Binary files ".toList ++ a.path ++ " and ".toList ++ b.path ++ " differ\n".toList)
      pure 1
  else
    let linesOf (text : Octets) : List Octets :=
      if plan.isEdited then (recordsOf '\n' text).map (· ++ ['\n']) else keepEnds '\n' text
    let pair := plan.align (linesOf (clean first)) (linesOf (clean second))
    let (text, differs) := plan.shown pair
    if plan.brief then
      if differs then
        report " and " " differ\n"
        pure 1
      else alike
    else
      if differs || (plan.form = .sideBySide && !plan.skipsCommon) then
        say (plan.header inside a b ++ text)
      let unended (side : Side) (text : Octets) : StateM Process Nat := do
        if plan.isEdited && !text.isEmpty && text.getLast? != some '\n' then
          fault (side.path ++ ": No newline at end of file\n".toList)
          pure 2
        else pure 0
      let code ← unended a first
      let code := max code (← unended b second)
      if differs then pure (max code 1) else if code = 0 then alike else pure code

/-- What an entry is called. -/
def kindOf (side : Side) : String :=
  match side.text with
  | none => "directory"
  | some [] => "regular empty file"
  | some _ => "regular file"

/-- What there is at a path, or why it cannot be read. -/
def sideAt (path : Octets) : StateM Process (Except OsError Side) := do
  if path = ['-'] then
    match ← readSource path with
    | .ok text => pure (.ok { path, text := some text })
    | .error u => pure (.error u.error)
  else
    let p ← get
    match p.readFile path with
    | .ok text => pure (.ok { path, text := some text })
    | .error .isDirectory => pure (.ok { path, text := none })
    | .error e => pure (.error e)

/-- The names in a directory; those that are not to be compared are left out. -/
def Plan.namesOf (plan : Plan) (p : Process) (side : Side) : List Octets :=
  if !side.present then []
  else
    match locationOf p side.path with
    | .error _ => []
    | .ok location =>
      (namesIn p location).filter fun name =>
        !plan.excluded.any fun pattern => (Pattern.ofText pattern).covers name

/-- Compares what there is at two paths; directories are gone through at most as deep as is given.
-/
def Plan.sides (plan : Plan) : Nat → Bool → Side → Side → StateM Process Nat
  | 0, _, _, _ => pure 2
  | n + 1, inside, a, b =>
    match a.text, b.text with
    | some first, some second => plan.files inside a b first second
    | none, none => do
      if a.present && b.present && areSame (← get) a.path b.path then pure 0
      else if inside && !plan.recursive then
        say ("Common subdirectories: ".toList ++ a.path ++ " and ".toList ++ b.path ++ ['\n'])
        pure 0
      else
        let p ← get
        let ours := plan.namesOf p a
        let theirs := plan.namesOf p b
        overAll (sorted (ours ++ theirs)).eraseReps fun name => do
          let only (side : Side) : StateM Process Nat := do
            say ("Only in ".toList ++ side.path ++ ": ".toList ++ name ++ ['\n'])
            pure 1
          let inFirst := ours.contains name
          let inSecond := theirs.contains name
          if inFirst && !inSecond && !plan.fills then only a
          else if inSecond && !inFirst && !plan.fills then only b
          else
            let sideIn (side : Side) (there : Bool) : StateM Process (Option Side) := do
              let path := within side.path name
              if !there then return some { path, text := some [], present := false }
              match ← sideAt path with
              | .ok side => pure (some side)
              | .error e => do
                fault (path ++ ": ".toList ++ e.description.toList)
                pure none
            match ← sideIn a inFirst, ← sideIn b inSecond with
            | some x, some y =>
              -- What is missing counts as empty, of the kind that the other one is.
              let x := if inFirst then x else { x with text := y.text.map fun _ => [] }
              let y := if inSecond then y else { y with text := x.text.map fun _ => [] }
              sides plan n true x y
            | _, _ => pure 2
    | _, _ => do
      say ("File ".toList ++ a.path ++ " is a ".toList ++ (kindOf a).toList ++
        " while file ".toList ++
        b.path ++ " is a ".toList ++ (kindOf b).toList ++ ['\n'])
      pure 1

/-- Compares what is at the paths that were given. -/
def Plan.paths (plan : Plan) (first second : Octets) : StateM Process Nat := do
  let report (path : Octets) (e : OsError) : StateM Process Unit :=
    fault (path ++ ": ".toList ++ e.description.toList)
  let a ← sideAt first
  let b ← sideAt second
  let missing (path : Octets) : Side := { path, text := some [], present := false }
  let directory (path : Octets) : Side := { path, text := none, present := false }
  match a, b with
  | .ok a, .ok b =>
    let inDirectory (side : Side) (file : Octets) : StateM Process (Option Side) := do
      if file = ['-'] then
        fault "cannot compare '-' to a directory".toList
        return none
      let path := within side.path (lastName file)
      match ← sideAt path with
      | .ok side => pure (some side)
      | .error e => do
        report path e
        pure none
    match a.text, b.text with
    | none, some _ => do
      match ← inDirectory a b.path with
      | some a => plan.sides 100 false a b
      | none => pure 2
    | some _, none => do
      match ← inDirectory b a.path with
      | some b => plan.sides 100 false a b
      | none => pure 2
    | _, _ => plan.sides 100 false a b
  | .error e, .error f => do
    report first e
    report second f
    pure 2
  | .error e, .ok b =>
    if plan.fills && e = .noSuchFile then
      plan.sides 100 false (if b.text.isNone then directory first else missing first) b
    else do
      report first e
      pure 2
  | .ok a, .error e =>
    if plan.fills && e = .noSuchFile then
      plan.sides 100 false a (if a.text.isNone then directory second else missing second)
    else do
      report second e
      pure 2

end Differences

/-! ## The tool -/

/-- Reports a misuse, with the name of the tool in front of each line. -/
def misuseTwice (message : Octets) : StateM Process Nat := do
  fault message
  fault ("Try '".toList ++ (← get).name ++ " --help' for more information.".toList)
  pure 2

/-- Runs work with the options of a tool, or reports what is wrong with them. -/
def withOptionsTwice (known : List KnownOption) (work : List Octets → Given → StateM Process Nat) :
    Tool := fun arguments =>
  match OptionList.read known false arguments.length arguments with
  | .ok given => work arguments given
  | .error e => misuseTwice e.message

/-- Work on two operands; the other arguments are given too. -/
def onTwo (arguments : List Octets) (operands : List Octets)
    (work : Octets → Octets → StateM Process Nat) : StateM Process Nat := do
  match operands with
  | [first, second] => work first second
  | _ :: _ :: extra :: _ => misuseTwice ("extra operand ".toList ++ Quoting.value extra)
  | few => do
    let last := (few.getLast?.or arguments.getLast?).getD (← get).name
    misuseTwice ("missing operand after ".toList ++ Quoting.value last)

namespace Differences

/-- The options of the tool. -/
def known : List KnownOption :=
  ("0123456789".toList.map fun c => flag c) ++
  [flag 'a' ["text"], flag 'b' ["ignore-space-change"], flag 'B' ["ignore-blank-lines"], flag 'c',
    valued 'C', flag 'd' ["minimal"], flag 'e' ["ed"], flag 'E' ["ignore-tab-expansion"],
    flag 'f' ["forward-ed"], valued 'F' ["show-function-line"], flag 'H' ["speed-large-files"],
    flag 'i' ["ignore-case"], valued 'I' ["ignore-matching-lines"], valued 'L' ["label"],
    flag 'n' ["rcs"], flag 'N' ["new-file"], flag 'p' ["show-c-function"], flag 'q' ["brief"],
    flag 'r' ["recursive"], flag 's' ["report-identical-files"], flag 't' ["expand-tabs"],
    flag 'T' ["initial-tab"], flag 'u', valued 'U', flag 'w' ["ignore-all-space"],
    valued 'W' ["width"], valued 'x' ["exclude"], flag 'y' ["side-by-side"],
    flag 'Z' ["ignore-trailing-space"], named '%' "normal", named '(' "left-column",
    named ')' "suppress-common-lines", named '^' "strip-trailing-cr", named '#' "color" .perhaps,
    named '&' "no-dereference", named '@' "unified" .perhaps, named '*' "context" .perhaps]

/-- The forms that options ask for. -/
def formsOf (g : Given) : List Form :=
  g.options.filterMap fun (key, _) =>
    if key = 'u' || key = 'U' || key = '@' then some .unified
    else if key = 'c' || key = 'C' || key = '*' then some .context
    else if key = 'e' then some .commands
    else if key = 'f' then some .forwardCommands
    else if key = 'n' then some .counted
    else if key = 'y' then some .sideBySide
    else if key = '%' then some .normal
    else none

/-- How many lines around differences are shown. -/
def contextOf (g : Given) : Nat :=
  let own := g.options.filterMap fun (key, value) =>
    if key = 'u' || key = 'c' then some 3
    else if "UC@*".toList.contains key then some ((value.map number).getD 3)
    else none
  let digits := (g.options.map Prod.fst).filter Char.isDigit
  let own := if digits.isEmpty then own else [number digits]
  match own.foldl max 0, own with
  | _, [] => 3
  | most, _ => most

/-- The arguments in front of operands that are options. -/
def switchesOf (arguments operands : List Octets) : List Octets :=
  let drop (state : List Octets × List Octets) (argument : Octets) : List Octets × List Octets :=
    match state.2 with
    | operand :: rest =>
      if operand = argument then (state.1, rest) else (argument :: state.1, state.2)
    | [] => (argument :: state.1, [])
  (arguments.reverse.foldl drop ([], operands.reverse)).1

end Differences

/-- Prints what differs between two files or directories. -/
def diff : Tool :=
  withOptionsTwice Differences.known fun arguments g => do
  let isNumber (text : Octets) : Bool := !text.isEmpty && text.all Char.isDigit
  let badContext :=
    (g.options.filterMap fun (key, value) =>
      if "UC@*".toList.contains key then value else none).find? fun text => !isNumber text
  let badWidth := (g.valuesOf 'W').find? fun text => !isNumber text || number text = 0
  let forms := Differences.formsOf g
  let patterns := (g.valuesOf 'I').map fun text => Regex.parse { form := .basic } text
  match badContext, badWidth, patterns.findSome? fun
    | .error e => some e
    | .ok _ => none with
  | some text, _, _ => misuseTwice ("invalid context length ".toList ++ Quoting.value text)
  | none, some text, _ => misuseTwice ("invalid width ".toList ++ Quoting.value text)
  | none, none, some e => do
    fault e.message.toList
    pure 2
  | none, none, none =>
    if forms.any fun form => form != forms.headD .normal then
      misuseTwice "conflicting output style options".toList
    else if 2 < (g.valuesOf 'L').length then misuseTwice "too many file label options".toList
    else
      let switches := (Differences.switchesOf arguments g.operands).flatMap fun argument =>
        ' ' :: Quoting.lead argument
      let plan : Differences.Plan :=
        { form := forms.headD .normal
          context := Differences.contextOf g
          essence := Differences.essenceOf g
          ignoresBlank := g.has 'B'
          ignored := patterns.filterMap Except.toOption
          brief := g.has 'q'
          reportsSame := g.has 's'
          recursive := g.has 'r'
          fills := g.has 'N'
          textual := g.has 'a'
          stripsReturns := g.has '^'
          expandsTabs := g.has 't'
          tabFirst := g.has 'T'
          width := ((g.value? 'W').map number).getD 130
          leftColumn := g.has '('
          skipsCommon := g.has ')'
          labels := g.valuesOf 'L'
          excluded := g.valuesOf 'x'
          switches }
      onTwo arguments g.operands plan.paths

end Fleet.Tools
