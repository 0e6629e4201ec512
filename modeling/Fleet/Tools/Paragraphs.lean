import Fleet.Tools.Inputs

/-!
# Filling paragraphs

The tool `fmt`: it breaks the lines of paragraphs anew, so that they come near to a length. Every
way to break a paragraph has a cost, which grows with the distance of its lines from that length and
of each line from the next; the cheapest way is taken. The ends of sentences are good places to
break.
-/

namespace Fleet.Tools

open Shell

namespace Paragraphs

/-- What is asked for. -/
structure Style : Type where
  width : Nat := 75
  goal : Nat := 70
  crown : Bool := false
  tagged : Bool := false
  split : Bool := false
  uniform : Bool := false
  /-- What lines start with that are filled, without the blanks around it. -/
  mark : Octets := []
  /-- The blanks in front of it and behind it. -/
  lead : Nat := 0
  trail : Nat := 0

/-! ## Words -/

/-- A word, with the space behind it. -/
structure Part : Type where
  text : Octets
  space : Nat
  /-- Whether it starts with a bracket or a quote. -/
  opens : Bool
  /-- Whether it ends like a sentence, perhaps with brackets behind that. -/
  period : Bool
  /-- Whether it ends with a mark. -/
  marked : Bool
  /-- Whether a sentence ends with it. -/
  final : Bool
  deriving Repr

/-- White characters. -/
def isWhite (c : Char) : Bool :=
  c == ' ' || ('\t' ≤ c && c ≤ '\r')

/-- A mark, such as a comma. -/
def isMark (c : Char) : Bool :=
  '!' ≤ c && c ≤ '~' && !c.isAlphanum

/-- The column behind blanks. -/
def columnAfter (column : Nat) (blanks : Octets) : Nat :=
  blanks.foldl (fun column c => if c = '\t' then (column / 8 + 1) * 8 else column + 1) column

/-- Blanks and tabs. -/
def isBlank (c : Char) : Bool :=
  c == ' ' || c == '\t'

/-- The word with a text, with the space behind it. -/
def part (text : Octets) (space : Nat) (atEnd uniform ends : Bool) : Part :=
  let closers := text.reverse.takeWhile ")]'\"".toList.contains
  let core := if closers.length = text.length then text.take 1
    else text.take (text.length - closers.length)
  let period := core.getLast?.any ".?!".toList.contains
  let final := ends || (period && (atEnd || 1 < space))
  { text
    space := if atEnd || uniform then (if final then 2 else 1) else space
    opens := text.head?.any "(['`\"".toList.contains
    period
    marked := text.getLast?.any isMark
    final }

/-- The words of a line from a column on; at most as many as given. `ends` says whether nothing
follows the line, not even its end. -/
def parts (uniform ends : Bool) : Nat → Nat → Octets → List Part
  | 0, _, _ => []
  | _, _, [] => []
  | n + 1, column, c :: rest =>
    let text := c :: rest.takeWhile fun c => !isWhite c
    let rest := rest.drop (text.length - 1)
    let blanks := rest.takeWhile isBlank
    let after := rest.drop blanks.length
    let start := column + text.length
    let stop := columnAfter start blanks
    part text (stop - start) after.isEmpty uniform (ends && after.isEmpty) ::
      parts uniform ends n stop after

/-! ## Lines -/

/-- A line that is read. -/
structure Line : Type where
  /-- The blanks in front of the mark. -/
  indent : Nat
  /-- The column at which the rest starts. -/
  column : Nat
  rest : Octets
  /-- Whether it is the last line, which has no end. -/
  isLast : Bool
  /-- Whether there are tabs in front of the rest, and in it. -/
  tabs : Bool
  inner : Bool
  deriving Repr

/-- As much of a mark as a text starts with. -/
def common : Octets → Octets → Nat
  | a :: as, b :: bs => if a = b then common as bs + 1 else 0
  | _, _ => 0

/-- A line as it is read. -/
def Style.line (s : Style) (isLast : Bool) (text : Octets) : Line :=
  let blanks := text.takeWhile isBlank
  let column := columnAfter 0 blanks
  let rest := text.drop blanks.length
  let tabs := blanks.contains '\t'
  let ofRest (indent column : Nat) (rest : Octets) (tabs : Bool) : Line :=
    { indent, column, rest, isLast, tabs, inner := rest.contains '\t' }
  if s.mark.isEmpty then ofRest (min s.lead column) column rest tabs
  else
    let same := common s.mark rest
    if same < s.mark.length then ofRest column (column + same) (rest.drop same) tabs
    else
      let rest := rest.drop same
      let more := rest.takeWhile isBlank
      ofRest column (columnAfter (column + same) more) (rest.drop more.length)
        (tabs || more.contains '\t')

/-- How long the mark is with the blanks behind it. -/
def Style.full (s : Style) : Nat :=
  s.mark.length + s.trail

/-- Whether a line stays as it is: it is empty, or lacks the mark. -/
def Style.keeps (s : Style) (l : Line) : Bool :=
  l.rest.isEmpty || l.indent < s.lead || l.column < l.indent + s.full

/-- Space from one column to another, with tabs if they are used. -/
def spaces (tabs : Bool) (start count : Nat) : Octets :=
  let stop := start + count
  let last := stop / 8 * 8
  if tabs && start + 1 < last then
    List.replicate (last / 8 - start / 8) '\t' ++ List.replicate (stop - last) ' '
  else List.replicate count ' '

/-- A line that stays as it is. -/
def Style.kept (s : Style) (tabs : Bool) (l : Line) : Octets :=
  let start :=
    if l.indent < l.column || !l.rest.isEmpty then
      let shown := s.mark.take (l.column - l.indent)
      let column := l.indent + shown.length
      spaces tabs 0 l.indent ++ shown ++
        (if l.rest.isEmpty then [] else spaces tabs column (l.column - column)) ++
        (if l.isLast && l.rest.isEmpty && l.indent + s.mark.length ≤ l.column then ['\n'] else [])
    else []
  start ++ l.rest ++ (if l.isLast then [] else ['\n'])

/-! ## Costs -/

/-- A square. -/
def square (n : Int) : Int :=
  n * n

/-- The cost of a line that differs from the goal. -/
def shortCost (n : Int) : Int :=
  square (n * 10)

/-- A word with the cheapest way to break the paragraph from it on. -/
structure Choice : Type where
  part : Part
  cost : Int
  /-- How long the line is that starts with the word, and how many words it has. -/
  length : Nat
  count : Nat
  /-- Whether the paragraph ends with that line. -/
  isLast : Bool
  deriving Repr

/-- What breaking in front of a word costs, whatever the line is like; the words before it are
given, the last first. -/
def baseCost (before : List Part) (p : Part) : Int :=
  let here : Int := match before with
    | last :: more =>
      if last.period then (if last.final then -2500 else 360000)
      else if last.marked then -1600
      else
        match more with
        | second :: _ => if second.final then 40000 / (last.text.length + 2 : Int) else 0
        | [] => 0
    | [] => 0
  let own : Int :=
    if p.opens then -1600 else if p.final then 22500 / (p.text.length + 2 : Int) else 0
  4900 + here + own

/-- What a line costs that ends in front of some words. -/
def lineCost (goal : Nat) (length : Nat) : List Choice → Int
  | [] => 0
  | next :: _ =>
    shortCost (goal - length) +
      (if next.isLast then 0 else shortCost (length - next.length) / 2) + next.cost

/-- The cheapest of the places where a line can end. The line has some words up to now, with the
space behind the last of them. -/
def cheapest (s : Style) : List Choice → Nat → Nat → Nat → Int × Nat × Nat × Bool
  | [], length, _, count => (lineCost s.goal length [], length, count, true)
  | next :: rest, length, space, count =>
    let own := lineCost s.goal length (next :: rest)
    let longer := length + space + next.part.text.length
    if longer < s.width then
      let found := cheapest s rest longer next.part.space (count + 1)
      if found.1 < own then found else (own, length, count, false)
    else (own, length, count, false)

/-- The cheapest ways to break a paragraph from each of its words on. -/
def plan (s : Style) (first other : Nat) : List Part → List Part → List Choice
  | _, [] => []
  | before, p :: rest =>
    let after := plan s first other (p :: before) rest
    let indent := if before.isEmpty then first else other
    let (cost, length, count, isLast) := cheapest s after (indent + p.text.length) p.space 1
    { part := p, cost := cost + baseCost before p, length, count, isLast } :: after

/-! ## Paragraphs -/

/-- The words of a line with the space between them, from a column on. -/
def written (tabs : Bool) : Nat → List Part → Octets
  | _, [] => []
  | _, [p] => p.text
  | column, p :: rest =>
    let behind := column + p.text.length
    p.text ++ spaces tabs behind p.space ++ written tabs (behind + p.space) rest

/-- A paragraph with its lines broken anew; at most as many lines as given. -/
def broken (s : Style) (tabs : Bool) (lead other : Nat) : Nat → Nat → List Choice → Octets
  | 0, _, _ => []
  | _, _, [] => []
  | n + 1, indent, c :: rest =>
    let own := (c :: rest).take c.count
    let start := spaces tabs 0 lead ++ s.mark
    let column := lead + s.mark.length
    start ++ spaces tabs column (indent - column) ++
      written tabs (max column indent) (own.map Choice.part) ++
      '\n' :: broken s tabs lead other n other ((c :: rest).drop c.count)

/-- The words of a paragraph, of which the last one ends a sentence. -/
def closed (all : List Part) : List Part :=
  match all.reverse with
  | [] => []
  | last :: before => ({ last with period := true, final := true } :: before).reverse

/-- The indent of the other lines of a paragraph. -/
def Style.other (s : Style) (first old : Nat) (same : Option Line) : Nat :=
  if s.split then first
  else if s.crown then (same.map Line.column).getD first
  else if s.tagged then
    match same with
    | some l =>
      if l.column ≠ first then l.column
      else if old = first then (if first = 0 then 3 else 0) else old
    | none => if old = first then (if first = 0 then 3 else 0) else old
  else first

/-- The lines of a text, broken anew; at most as many as given. -/
def lines (s : Style) : Nat → Bool → Nat → List Line → Octets
  | 0, _, _, _ => []
  | _, _, _, [] => []
  | n + 1, tabs, old, l :: rest =>
    let tabs := tabs || l.tabs
    if s.keeps l then s.kept tabs l ++ lines s n tabs old rest
    else
      let words (l : Line) : List Part :=
        parts s.uniform l.isLast (l.rest.length + 1) l.column l.rest
      let same (other : Line) : Bool :=
        other.indent = l.indent && other.indent + s.full ≤ other.column && !other.rest.isEmpty
      let follows := rest.head?.filter same
      let other := s.other l.column old follows
      let body :=
        if s.split || (s.tagged && !s.crown && (follows.any fun f => f.column = l.column)) then []
        else rest.takeWhile fun f => same f && f.column = other
      let left := rest.drop body.length
      let tabs := tabs || l.inner || body.any (fun f => f.tabs || f.inner) ||
        (left.head?.any Line.tabs)
      let all := closed (words l ++ body.flatMap words)
      broken s tabs l.indent other (all.length + 1) l.column (plan s l.column other [] all) ++
        lines s n tabs other left

/-- A text with its paragraphs filled. -/
def Style.filled (s : Style) (text : Octets) : Octets :=
  let all := text.splitOn '\n'
  let read := (all.dropLast.map (s.line false)) ++ (all.getLast?.map (s.line true)).toList
  lines s (read.length + 1) false 0 read

/-- The style that options ask for. -/
def styleOf (g : Given) : Except Octets Style := do
  let count (text : Octets) (most : Nat) : Except Octets Nat := do
    let wrong := "invalid width: ".toList ++ Quoting.value text
    if text.isEmpty || !text.all Char.isDigit then throw wrong
    if most < number text then throw (wrong ++ ": Numerical result out of range".toList)
    pure (number text)
  let width ← (g.value? 'w').mapM fun text => count text 2500
  let goal ← (g.value? 'g').mapM fun text => count text (width.getD 75)
  let wide := width.getD ((goal.map (· + 10)).getD 75)
  let mark := (g.value? 'p').getD []
  let bare := mark.dropWhile (· == ' ')
  let core := (bare.reverse.dropWhile (· == ' ')).reverse
  pure
    { width := wide
      goal := goal.getD (wide * 187 / 200)
      crown := g.has 'c', tagged := g.has 't', split := g.has 's', uniform := g.has 'u'
      mark := core
      lead := mark.length - bare.length
      trail := bare.length - core.length }

end Paragraphs

/-- Fills paragraphs. -/
def fmt : Tool := fun arguments => do
  let isCount (argument : Octets) : Bool :=
    match argument with
    | '-' :: d :: _ => d.isDigit
    | _ => false
  let arguments :=
    match arguments with
    | first :: rest => if isCount first then ['-', 'w'] :: first.tail :: rest else first :: rest
    | [] => []
  withOptions [flag 'c' ["crown-margin"], valued 'p' ["prefix"], flag 's' ["split-only"],
    flag 't' ["tagged-paragraph"], flag 'u' ["uniform-spacing"], valued 'w' ["width"],
    valued 'g' ["goal"]] (fun g =>
      orFault (Paragraphs.styleOf g) fun style =>
        overAll (if g.operands.isEmpty then [['-']] else g.operands) fun path => do
          match ← readSource path with
          | .ok text => do
            say (style.filled text)
            pure 0
          | .error u => do
            if u.opened then fault "read error".toList
            else
              fault ("cannot open ".toList ++ Quoting.name path ++ " for reading: ".toList ++
                u.error.description.toList)
            pure 1) 1 false arguments

end Fleet.Tools
