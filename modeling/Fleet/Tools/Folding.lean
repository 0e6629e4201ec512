import Fleet.Tools.Inputs

/-!
# Folding lines

The tool `fold`: it cuts lines that are too wide, if asked for behind blanks.
-/

namespace Fleet.Tools

open Shell

namespace Folding

/-- How lines are folded. -/
structure Plan : Type where
  width : Nat
  /-- Whether octets are counted rather than columns. -/
  octets : Bool
  /-- Whether lines are cut behind blanks. -/
  atBlanks : Bool
  deriving Repr

/-- What has been printed, and the current line, each with the last octet first. -/
structure State : Type where
  done : Octets := []
  line : Octets := []
  column : Nat := 0

/-- The column behind an octet. -/
def Plan.after (plan : Plan) (column : Nat) (c : Char) : Nat :=
  if plan.octets then column + 1
  else
    match c with
    | '\x08' => column - 1
    | '\r' => 0
    | '\t' => column + 8 - column % 8
    | _ => column + 1

/-- The state after an octet. A line that it makes too wide is cut, after which it is looked at
again. -/
def Plan.push (plan : Plan) (c : Char) : Nat → State → State
  | 0, s => { s with line := c :: s.line }
  | n + 1, s =>
    if c = '\n' then { done := c :: s.line ++ s.done }
    else
      let column := plan.after s.column c
      if column ≤ plan.width then { s with line := c :: s.line, column }
      else
        let tail := s.line.takeWhile fun d => d != ' ' && d != '\t'
        let isCut := plan.atBlanks && tail.length < s.line.length
        if isCut then
          let column := tail.reverse.foldl plan.after 0
          plan.push c n
            { done := '\n' :: s.line.drop tail.length ++ s.done, line := tail, column }
        else if s.line.isEmpty then { s with line := [c], column }
        else plan.push c n { done := '\n' :: s.line ++ s.done }

/-- A text with its lines folded. -/
def Plan.text (plan : Plan) (text : Octets) : Octets :=
  let s := text.foldl (fun s c => plan.push c (s.line.length + 2) s) ({} : State)
  (s.line ++ s.done).reverse

/-- Arguments with a width such as `-40` in its usual form. -/
def modernWidth (arguments : List Octets) : List Octets :=
  arguments.flatMap fun argument =>
    match argument with
    | '-' :: d :: rest => if d.isDigit then [['-', 'w'], d :: rest] else [argument]
    | argument => [argument]

end Folding

/-- Prints files with long lines cut. -/
def fold : Tool := fun arguments =>
  withOptions [flag 'b' ["bytes"], flag 's' ["spaces"], valued 'w' ["width"]] (fun g =>
    let what := "number of columns"
    let text := (g.value? 'w').getD "80".toList
    let width := (countOf what text).bind fun width =>
      if width = 0 then
        .error (("invalid " ++ what ++ ": ").toList ++ Quoting.value text ++
          ": Numerical result out of range".toList)
      else .ok width
    orFault width fun width =>
      let plan : Folding.Plan := { width, octets := g.has 'b', atBlanks := g.has 's' }
      filterText g.operands plan.text) 1 false (Folding.modernWidth arguments)

end Fleet.Tools
