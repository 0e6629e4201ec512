import Fleet.Tools.Inputs
import Fleet.Tools.Regex.Parser

/-!
# Numbering lines

The tool `nl`: it prints lines with numbers. A text has pages of three sections, a header, a body
and a footer, which start with lines of their own; in each section a style says which lines have
numbers.
-/

namespace Fleet.Tools

open Shell

namespace Numbering

/-- Which lines of a section have numbers. -/
inductive Style : Type where
  | all
  /-- Lines that are not empty. -/
  | filled
  | none
  /-- Lines that an expression matches. -/
  | matching (regex : Regex)

/-- The sections of a page. -/
inductive Section : Type where
  | header
  | body
  | footer
  deriving Repr, DecidableEq

/-- How numbers are written. -/
inductive Format : Type where
  | left
  | right
  | zeros
  deriving Repr, DecidableEq

/-- How lines are numbered. -/
structure Plan : Type where
  style : Section → Style
  format : Format
  width : Nat
  separator : Octets
  start : Int
  step : Int
  /-- How many empty lines in a row count as one. -/
  blanks : Nat
  /-- Whether numbers start again with each section. -/
  renews : Bool
  /-- What the line of a footer is; it is repeated for the other sections. -/
  delimiter : Octets

/-- Where numbering has come to. -/
structure State : Type where
  current : Section
  next : Int
  /-- How many empty lines there have been in a row. -/
  blanks : Nat := 0

/-- The style that a text names, or what is wrong with it. -/
def styleOf (what : String) (text : Octets) : Except (Octets × Bool) Style :=
  match text with
  | 'a' :: _ => .ok .all
  | 't' :: _ => .ok .filled
  | 'n' :: _ => .ok .none
  | 'p' :: pattern =>
    match Regex.parse { form := .basic } pattern with
    | .ok r => .ok (.matching r)
    | .error e => .error (e.message.toList, false)
  | _ => .error (("invalid " ++ what ++ " numbering style: ").toList ++ Quoting.value text, true)

/-- The integer that an option gives, between bounds. -/
def integerOf (what : String) (low high : Int) (text : Octets) : Except (Octets × Bool) Int :=
  let digits := if text.head? == some '-' || text.head? == some '+' then text.tail else text
  let n : Int := if text.head? == some '-' then -(number digits : Int) else number digits
  let complaint : Octets := ("invalid " ++ what ++ ": ").toList ++ Quoting.value text
  if digits.isEmpty || !digits.all Char.isDigit then .error (complaint, false)
  else if low ≤ n && n ≤ high then .ok n
  else if n.natAbs ≤ 0x7FFFFFFF then
    .error (complaint ++ ": Numerical result out of range".toList, false)
  else .error (complaint ++ ": Value too large for defined data type".toList, false)

/-- The section that a line starts. -/
def Plan.section? (plan : Plan) (line : Octets) : Option Section :=
  let times (n : Nat) : Octets := (List.replicate n plan.delimiter).flatten
  if line.length < 2 || plan.delimiter.length < 2 then none
  else if line = times 3 then some .header
  else if line = times 2 then some .body
  else if line = times 1 then some .footer
  else none

/-- A number as it is written. -/
def Plan.shown (plan : Plan) (n : Int) : Octets :=
  let text := (toString n).toList
  let space := plan.width - text.length
  match plan.format with
  | .left => text ++ List.replicate space ' '
  | .right => List.replicate space ' ' ++ text
  | .zeros =>
    if n < 0 then '-' :: List.replicate space '0' ++ text.tail
    else List.replicate space '0' ++ text

/-- A line with what stands in front of it, and where numbering has come to then. -/
def Plan.line (plan : Plan) (s : State) (line : Octets) : Octets × State :=
  let bare := List.replicate (plan.width + plan.separator.length) ' ' ++ line ++ ['\n']
  let numbered : Octets × State :=
    (plan.shown s.next ++ plan.separator ++ line ++ ['\n'],
      { s with next := s.next + plan.step, blanks := 0 })
  match plan.section? line with
  | some part =>
    (['\n'], { s with current := part, next := if plan.renews then plan.start else s.next })
  | none =>
    match plan.style s.current with
    | .all =>
      if !line.isEmpty || plan.blanks ≤ 1 || s.blanks + 1 = plan.blanks then numbered
      else (bare, { s with blanks := s.blanks + 1 })
    | .filled => if line.isEmpty then (bare, s) else numbered
    | .none => (bare, s)
    | .matching r =>
      if (Regex.find? { form := .basic } r line.toArray 0).isSome then numbered else (bare, s)

/-- The lines of a text with what stands in front of them. -/
def Plan.lines (plan : Plan) (text : Octets) : Octets :=
  let start : State := { current := .body, next := plan.start }
  let (pieces, _) := (linesOf text).foldl (fun (done, s) line =>
    let (shown, s) := plan.line s line
    (shown :: done, s)) (([] : List Octets), start)
  pieces.reverse.flatten

/-- The plan that options make, or what is wrong with them: a message, and whether it is a misuse.
-/
def planOf (g : Given) : Except (Octets × Bool) Plan := do
  let style (key : Char) (what usual : String) : Except (Octets × Bool) Style :=
    styleOf what ((g.value? key).getD usual.toList)
  let integer (key : Char) (what : String) (low high usual : Int) : Except (Octets × Bool) Int :=
    match g.value? key with
    | some text => integerOf what low high text
    | none => .ok usual
  let top : Int := 0x7FFFFFFFFFFFFFFF
  let start ← integer 'v' "starting line number" (-top - 1) top 1
  let step ← integer 'i' "line number increment" (-top - 1) top 1
  let blanks ← integer 'l' "line number of blank lines" 1 top 1
  let width ← integer 'w' "line number field width" 1 0x7FFFFFFF 6
  let format : Format ←
    match String.ofList ((g.value? 'n').getD "rn".toList) with
    | "ln" => pure .left
    | "rn" => pure .right
    | "rz" => pure .zeros
    | other =>
      throw ("invalid line numbering format: ".toList ++ Quoting.value other.toList, true)
  let header ← style 'h' "header" "n"
  let body ← style 'b' "body" "t"
  let footer ← style 'f' "footer" "n"
  let delimiter := match g.value? 'd' with
    | some [c] => [c, ':']
    | some text => text
    | none => ['\\', ':']
  pure
    { style := fun
        | .header => header
        | .body => body
        | .footer => footer
      format, start, step, delimiter
      width := width.toNat
      blanks := blanks.toNat
      separator := (g.value? 's').getD ['\t']
      renews := !g.has 'p' }

end Numbering

/-- Prints lines with their numbers. -/
def nl : Tool :=
  withOptions [valued 'b' ["body-numbering"], valued 'd' ["section-delimiter"],
    valued 'f' ["footer-numbering"], valued 'h' ["header-numbering"],
    valued 'i' ["line-increment"], valued 'l' ["join-blank-lines"], valued 'n' ["number-format"],
    flag 'p' ["no-renumber"], valued 's' ["number-separator"],
    valued 'v' ["starting-line-number"], valued 'w' ["number-width"]] fun g => do
  match Numbering.planOf g with
  | .ok plan => filterText g.operands plan.lines
  | .error (message, isMisuse) => do
    if isMisuse then misuse message else fault message
    pure 1

end Fleet.Tools
