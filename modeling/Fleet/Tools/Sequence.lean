import Fleet.Decimal.Binary
import Fleet.Tools.Inputs
import Fleet.Tools.Layout

/-!
# Sequences of numbers

The tool `seq`: numbers from a first to a last one, the same distance apart. They are written with
as many places as the first one and the distance have, or by a format.
-/

namespace Fleet.Tools

open Shell Decimal

namespace Sequence

/-- A number as it was given: its value, how wide it is as it would be printed, and how many places
it has, if that is known. -/
structure Operand : Type where
  value : Decimal.Real
  width : Nat := 0
  places : Option Nat := none
  deriving Repr

/-- The whole number that decimal digits with a sign stand for. -/
def signedNumber (digits : Octets) : Int :=
  match digits with
  | '-' :: rest => -(number (rest.takeWhile Char.isDigit) : Int)
  | '+' :: rest => number (rest.takeWhile Char.isDigit)
  | rest => number (rest.takeWhile Char.isDigit)

/-- The width and the places of a decimal, from its text. -/
def measures (text : Octets) : Nat × Nat :=
  let isMark (c : Char) : Bool := c == 'e' || c == 'E'
  let mantissa := text.takeWhile (!isMark ·)
  let exponentText := text.drop mantissa.length
  let whole := mantissa.takeWhile (· != '.')
  let hasPoint := mantissa.contains '.'
  let places := (mantissa.drop (whole.length + 1)).length
  let width : Int := mantissa.length
  let width :=
    if !hasPoint then width
    else if places = 0 then width - 1
    else if whole.getLast?.any Char.isDigit then width
    else width + 1
  if exponentText.isEmpty then (width.toNat, places)
  else
    let exponent := signedNumber exponentText.tail
    if exponent < 0 then
      let width := if hasPoint then (if places = 0 then width + 1 else width) else width + 1
      ((width + exponent.natAbs).toNat, places + exponent.natAbs)
    else
      let left := places - exponent.natAbs
      let width := if hasPoint && left = 0 && places ≠ 0 then width - 1 else width
      ((width + (exponent.natAbs - places : Nat)).toNat, left)

/-- A number as it is given. -/
def operandOf (text : Octets) : Except Octets Operand :=
  let isBlank (c : Char) : Bool := Char.isWhitespace c || c == '\x0B' || c == '\x0C'
  match scan? .extended (text.dropWhile isBlank) with
  | some ⟨value, [], false⟩ =>
    if value.isUndefined then
      .error ("invalid 'not-a-number' argument: ".toList ++ Quoting.value text)
    else
      let bare := text.dropWhile fun c => isBlank c || c == '+'
      let isHexadecimal := bare.any fun c => c == 'x' || c == 'X'
      match value.size with
      | .finite _ =>
        if isHexadecimal then
          let fractional := bare.any fun c => c == '.' || c == 'p'
          .ok { value, places := if fractional then none else some 0 }
        else
          let (width, places) := measures bare
          .ok { value, width, places := some places }
      | _ => .ok { value, places := some 0 }
  | _ => .error ("invalid floating point argument: ".toList ++ Quoting.value text)

/-- How numbers are written: what stands before and after them, and between. -/
structure Format : Type where
  lead : Octets := []
  layout : Layout
  conversion : Char
  trail : Octets := []

/-- A number in a format, without what stands around it. -/
def Format.bare (f : Format) (x : Decimal.Real) : Octets :=
  f.layout.float .extended f.conversion x

/-- A number in a format. -/
def Format.text (f : Format) (x : Decimal.Real) : Octets :=
  f.lead ++ f.bare x ++ f.trail

/-- The text up to a percent sign that is not doubled, and what follows it, if there is one. -/
def upToDirective : Octets → Octets × Option Octets
  | '%' :: '%' :: rest =>
    let (text, after) := upToDirective rest
    ('%' :: text, after)
  | '%' :: rest => ([], some rest)
  | c :: rest =>
    let (text, after) := upToDirective rest
    (c :: text, after)
  | [] => ([], none)

/-- The format that a text describes. -/
def formatOf (text : Octets) : Except Octets Format := do
  let named : Octets := "format ".toList ++ Quoting.value text
  let (lead, after) := upToDirective text
  match after with
  | none => throw (named ++ " has no % directive".toList)
  | some rest =>
    let flags := rest.takeWhile "-+#0 '".toList.contains
    let rest := rest.drop flags.length
    let width := rest.takeWhile Char.isDigit
    let rest := rest.drop width.length
    let (precision, rest) :=
      match rest with
      | '.' :: rest =>
        (some (number (rest.takeWhile Char.isDigit)), rest.dropWhile Char.isDigit)
      | rest => (none, rest)
    let rest := if rest.head? == some 'L' then rest.tail else rest
    match rest with
    | [] => throw (named ++ " ends in %".toList)
    | c :: rest =>
      if !"aAeEfFgG".toList.contains c then
        throw (named ++ " has unknown %".toList ++ c :: " directive".toList)
      let (trail, more) := upToDirective rest
      if more.isSome then throw (named ++ " has too many % directives".toList)
      pure { lead, layout := ⟨flags, number width, precision⟩, conversion := c, trail }

/-- The format for numbers between given ones, which makes them equally wide if it is asked to. -/
def usualFormat (wide : Bool) (first step last : Operand) : Format :=
  match first.places, step.places, last.places with
  | some a, some b, some c =>
    let places := max a b
    let firstWidth := first.width + (places - a) + (if a = 0 && places ≠ 0 then 1 else 0)
    let lastWidth := last.width + places - c
    let lastWidth := if c ≠ 0 && places = 0 then lastWidth - 1 else lastWidth
    let lastWidth := if c = 0 && places ≠ 0 then lastWidth + 1 else lastWidth
    let width := if wide then max firstWidth lastWidth else 0
    { layout := ⟨if wide then ['0'] else [], width, some places⟩, conversion := 'f' }
  | _, _, _ => { layout := ⟨[], 0, none⟩, conversion := 'g' }

/-- Whether a number lies beyond the last one. -/
def isBeyond (step last x : Decimal.Real) : Bool :=
  if step.less (.ofInt 0) then x.less last else last.less x

/-- The numbers after a first one, at most as many as given. The one just beyond the last is among
them if it reads like the last one and unlike the one before. -/
def numbers (f : Format) (first step last : Decimal.Real) :
    Nat → Nat → Decimal.Real → List Decimal.Real
  | 0, _, _ => []
  | n + 1, i, x =>
    let next := first.add .extended ((Decimal.Real.ofInt i).mul .extended step)
    if isBeyond step last next then
      let reads := match scan? .extended (f.bare next) with
        | some found => !found.value.less last && !last.less found.value
        | none => false
      if reads && f.text x != f.text next then [x, next] else [x]
    else x :: numbers f first step last n (i + 1) next

/-- How many numbers are printed at most. -/
def countLimit : Nat :=
  200000

/-- Prints numbers in a format. -/
def print (f : Format) (separator : Octets) (first step last : Decimal.Real) : StateM Process Nat := do
  if !isBeyond step last first then
    let all := numbers f first step last countLimit 1 first
    say (joined separator (all.map f.text) ++ ['\n'])
  pure 0

/-- Whether a text is nothing but digits. -/
def isDigits (text : Octets) : Bool :=
  !text.isEmpty && text.all Char.isDigit

/-- Prints whole numbers, which may be of any size. -/
def printWhole (separator : Octets) (first step last : Nat) : StateM Process Nat := do
  if first ≤ last then
    let count := min ((last - first) / step + 1) countLimit
    let texts := (List.range count).map fun i => decimal (first + i * step)
    say (joined separator texts ++ ['\n'])
  pure 0

/-- The largest distance between whole numbers that may be of any size. -/
def stepLimit : Nat :=
  200

/-- Runs with options. -/
def run (g : Given) : StateM Process Nat := do
  let separator := (g.value? 's').getD ['\n']
  let isPlain := !g.has 'w' && !g.has 'f' && separator.length = 1
  let format : Except Octets (Option Format) := match g.value? 'f' with
    | some text => (formatOf text).map some
    | none => .ok none
  if g.operands.isEmpty then refuse "missing operand"
  else if 3 < g.operands.length then do
    misuse ("extra operand ".toList ++ Quoting.value (g.operands.getD 3 []))
    pure 1
  else
    orFault format fun format => do
      if g.has 'f' && g.has 'w' then
        return ← refuse "format string may not be specified when printing equal width strings"
      let whole := isPlain && g.operands.all isDigits
      let values := g.operands.map number
      match whole, values with
      | true, [last] => return ← printWhole separator 1 1 last
      | true, [first, last] => return ← printWhole separator first 1 last
      | true, [first, step, last] =>
        if 0 < step ∧ step ≤ stepLimit then return ← printWhole separator first step last
      | _, _ => pure ()
      let one : Operand := { value := .ofInt 1, width := 1, places := some 0 }
      let display (first step last : Operand) : StateM Process Nat :=
        print (format.getD (usualFormat (g.has 'w') first step last)) separator first.value
          step.value last.value
      let zeroStep : Octets :=
        "invalid Zero increment value: ".toList ++ Quoting.value (g.operands.getD 1 [])
      let operands : Except Octets (List Operand) := do
        let first ← (g.operands.take 2).mapM operandOf
        if g.operands.length = 3 && (first.drop 1).any fun o => o.value.isZero then throw zeroStep
        return first ++ (← (g.operands.drop 2).mapM operandOf)
      orMisuse operands fun operands =>
        match operands with
        | [last] => display one one last
        | [first, last] => display first one last
        | [first, step, last] => display first step last
        | _ => pure 1

/-- The arguments with two hyphens in front of a negative number, which is no option. -/
def markNegative : List Octets → List Octets
  | [] => []
  | argument :: rest =>
    let isNegative := match argument with
      | '-' :: c :: _ => c.isDigit || c == '.'
      | _ => false
    let takesNext := argument = ['-', 's'] || argument = ['-', 'f'] ||
      argument = "--separator".toList || argument = "--format".toList
    if isNegative then ['-', '-'] :: argument :: rest
    else if argument = ['-', '-'] then argument :: rest
    else if takesNext then argument :: rest.take 1 ++ markNegative (rest.drop 1)
    else if argument.head? == some '-' then argument :: markNegative rest
    else argument :: rest
termination_by arguments => arguments.length
decreasing_by all_goals simp; try omega

end Sequence

/-- Prints numbers that are the same distance apart. -/
def seq : Tool := fun arguments =>
  withOptions [valued 'f' ["format"], valued 's' ["separator"], flag 'w' ["equal-width"]]
    Sequence.run 1 true (Sequence.markNegative arguments)

end Fleet.Tools
