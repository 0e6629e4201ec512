import Fleet.Calendar.Basic
import Fleet.Text.Octets

/-!
# Times as text

Times are shown by formats: texts with directives, each of which stands for a part of what clocks
and calendars show. Marks in a directive say how wide it is and how it is filled up.
-/

namespace Fleet.Calendar

/-- The marks of a directive. -/
structure Marks : Type where
  /-- What it is filled up with: zeros, blanks, nothing, or zeros after a sign. -/
  pad : Option Char := none
  upper : Bool := false
  /-- Whether large letters are made small or small ones large. -/
  swaps : Bool := false
  width : Option Nat := none
  colons : Nat := 0
  deriving Repr

/-- Digits brought to a width. -/
def Marks.number (m : Marks) (usual : Char) (digits : Nat) (negative : Bool) (n : Nat)
    (signed : Bool := false) : Octets :=
  let pad := m.pad.getD usual
  let text := (toString n).toList
  let sign : Octets := if negative then ['-'] else if signed then ['+'] else []
  let width := m.width.getD digits
  let space := if pad = '-' then 0 else width - sign.length - text.length
  if pad = '_' then List.replicate space ' ' ++ sign ++ text
  else sign ++ List.replicate space '0' ++ text

/-- A year or a part of one; years that are longer than usual may have a sign. -/
def Marks.year (m : Marks) (digits : Nat) (n : Int) : Octets :=
  let most := if digits = 2 then 99 else 9999
  let signed := m.pad = some '+' && (most < n.natAbs || m.width.any (digits < ·))
  m.number '0' digits (n < 0) n.natAbs signed

/-- A text brought to a width. -/
def Marks.text (m : Marks) (text : Octets) : Octets :=
  let text := if m.upper then text.map Char.toUpper else text
  let space := if m.pad = some '-' then 0 else m.width.getD 0 - text.length
  let filler := if m.pad = some '0' || m.pad = some '+' then '0' else ' '
  List.replicate space filler ++ text

/-- A name, which is written large if it is to be changed. -/
def Marks.name (m : Marks) (name : String) : Octets :=
  { m with upper := m.upper || m.swaps }.text name.toList

/-- How far the clocks are ahead. -/
def Marks.offset? (m : Marks) (offset : Int) : Option Octets :=
  let n := offset.natAbs
  let (hour, minute, second) := (n / 3600, n / 60 % 60, n % 60)
  let two (n : Nat) : Octets := ({} : Marks).number '0' 2 false n
  let tail : Option Octets := match m.colons with
    | 0 => some (two minute)
    | 1 => some (':' :: two minute)
    | 2 => some (':' :: two minute ++ ':' :: two second)
    | 3 =>
      some (if second ≠ 0 then ':' :: two minute ++ ':' :: two second
        else if minute ≠ 0 then ':' :: two minute else [])
    | _ => none
  tail.map fun tail =>
    let body := two hour ++ tail
    let sign := if offset < 0 then '-' else '+'
    let space := if m.pad = some '-' then 0 else m.width.getD 0 - 1 - body.length
    if m.pad = some '_' then List.replicate space ' ' ++ sign :: body
    else sign :: List.replicate space '0' ++ body

/-- The part of a second, cut off after as many places as are wanted. -/
def Marks.fraction (m : Marks) (nanoseconds : Nat) : Octets :=
  let width := (m.width.filter (· ≠ 0)).getD 9
  let digits := ({} : Marks).number '0' 9 false nanoseconds
  if m.pad = some '_' then
    let kept := ((digits.take width).reverse.dropWhile (· == '0')).reverse
    let kept := if kept.isEmpty then ['0'] else kept
    kept ++ List.replicate (width - kept.length) ' '
  else digits.take width ++ List.replicate (width - 9) '0'

/-- The directives that stand for several others. -/
def abbreviated? : Char → Option String
  | 'c' => some "%a %b %e %H:%M:%S %Y"
  | 'D' | 'x' => some "%m/%d/%y"
  | 'r' => some "%I:%M:%S %p"
  | 'R' => some "%H:%M"
  | 'T' | 'X' => some "%H:%M:%S"
  | _ => none

/-- What a directive shows that stands for itself. -/
def Reading.directive? (r : Reading) (m : Marks) (c : Char) : Option Octets :=
  let two (n : Nat) : Octets := m.number '0' 2 false n
  let spaced (n : Nat) : Octets := m.number '_' 2 false n
  let one (n : Nat) : Octets := m.number '0' 1 false n
  let twelve := (r.hour + 11) % 12 + 1
  let half := if r.hour < 12 then "am" else "pm"
  let weekday := weekdayNames.getD r.weekday ""
  let month := monthNames.getD (r.date.month - 1) ""
  match c with
  | 'a' => some (m.name (weekday.take 3).toString)
  | 'A' => some (m.name weekday)
  | 'b' | 'h' => some (m.name (month.take 3).toString)
  | 'B' => some (m.name month)
  | 'C' => some (m.year 2 (r.date.year / 100))
  | 'd' => some (two r.date.day)
  | 'e' => some (spaced r.date.day)
  | 'g' => some (m.year 2 (r.isoWeek.1 % 100))
  | 'G' => some (m.year 4 r.isoWeek.1)
  | 'H' => some (two r.hour)
  | 'I' => some (two twelve)
  | 'j' => some (m.number '0' 3 false (r.yearDay + 1))
  | 'k' => some (spaced r.hour)
  | 'l' => some (spaced twelve)
  | 'm' => some (two r.date.month)
  | 'M' => some (two r.minute)
  | 'n' => some (m.text ['\n'])
  | 'N' => some (m.fraction r.nanosecond)
  | 'p' => some (m.text (if m.swaps then half.toList else half.toUpper.toList))
  | 'P' => some (m.text half.toList)
  | 'q' => some (one ((r.date.month - 1) / 3 + 1))
  | 's' => some (m.number '0' 1 (r.instant.seconds < 0) r.instant.seconds.natAbs)
  | 'S' => some (two r.second)
  | 't' => some (m.text ['\t'])
  | 'u' => some (one ((r.weekday + 6) % 7 + 1))
  | 'U' => some (two (r.week 0))
  | 'V' => some (two r.isoWeek.2)
  | 'w' => some (one r.weekday)
  | 'W' => some (two (r.week 1))
  | 'y' => some (m.year 2 (r.date.year % 100))
  | 'Y' => some (m.year 4 r.date.year)
  | 'z' => m.offset? r.zone.offset
  | 'Z' => some (m.text (if m.swaps then r.zone.name.map Char.toLower else r.zone.name))
  | '%' => some (m.text ['%'])
  | _ => none

/-- The marks in front of a directive, and the rest. -/
def marksOf (m : Marks) : Octets → Marks × Octets
  | '^' :: rest => marksOf { m with upper := true } rest
  | '#' :: rest => marksOf { m with swaps := true } rest
  | '_' :: rest => marksOf { m with pad := some '_' } rest
  | '-' :: rest => marksOf { m with pad := some '-' } rest
  | '0' :: rest => marksOf { m with pad := some '0' } rest
  | '+' :: rest => marksOf { m with pad := some '+' } rest
  | rest => (m, rest)

/-- All marks of a directive, its letter, the variant that is asked for, and the rest. -/
def directiveOf (text : Octets) : Marks × Option Char × Octets :=
  let (m, rest) := marksOf {} text
  let digits := rest.takeWhile Char.isDigit
  let rest := rest.drop digits.length
  let width : Option Nat := if digits.isEmpty then none
    else some (digits.foldl (fun n d => n * 10 + (d.toNat - '0'.toNat)) 0)
  let colons := (rest.takeWhile (· == ':')).length
  let m := { m with width, colons }
  match rest.drop colons with
  | 'E' :: rest => (m, some 'E', rest)
  | 'O' :: rest => (m, some 'O', rest)
  | rest => (m, none, rest)

/-- Whether a variant of a directive can be asked for. -/
def hasVariant (c : Char) : Option Char → Bool
  | some 'E' => "cCxXyY".toList.contains c
  | some _ => "deHImMSuUVwWy".toList.contains c
  | none => true

/-- What a format shows that stands for one directive. The directives in it show themselves. -/
def Reading.simple (r : Reading) (upper : Bool) : Octets → Octets
  | '%' :: c :: rest => (r.directive? { upper } c).getD [] ++ simple r upper rest
  | c :: rest => c :: simple r upper rest
  | [] => []

/-- What a directive shows. -/
def Reading.shown? (r : Reading) (m : Marks) (c : Char) : Option Octets :=
  if m.colons ≠ 0 && c ≠ 'z' then none
  else if c = 'F' then
    let pad := if m.pad.isNone && m.width.isNone then some '+' else m.pad
    let year := { m with pad, width := m.width.map (· - 6) }.year 4 r.date.year
    some (m.text (year ++ r.simple false "-%m-%d".toList))
  else
    match abbreviated? c with
    | some format =>
      some ({ m with upper := false }.text (r.simple m.upper format.toList))
    | none => r.directive? m c

/-- What a format shows; at most the given number of directives and characters. -/
def Reading.showUpTo (r : Reading) : Nat → Octets → Octets
  | 0, _ => []
  | _, [] => []
  | n + 1, '%' :: text =>
    let (m, variant, rest) := directiveOf text
    match rest with
    | [] => '%' :: text
    | c :: after =>
      match if hasVariant c variant then r.shown? m c else none with
      | some shown => shown ++ showUpTo r n after
      | none => '%' :: text.take (text.length - after.length) ++ showUpTo r n after
  | n + 1, c :: rest => c :: showUpTo r n rest

/-- What a format shows. -/
def Reading.display (r : Reading) (format : Octets) : Octets :=
  r.showUpTo format.length format

end Fleet.Calendar
