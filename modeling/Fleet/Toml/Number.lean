import Fleet.Decimal.Reading
import Fleet.Toml.Text
import Fleet.Toml.Value

/-!
# Values without quotes in TOML

Moments first, whose digits are read as they stand, then numbers and truth values.
-/

/-!
## Dates and times in TOML

A moment is a date, a time of day, or both; with both, an offset from universal time may follow. It
is read strictly, and written in one form only: `T` between date and time, seconds always, and as
many digits of a second's fraction as it needs.
-/

namespace Fleet.Toml

/-- A day of the calendar. -/
structure Day : Type where
  year : Nat
  month : Nat
  day : Nat
  deriving Repr, DecidableEq

/-- A time of day, to the nanosecond. -/
structure Clock : Type where
  hour : Nat
  minute : Nat
  second : Nat := 0
  nanosecond : Nat := 0
  deriving Repr, DecidableEq

/-- The distance from universal time. -/
inductive Offset : Type where
  /-- Universal time itself. -/
  | universal
  | minutes (count : Int)
  deriving Repr, DecidableEq

/-- A date, a time, or both. -/
structure Moment : Type where
  day : Option Day := none
  clock : Option Clock := none
  offset : Option Offset := none
  deriving Repr, DecidableEq

namespace Moment

/-- The number that exactly so many digits are, and what follows them. The run of digits must not
be longer. -/
def digits? (count : Nat) (cs : List Char) : Option (Nat × List Char) :=
  let run := cs.takeWhile Char.isDigit
  if run.length = count then
    some (run.foldl (fun n c => n * 10 + (c.toNat - '0'.toNat)) 0, cs.drop count)
  else none

/-- What follows a character. -/
def after? (c : Char) : List Char → Option (List Char)
  | d :: rest => if c = d then some rest else none
  | [] => none

/-- How many days a month has. -/
def daysIn (year month : Nat) : Nat :=
  if month = 2 then if year % 4 = 0 ∧ (year % 100 ≠ 0 ∨ year % 400 = 0) then 29 else 28
  else if month = 4 ∨ month = 6 ∨ month = 9 ∨ month = 11 then 30
  else 31

/-- A day, and what follows it. -/
def day? (cs : List Char) : Option (Day × List Char) := do
  let (year, cs) ← digits? 4 cs
  let (month, cs) ← digits? 2 (← after? '-' cs)
  let (day, cs) ← digits? 2 (← after? '-' cs)
  if 1 ≤ month ∧ month ≤ 12 ∧ 1 ≤ day ∧ day ≤ daysIn year month then
    some (⟨year, month, day⟩, cs)
  else none

/-- The nanoseconds that the digits of a fraction stand for; digits beyond the ninth are dropped. -/
def nanoseconds (digits : List Char) : Nat :=
  (digits ++ List.replicate 9 '0').take 9 |>.foldl (fun n c => n * 10 + (c.toNat - '0'.toNat)) 0

/-- A second with its fraction, if there is one, and what follows. -/
def second? (cs : List Char) : Option (Nat × Nat × List Char) := do
  let (second, cs) ← digits? 2 cs
  match cs with
  | '.' :: rest =>
    let fraction := rest.takeWhile Char.isDigit
    if fraction.isEmpty then none
    else some (second, nanoseconds fraction, rest.dropWhile Char.isDigit)
  | _ => some (second, 0, cs)

/-- A time of day, and what follows it. A minute may have a leap second. -/
def clock? (cs : List Char) : Option (Clock × List Char) := do
  let (hour, cs) ← digits? 2 cs
  let (minute, cs) ← digits? 2 (← after? ':' cs)
  let (second, nanosecond, cs) ←
    match cs with
    | ':' :: rest => second? rest
    | _ => some (0, 0, cs)
  if hour ≤ 23 ∧ minute ≤ 59 ∧ second ≤ 60 then some (⟨hour, minute, second, nanosecond⟩, cs)
  else none

/-- An offset of the given direction. -/
def minutes? (direction : Int) (cs : List Char) : Option (Offset × List Char) := do
  let (hours, cs) ← digits? 2 cs
  let (minutes, cs) ← digits? 2 (← after? ':' cs)
  if hours ≤ 23 ∧ minutes ≤ 59 then some (.minutes (direction * (hours * 60 + minutes)), cs)
  else none

/-- An offset, if there is one, and what follows it. -/
def offset? : List Char → Option (Option Offset × List Char)
  | [] => some (none, [])
  | 'Z' :: rest => some (some .universal, rest)
  | 'z' :: rest => some (some .universal, rest)
  | '+' :: rest => (minutes? 1 rest).map fun (offset, rest) => (some offset, rest)
  | '-' :: rest => (minutes? (-1) rest).map fun (offset, rest) => (some offset, rest)
  | _ => none

/-- The moment that characters stand for. -/
def read? (cs : List Char) : Option Moment :=
  match (cs.dropWhile Char.isDigit).head? with
  | some '-' => do
    let (day, cs) ← day? cs
    match cs with
    | [] => some { day := some day }
    | mark :: rest =>
      if mark = 'T' ∨ mark = 't' ∨ mark = ' ' then do
        let (clock, cs) ← clock? rest
        let (offset, cs) ← offset? cs
        if cs.isEmpty then some ⟨some day, some clock, offset⟩ else none
      else none
  | _ => do
    let (clock, cs) ← clock? cs
    if cs.isEmpty then some { clock := some clock } else none

/-- A number in at least so many digits. -/
def padded (width n : Nat) : String :=
  let digits := toString n
  String.ofList (List.replicate (width - digits.length) '0') ++ digits

/-- A day as it is written. -/
def renderDay (d : Day) : String :=
  padded 4 d.year ++ "-" ++ padded 2 d.month ++ "-" ++ padded 2 d.day

/-- The fraction of a second as it is written, without zeros at its end. -/
def renderFraction (nanosecond : Nat) : String :=
  if nanosecond = 0 then ""
  else
    let digits := (padded 9 nanosecond).toList.reverse.dropWhile (· == '0')
    "." ++ String.ofList digits.reverse

/-- A time of day as it is written. -/
def renderClock (c : Clock) : String :=
  padded 2 c.hour ++ ":" ++ padded 2 c.minute ++ ":" ++ padded 2 c.second ++
    renderFraction c.nanosecond

/-- An offset as it is written. -/
def renderOffset : Offset → String
  | .universal => "Z"
  | .minutes count =>
    (if count < 0 then "-" else "+") ++ padded 2 (count.natAbs / 60) ++ ":" ++
      padded 2 (count.natAbs % 60)

/-- A moment as it is written. -/
def render (m : Moment) : String :=
  (m.day.map renderDay).getD "" ++ (if m.day.isSome && m.clock.isSome then "T" else "") ++
    (m.clock.map renderClock).getD "" ++ (m.offset.map renderOffset).getD ""

end Moment

/-!
## Numbers, moments and truth values in TOML

Values that are written without quotes. The spelling of a number is checked here: digits may be
grouped by single underscores, and a decimal does not start with an idle zero. Whether the number
can be held is another question, the answer to which may be `Value.unrepresentable`: an integer
takes 64 bits with a sign; one that only fits without a sign is read as a float.
-/

/-- The characters without the underscores between them. Underscores are single, and have a digit
on either side. -/
def ungroup? (isDigit : Char → Bool) (cs : List Char) : Option (List Char) :=
  match cs.splitOn '_' with
  | first :: second :: rest =>
    let groups := first :: second :: rest
    if groups.all (fun group => group.head?.any isDigit) &&
        groups.dropLast.all (fun group => group.getLast?.any isDigit) then
      some groups.flatten
    else none
  | _ => some cs

/-- An integer, as far as its size allows. -/
def ofInt (n : Int) : Value :=
  if -0x8000000000000000 ≤ n ∧ n < 0x8000000000000000 then .integer n
  else if 0 ≤ n ∧ n < 0x10000000000000000 then .float (Float.ofScientific n.toNat false 0)
  else .unrepresentable

/-- The number that digits of a base amount to. -/
def digitsIn? (base : Nat) : List Char → Option Nat
  | [] => none
  | digits =>
    digits.foldlM (fun n c => ((hexValue? c).filter (· < base)).map (n * base + ·)) 0

/-- Whether a character is a digit of some base. -/
def isAnyDigit (c : Char) : Bool :=
  (hexValue? c).isSome

/-- An integer in a base that its first two characters have told. -/
def readBased? (base : Nat) (cs : List Char) : Option Value := do
  let digits ← ungroup? isAnyDigit cs
  if digits.all fun c => (hexValue? c).any (· < base) then
    pure (((digitsIn? base digits).map fun n => ofInt n).getD .unrepresentable)
  else none

/-- A sign: none, or the one of a character. -/
abbrev Sign : Type :=
  Option Bool

/-- Whether a sign makes a number negative. -/
def Sign.isNegative (sign : Sign) : Bool :=
  sign == some true

/-- A decimal integer. -/
def readInteger? (sign : Sign) (cs : List Char) : Option Value := do
  let digits ← ungroup? isAnyDigit cs
  if cs.head? = some '0' ∧ cs ≠ ['0'] then none
  else
    pure (((digitsIn? 10 digits).map fun n => ofInt (if sign.isNegative then -n else n)).getD
      .unrepresentable)

/-- Whether characters are digits and underscores, with a digit among them. -/
def isDigitRun (cs : List Char) : Bool :=
  cs.any Char.isDigit && cs.all fun c => c.isDigit || c == '_'

/-- Whether characters are an exponent, or nothing. -/
def isExponent : List Char → Bool
  | [] => true
  | mark :: '+' :: rest => (mark == 'e' || mark == 'E') && isDigitRun rest
  | mark :: '-' :: rest => (mark == 'e' || mark == 'E') && isDigitRun rest
  | mark :: rest => (mark == 'e' || mark == 'E') && isDigitRun rest

/-- Whether characters are a decimal with a fraction or an exponent, apart from where its
underscores stand. -/
def isFloat (cs : List Char) : Bool :=
  let inRun (c : Char) : Bool := c.isDigit || c == '_'
  let whole := cs.takeWhile inRun
  isDigitRun whole && (whole.head? != some '0' || (whole.filter Char.isDigit).length == 1) &&
    match cs.dropWhile inRun with
    | '.' :: rest => isDigitRun (rest.takeWhile inRun) && isExponent (rest.dropWhile inRun)
    | rest => isExponent rest

/-- A decimal with a fraction or an exponent. -/
def readFloat? (sign : Sign) (cs : List Char) : Option Value := do
  let plain ← ungroup? Char.isDigit cs
  if isFloat cs then
    let x ← Decimal.read? (String.ofList plain)
    pure (if x.isInf then .unrepresentable else .float (if sign.isNegative then -x else x))
  else none

/-- A value that starts with a digit or an underscore. -/
def readNumber? (sign : Sign) (cs : List Char) : Option Value :=
  match cs.dropWhile Char.isDigit with
  | [] => readInteger? sign cs
  | mark :: rest =>
    if mark = '-' ∨ mark = ':' then
      if sign.isSome then none else (Moment.read? cs).map fun m => .moment m.render
    else if (mark :: rest).any fun c => c == '.' || c == 'e' || c == 'E' then readFloat? sign cs
    else if mark = '_' then readInteger? sign cs
    else none

/-- An unsigned number, or infinity, or what is no number; the sign is given. -/
def readUnsigned? (sign : Sign) (cs : List Char) : Option Value :=
  let signed (x : Float) : Value := .float (if sign.isNegative then -x else x)
  if cs = "inf".toList then some (signed (1.0 / 0.0))
  else if cs = "nan".toList then some (signed (0.0 / 0.0))
  else if cs.head?.any fun c => c.isDigit || c == '_' then readNumber? sign cs
  else none

/-- A value without quotes. -/
def readWord? : List Char → Option Value
  | '+' :: rest => readUnsigned? (some false) rest
  | '-' :: rest => readUnsigned? (some true) rest
  | '0' :: 'x' :: rest => readBased? 16 rest
  | '0' :: 'o' :: rest => readBased? 8 rest
  | '0' :: 'b' :: rest => readBased? 2 rest
  | cs =>
    if cs = "true".toList then some (.bool true)
    else if cs = "false".toList then some (.bool false)
    else readUnsigned? none cs

end Fleet.Toml
