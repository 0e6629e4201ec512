import Fleet.Calendar.Basic
import Fleet.Text.Octets

/-!
# Text as times

Texts that people write for times: dates and times of day in several forms, days of the week, zones,
and amounts by which a time is earlier or later. They may stand in any order. What a text does not
say is taken from the present.
-/

namespace Fleet.Calendar

/-- Units of amounts of time. -/
inductive TimeUnit : Type where
  | year
  | month
  | day
  | hour
  | minute
  | second
  deriving Repr, DecidableEq

/-- The words of a text for a time. -/
inductive Token : Type where
  | number (digits : Octets)
  | signed (negative : Bool) (digits : Octets)
  /-- A number with a part of one, in nanoseconds. -/
  | fraction (sign : Option Bool) (digits : Octets) (nanoseconds : Nat)
  | month (n : Nat)
  | weekday (n : Nat)
  | half (afternoon : Bool)
  | unit (unit : TimeUnit) (factor : Nat)
  | ordinal (n : Int)
  /-- Turns the amount before it around, or not. -/
  | ago (factor : Int)
  /-- A day before or after the present one. -/
  | shift (days : Int)
  /-- A zone, in minutes. -/
  | zone (minutes : Int)
  /-- Says that clocks are an hour ahead. -/
  | summer
  | mark (c : Char)
  deriving Repr, DecidableEq

/-! ## Words -/

/-- The zones that are known by name, with their minutes. -/
def zoneNames : List (String × Int) :=
  [("GMT", 0), ("UT", 0), ("UTC", 0), ("WET", 0), ("WEST", 60), ("BST", 60), ("ART", -180),
    ("BRT", -180), ("BRST", -120), ("NST", -210), ("NDT", -150), ("AST", -240), ("ADT", -180),
    ("CLT", -240), ("CLST", -180), ("EST", -300), ("EDT", -240), ("CST", -360), ("CDT", -300),
    ("MST", -420), ("MDT", -360), ("PST", -480), ("PDT", -420), ("AKST", -540), ("AKDT", -480),
    ("HST", -600), ("HAST", -600), ("HADT", -540), ("SST", -720), ("WAT", 60), ("CET", 60),
    ("CEST", 120), ("MET", 60), ("MEZ", 60), ("MEST", 120), ("MESZ", 120), ("EET", 120),
    ("EEST", 180), ("CAT", 120), ("SAST", 120), ("EAT", 180), ("MSK", 180), ("MSD", 240),
    ("IST", 330), ("SGT", 480), ("KST", 540), ("JST", 540), ("GST", 600), ("NZST", 720),
    ("NZDT", 780)]

/-- The units by their names. -/
def unitNames : List (String × TimeUnit × Nat) :=
  [("YEAR", .year, 1), ("MONTH", .month, 1), ("FORTNIGHT", .day, 14), ("WEEK", .day, 7),
    ("DAY", .day, 1), ("HOUR", .hour, 1), ("MINUTE", .minute, 1), ("MIN", .minute, 1),
    ("SECOND", .second, 1), ("SEC", .second, 1)]

/-- Words for amounts and for days. -/
def relativeNames : List (String × Token) :=
  [("TOMORROW", .shift 1), ("YESTERDAY", .shift (-1)), ("TODAY", .shift 0), ("NOW", .shift 0),
    ("LAST", .ordinal (-1)), ("THIS", .ordinal 0), ("NEXT", .ordinal 1), ("FIRST", .ordinal 1),
    ("THIRD", .ordinal 3), ("FOURTH", .ordinal 4), ("FIFTH", .ordinal 5), ("SIXTH", .ordinal 6),
    ("SEVENTH", .ordinal 7), ("EIGHTH", .ordinal 8), ("NINTH", .ordinal 9), ("TENTH", .ordinal 10),
    ("ELEVENTH", .ordinal 11), ("TWELFTH", .ordinal 12), ("AGO", .ago (-1)), ("HENCE", .ago 1)]

/-- The zone that a single letter stands for, in hours; one letter starts a time of day. -/
def letterZone? (c : Char) : Option Token :=
  let place (letters : String) : Option Nat := letters.toList.idxOf? c
  match place "ABCDEFGHI", place "KLM", place "NOPQRS", place "UVWXY" with
  | some i, _, _, _ => some (.zone (60 * (i + 1)))
  | _, some i, _, _ => some (.zone (60 * (i + 10)))
  | _, _, some i, _ => some (.zone (-60 * (i + 1)))
  | _, _, _, some i => some (.zone (-60 * (i + 8)))
  | _, _, _, _ => if c = 'Z' then some (.zone 0) else if c = 'T' then some (.mark 'T') else none

/-- The number of a name that a word is, or is the start of. -/
def nameIn (names : List String) (others : List (String × Nat)) (word : Octets) : Option Nat :=
  let short := word.length = 3 || (word.length = 4 && word.getLast? == some '.')
  match names.findIdx? fun name =>
      let name := name.toUpper.toList
      name == word || (short && name.take 3 == word.take 3) with
  | some i => some i
  | none => others.lookup (String.ofList word)

/-- What a word stands for, written in large letters. -/
def wordToken? (word : Octets) : Option Token :=
  let text := String.ofList word
  let singular := if word.getLast? == some 'S' then String.ofList word.dropLast else text
  let unit (name : String) : Option Token :=
    (unitNames.lookup name).map fun (u, factor) => .unit u factor
  if text = "AM" || text = "A.M." then some (.half false)
  else if text = "PM" || text = "P.M." then some (.half true)
  else
    ((nameIn monthNames [("SEPT", 8)] word).map fun i => .month (i + 1))
    |>.or ((nameIn weekdayNames [("TUES", 2), ("WEDNES", 3), ("THUR", 4), ("THURS", 4)] word).map
      .weekday)
    |>.or ((zoneNames.lookup text).map .zone)
    |>.or (if text = "DST" then some .summer else none)
    |>.or (unit text)
    |>.or (unit singular)
    |>.or (relativeNames.lookup text)
    |>.or (match word with
      | [c] => letterZone? c
      | _ => none)

/-- What a word stands for; points in it may be left out. -/
def word? (word : Octets) : Option Token :=
  let word := word.map Char.toUpper
  (wordToken? word).or (wordToken? (word.filter (· ≠ '.')))

/-- The rest of a text after a comment, which may have others in it. -/
def afterComment : Nat → Octets → Octets
  | _, [] => []
  | depth, '(' :: rest => afterComment (depth + 1) rest
  | depth, ')' :: rest => if depth ≤ 1 then rest else afterComment (depth - 1) rest
  | depth, _ :: rest => afterComment depth rest

/-- Whether a character is white. -/
def isSpace (c : Char) : Bool :=
  c == ' ' || ('\t' ≤ c && c ≤ '\r')

/-- A number with its sign, and the rest. -/
def numberToken (sign : Option Bool) (text : Octets) : Token × Octets :=
  let digits := text.takeWhile Char.isDigit
  let rest := text.drop digits.length
  match rest with
  | c :: d :: more =>
    if (c = '.' || c = ',') && d.isDigit then
      let places := (d :: more).takeWhile Char.isDigit
      let nine := places.take 9 ++ List.replicate (9 - places.length) '0'
      let n := nine.foldl (fun n d => n * 10 + (d.toNat - '0'.toNat)) 0
      (.fraction sign digits n, (d :: more).drop places.length)
    else (plain digits, rest)
  | rest => (plain digits, rest)
where
  /-- A whole number. -/
  plain (digits : Octets) : Token :=
    match sign with
    | some negative => .signed negative digits
    | none => .number digits

/-- The words of a text; at most the given number of steps is made. -/
def tokens : Nat → Octets → List Token
  | 0, _ => []
  | _, [] => []
  | n + 1, c :: rest =>
    if isSpace c then tokens n rest
    else if c.isDigit then
      let (token, rest) := numberToken none (c :: rest)
      token :: tokens n rest
    else if c = '-' || c = '+' then
      let rest := rest.dropWhile isSpace
      if rest.head?.any Char.isDigit then
        let (token, rest) := numberToken (some (c = '-')) rest
        token :: tokens n rest
      else tokens n rest
    else if c.isAlpha then
      let word := (c :: rest).takeWhile fun c => c.isAlpha || c == '.'
      (word? word).getD (.mark '?') :: tokens n ((c :: rest).drop word.length)
    else if c = '(' then tokens n (afterComment 1 rest)
    else .mark c :: tokens n rest

/-! ## What a text says -/

/-- What a text says about a time. -/
structure Findings : Type where
  dates : Nat := 0
  times : Nat := 0
  days : Nat := 0
  zones : Nat := 0
  /-- The year, with how many digits it was written. -/
  year : Option (Int × Nat) := none
  month : Int := 0
  day : Int := 0
  hour : Nat := 0
  minute : Nat := 0
  second : Nat := 0
  nanosecond : Nat := 0
  half : Option Bool := none
  weekday : Int × Nat := (0, 0)
  zone : Int := 0
  /-- Whether the text says by how much a time is earlier or later. -/
  moved : Bool := false
  moreYears : Int := 0
  moreMonths : Int := 0
  moreDays : Int := 0
  moreSeconds : Int := 0
  moreNanoseconds : Int := 0
  deriving Repr

/-- The value of digits. -/
def valueOf (digits : Octets) : Nat :=
  digits.foldl (fun n d => n * 10 + (d.toNat - '0'.toNat)) 0

namespace Findings

/-- The findings with a date. -/
def withDate (f : Findings) (year : Option (Int × Nat)) (month day : Int) : Findings :=
  { f with dates := f.dates + 1, year := year.or f.year, month, day }

/-- The findings with a time of day. -/
def withTime (f : Findings) (hour minute second nanosecond : Nat) (half : Option Bool := none) :
    Findings :=
  { f with times := f.times + 1, hour, minute, second, nanosecond, half }

/-- The findings with an amount of time. -/
def moveBy (f : Findings) (u : TimeUnit) (amount : Int) : Findings :=
  let f := { f with moved := true }
  match u with
  | .year => { f with moreYears := f.moreYears + amount }
  | .month => { f with moreMonths := f.moreMonths + amount }
  | .day => { f with moreDays := f.moreDays + amount }
  | .hour => { f with moreSeconds := f.moreSeconds + 3600 * amount }
  | .minute => { f with moreSeconds := f.moreSeconds + 60 * amount }
  | .second => { f with moreSeconds := f.moreSeconds + amount }

/-- The findings with a zone, in minutes. -/
def withZone (f : Findings) (minutes : Int) : Findings :=
  { f with zones := f.zones + 1, zone := minutes }

/-- The findings with a number that stands alone: a year, a date or a time of day. -/
def withNumber (f : Findings) (digits : Octets) : Findings :=
  let n := valueOf digits
  if f.dates ≠ 0 && f.year.isNone && !f.moved && (f.times ≠ 0 || 2 < digits.length) then
    { f with year := some (n, digits.length) }
  else if 4 < digits.length then
    f.withDate (some (n / 10000, digits.length - 4)) (n / 100 % 100 : Nat) (n % 100 : Nat)
  else if digits.length ≤ 2 then f.withTime n 0 0 0
  else f.withTime (n / 100) (n % 100) 0 0

end Findings

/-- The minutes of a zone that digits give, perhaps with minutes of their own. -/
def offsetOf? (negative : Bool) (digits : Octets) (minutes : Option Octets) : Option Int :=
  let n := valueOf digits
  let total := match minutes with
    | some minutes => n * 60 + valueOf minutes
    | none => if digits.length ≤ 2 then n * 60 else n / 100 * 60 + n % 100
  if 24 * 60 < total then none else some (if negative then -(total : Int) else total)

/-- A number that was written with a sign, with the sign changed. -/
def turned (negative : Bool) (digits : Octets) : Int :=
  if negative then valueOf digits else -(valueOf digits : Int)

/-- A number with its sign. -/
def signedValue (negative : Bool) (digits : Octets) : Int :=
  -turned negative digits

/-- The findings with the zone at the start of words, if there is one, and the words after it. -/
def zoneAfter (f : Findings) : List Token → Option (Findings × List Token)
  | .signed negative digits :: .mark ':' :: .number minutes :: rest =>
    (offsetOf? negative digits (some minutes)).map fun zone => (f.withZone zone, rest)
  | .signed negative digits :: rest =>
    (offsetOf? negative digits none).map fun zone => (f.withZone zone, rest)
  | rest => some (f, rest)

/-- The findings with the rest of a time of day, the hour and minute of which are known. -/
def timeAfter (f : Findings) (hour minute : Octets) : List Token → Option (Findings × List Token)
  | .mark ':' :: .number second :: .half pm :: rest =>
    some (f.withTime (valueOf hour) (valueOf minute) (valueOf second) 0 (some pm), rest)
  | .mark ':' :: .fraction none second nanos :: .half pm :: rest =>
    some (f.withTime (valueOf hour) (valueOf minute) (valueOf second) nanos (some pm), rest)
  | .mark ':' :: .number second :: rest =>
    zoneAfter (f.withTime (valueOf hour) (valueOf minute) (valueOf second) 0) rest
  | .mark ':' :: .fraction none second nanos :: rest =>
    zoneAfter (f.withTime (valueOf hour) (valueOf minute) (valueOf second) nanos) rest
  | .mark ':' :: _ => none
  | .half pm :: rest => some (f.withTime (valueOf hour) (valueOf minute) 0 0 (some pm), rest)
  | rest => zoneAfter (f.withTime (valueOf hour) (valueOf minute) 0 0) rest

/-- The findings with an amount of time that may be turned around. -/
def amountAfter (f : Findings) (u : TimeUnit) (amount : Int) : List Token → Findings × List Token
  | .ago factor :: rest => (f.moveBy u (factor * amount), rest)
  | rest => (f.moveBy u amount, rest)

/-- The findings with what a number without a sign starts, and the words after it. -/
def numberAfter (f : Findings) (digits : Octets) : List Token → Option (Findings × List Token)
  | .half pm :: rest => some (f.withTime (valueOf digits) 0 0 0 (some pm), rest)
  | .mark ':' :: .number minute :: rest => timeAfter f digits minute rest
  | .mark ':' :: _ => none
  | .mark '/' :: .number second :: .mark '/' :: .number third :: rest =>
    let (a, b, c) := (valueOf digits, valueOf second, valueOf third)
    some (if 4 ≤ digits.length then (f.withDate (some (a, digits.length)) b c, rest)
      else (f.withDate (some (c, third.length)) a b, rest))
  | .mark '/' :: .number second :: .mark '/' :: _ => let _ := second; none
  | .mark '/' :: .number second :: rest =>
    some (f.withDate none (valueOf digits) (valueOf second), rest)
  | .mark '/' :: _ => none
  | .month m :: .signed negative year :: rest =>
    some (f.withDate (some (turned negative year, year.length)) m (valueOf digits), rest)
  | .month m :: .number year :: rest =>
    some (f.withDate (some (valueOf year, year.length)) m (valueOf digits), rest)
  | .month m :: rest => some (f.withDate none m (valueOf digits), rest)
  | .signed x month :: .signed y day :: rest =>
    let f := f.withDate (some (valueOf digits, digits.length)) (turned x month) (turned y day)
    match rest with
    | .mark 'T' :: .number hour :: .mark ':' :: .number minute :: rest =>
      timeAfter f hour minute rest
    | .mark 'T' :: .number hour :: rest =>
      zoneAfter (f.withTime (valueOf hour) 0 0 0) rest
    | rest => some (f, rest)
  | .signed negative amount :: .unit u factor :: rest =>
    some (amountAfter (f.withNumber digits) u (signedValue negative amount * factor) rest)
  | .signed negative zone :: rest =>
    zoneAfter (f.withTime (valueOf digits) 0 0 0) (.signed negative zone :: rest)
  | .weekday day :: rest =>
    some ({ f with days := f.days + 1, weekday := (valueOf digits, day) }, rest)
  | .unit u factor :: rest => some (amountAfter f u (valueOf digits * factor) rest)
  | rest => some (f.withNumber digits, rest)

/-- The findings with what a zone starts. -/
def namedZoneAfter (f : Findings) (minutes : Int) : List Token → Option (Findings × List Token)
  | .signed negative amount :: .unit u factor :: rest =>
    some (amountAfter (f.withZone minutes) u (signedValue negative amount * factor) rest)
  | .signed negative digits :: rest => do
    let (g, rest) ← zoneAfter f (.signed negative digits :: rest)
    pure ({ g with zone := g.zone + minutes }, rest)
  | .summer :: rest => some (f.withZone (minutes + 60), rest)
  | rest => some (f.withZone minutes, rest)

/-- The findings with a part of seconds. -/
def fractionAfter (f : Findings) (sign : Option Bool) (digits : Octets) (nanos : Nat) :
    List Token → Findings × List Token
  | .ago factor :: rest => (go factor, rest)
  | rest => (go 1, rest)
where
  /-- The findings with as much more. -/
  go (factor : Int) : Findings :=
    let factor := if sign = some true then -factor else factor
    { f.moveBy .second (factor * valueOf digits) with
      moreNanoseconds := f.moreNanoseconds + factor * nanos }

/-- What one part of a text says, and the words after it. -/
def item (f : Findings) : List Token → Option (Findings × List Token)
  | .number digits :: rest => numberAfter f digits rest
  | .signed negative amount :: .unit u factor :: rest =>
    some (amountAfter f u (signedValue negative amount * factor) rest)
  | .fraction sign digits nanos :: .unit .second _ :: rest =>
    some (fractionAfter f sign digits nanos rest)
  | .month m :: .signed x day :: .signed y year :: rest =>
    some (f.withDate (some (turned y year, year.length)) m (turned x day), rest)
  | .month m :: .number day :: .mark ',' :: .number year :: rest =>
    some (f.withDate (some (valueOf year, year.length)) m (valueOf day), rest)
  | .month m :: .number day :: rest =>
    match rest with
    | .mark ':' :: _ | .mark '/' :: _ => none
    | rest => some (f.withDate none m (valueOf day), rest)
  | .weekday day :: .mark ',' :: rest =>
    some ({ f with days := f.days + 1, weekday := (0, day) }, rest)
  | .weekday day :: rest => some ({ f with days := f.days + 1, weekday := (0, day) }, rest)
  | .ordinal n :: .weekday day :: rest =>
    some ({ f with days := f.days + 1, weekday := (n, day) }, rest)
  | .ordinal n :: .unit u factor :: rest => some (amountAfter f u (n * factor) rest)
  | .unit u factor :: rest => some (amountAfter f u factor rest)
  | .shift days :: rest => some (f.moveBy .day days, rest)
  | .zone minutes :: rest => namedZoneAfter f minutes rest
  | .mark 'T' :: rest => namedZoneAfter f (-420) rest
  | _ => none

/-- What a text says; at most the given number of its parts is read. -/
def items : Nat → Findings → List Token → Option Findings
  | _, f, [] => some f
  | 0, _, _ => none
  | n + 1, f, words => do
    let (f, rest) ← item f words
    items n f rest

/-! ## The time that is meant -/

/-- The hour of the day. -/
def hourOf? (hour : Nat) : Option Bool → Option Nat
  | none => if hour < 24 then some hour else none
  | some afternoon =>
    if 0 < hour && hour ≤ 12 then some (hour % 12 + if afternoon then 12 else 0) else none

/-- A year as it is meant: with two digits it is one of the years around the turn of the century. -/
def yearOf (year : Int) (digits : Nat) : Int :=
  let year := if year < 0 then -year else year
  if digits = 2 then year + (if year < 69 then 2000 else 1900) else year

/-- The time that findings mean, by the clocks of a place, given the present. -/
def Findings.instant? (f : Findings) (now : Instant) (zone : Zone) : Option Instant := do
  if 1 < f.dates || 1 < f.times || 1 < f.days || 1 < f.zones then failure
  let present := now.reading zone
  let year := match f.year with
    | some (year, digits) => yearOf year digits
    | none => present.date.year
  let (month, day) : Int × Int :=
    if f.dates = 0 then (present.date.month, present.date.day) else (f.month, f.day)
  let (hour, minute, second, nanosecond) ←
    if f.times ≠ 0 then do
      let hour ← hourOf? f.hour f.half
      pure (hour, f.minute, f.second, f.nanosecond)
    else if f.moved && f.dates = 0 && f.days = 0 then
      pure (present.hour, present.minute, present.second, now.nanoseconds)
    else pure (0, 0, 0, 0)
  if month < 1 || 12 < month || day < 1 || monthLength year month.toNat < day then failure
  if 59 < minute || 59 < second then failure
  let start := dayOf year month.toNat day
  let start :=
    if f.days ≠ 0 && f.dates = 0 then
      let (ordinal, weekday) := f.weekday
      let today := weekdayOf start
      let weeks := ordinal - if 0 < ordinal && today ≠ weekday then 1 else 0
      start + ((weekday + 7 - today) % 7 : Nat) + 7 * weeks
    else start
  let start :=
    if f.moreYears = 0 && f.moreMonths = 0 && f.moreDays = 0 then start
    else
      let date := dateOf start
      monthStart (date.year + f.moreYears) (date.month + f.moreMonths) + (date.day - 1) + f.moreDays
  let offset := if f.zones = 0 then zone.offset else 60 * f.zone
  let seconds := start * 86400 + hour * 3600 + minute * 60 + second - offset + f.moreSeconds
  let nanoseconds := nanosecond + f.moreNanoseconds
  pure
    { seconds := seconds + nanoseconds / 1000000000
      nanoseconds := (nanoseconds % 1000000000).toNat }

/-- The time that a text means. -/
def parse? (now : Instant) (zone : Zone) (text : Octets) : Option Instant :=
  let words := tokens (text.length + 1) text
  let tooLarge := words.any fun
    | .number digits | .signed _ digits | .fraction _ digits _ =>
      0x7FFFFFFFFFFFFFFF < valueOf digits
    | _ => false
  if tooLarge then none
  else
    match words with
    | [.mark '@', .number digits] => some ⟨valueOf digits, 0⟩
    | [.mark '@', .signed negative digits] => some ⟨signedValue negative digits, 0⟩
    | [.mark '@', .fraction sign digits nanos] =>
      some (if sign = some true && nanos ≠ 0 then
          ⟨-(valueOf digits : Int) - 1, 1000000000 - nanos⟩
        else ⟨signedValue (sign = some true) digits, nanos⟩)
    | words => (items words.length {} words).bind fun f => f.instant? now zone

end Fleet.Calendar
