import Fleet.Calendar.Basic
import Fleet.Shell.Process
import Fleet.Text.Octets

/-!
# Clocks

The zones that clocks are read in, and the clock of a process.
-/

/-!
## Zones by name

A zone is told by its name and by how far its clocks are behind universal time, or by the name of a
place whose clocks are known. The clocks of all zones are the same in summer and in winter.
-/

namespace Fleet.Calendar

namespace Zone

/-- Places with their names for the time and with how many minutes their clocks are ahead. -/
def places : List (String × String × Int) :=
  [("UTC", "UTC", 0), ("Etc/UTC", "UTC", 0), ("Etc/UCT", "UTC", 0), ("Etc/Universal", "UTC", 0),
    ("Etc/Zulu", "UTC", 0), ("UCT", "UCT", 0), ("Zulu", "Zulu", 0), ("Universal", "Universal", 0),
    ("GMT", "GMT", 0), ("Etc/GMT", "GMT", 0), ("GMT0", "GMT", 0), ("EST", "EST", -300),
    ("MST", "MST", -420), ("HST", "HST", -600), ("Asia/Tokyo", "JST", 540), ("Japan", "JST", 540),
    ("Asia/Seoul", "KST", 540), ("Asia/Shanghai", "CST", 480), ("PRC", "CST", 480),
    ("Asia/Hong_Kong", "HKT", 480), ("Asia/Kolkata", "IST", 330), ("Asia/Calcutta", "IST", 330),
    ("Asia/Dubai", "+04", 240), ("Asia/Singapore", "+08", 480), ("Europe/Moscow", "MSK", 180),
    ("America/Phoenix", "MST", -420), ("Africa/Nairobi", "EAT", 180), ("Africa/Lagos", "WAT", 60)]

/-- The value of digits, which are at most two. -/
def smallNumber? (digits : Octets) (most : Nat) : Option Nat :=
  let n := digits.foldl (fun n d => n * 10 + (d.toNat - '0'.toNat)) 0
  if digits.isEmpty || 2 < digits.length || !digits.all Char.isDigit || most < n then none
  else some n

/-- How many seconds hours, minutes and seconds are, with colons between them. -/
def seconds? (text : Octets) : Option Nat :=
  match text.splitOn ':' with
  | [hour] => (smallNumber? hour 24).map (· * 3600)
  | [hour, minute] => do
    let hour ← smallNumber? hour 24
    let minute ← smallNumber? minute 59
    pure (hour * 3600 + minute * 60)
  | [hour, minute, second] => do
    let hour ← smallNumber? hour 24
    let minute ← smallNumber? minute 59
    let second ← smallNumber? second 59
    pure (hour * 3600 + minute * 60 + second)
  | _ => none

/-- The name at the start of a text, and the rest. -/
def nameAndRest (text : Octets) : Octets × Octets :=
  match text with
  | '<' :: text =>
    let name := text.takeWhile fun c => c.isAlphanum || c == '+' || c == '-'
    match text.drop name.length with
    | '>' :: rest => (name, rest)
    | _ => ([], [])
  | text =>
    let name := text.takeWhile Char.isAlpha
    (name, text.drop name.length)

/-- The zone that a name describes. -/
def ofName (text : Octets) : Zone :=
  let text := if text.head? == some ':' then text.tail else text
  match places.find? fun (place, _) => place.toList == text with
  | some (_, name, minutes) => ⟨name.toList, 60 * minutes⟩
  | none =>
    let (name, rest) := nameAndRest text
    if text.isEmpty then ⟨"Universal".toList, 0⟩
    else if name.length < 3 then ⟨[], 0⟩
    else
      let behind := match rest with
        | '-' :: digits => (seconds? digits).map fun n => -(n : Int)
        | '+' :: digits | digits => (seconds? digits).map fun n => (n : Int)
      match behind with
      | some n => ⟨name, -n⟩
      | none => ⟨if rest.head?.any Char.isDigit then [] else name, 0⟩

end Zone

end Fleet.Calendar

/-!
## The present of a process

A process has a clock, and its environment says in which zone it reads it.
-/

namespace Fleet.Shell.Process

/-- The present. -/
def now (p : Process) : Calendar.Instant :=
  ⟨p.clock / 1000000, p.clock % 1000000 * 1000⟩

/-- The value of a variable. -/
def setting? (p : Process) (name : Octets) : Option Octets :=
  (p.vars.find? fun v => v.name == name).bind Variable.value

/-- The zone in which a process reads the clock. -/
def zone (p : Process) : Calendar.Zone :=
  ((p.setting? "TZ".toList).map Calendar.Zone.ofName).getD .universal

end Fleet.Shell.Process
