import Fleet.Calendar.Parsing
import Fleet.Calendar.Printing
import Fleet.Shell.Present
import Fleet.Tools.Inputs

/-!
# Dates and times

A tool that prints times: the present, the times that texts mean, or those of the lines of a file.
Files do not keep when they were changed, so they are taken to be changed at present.
-/

namespace Fleet.Tools

open Shell

namespace Dates

/-- The formats that an option chooses by words. -/
def isoFormats : List (String × String) :=
  [("hours", "%Y-%m-%dT%H%:z"), ("minutes", "%Y-%m-%dT%H:%M%:z"), ("date", "%Y-%m-%d"),
    ("seconds", "%Y-%m-%dT%H:%M:%S%:z"), ("ns", "%Y-%m-%dT%H:%M:%S,%N%:z")]

/-- The formats of another option. -/
def plainFormats : List (String × String) :=
  [("date", "%Y-%m-%d"), ("seconds", "%Y-%m-%d %H:%M:%S%:z"), ("ns", "%Y-%m-%d %H:%M:%S.%N%:z")]

/-- The format of an option that is chosen by a word. -/
def chosen (option : String) (formats : List (String × String)) (word : Octets) :
    Except Octets String :=
  (choiceOf option (formats.map fun (word, _) => [word]) word).map fun word =>
    (formats.lookup word).getD ""

/-- The formats that options ask for, in their order, or what is wrong with one. -/
def formats (g : Given) : Except Octets (List String) :=
  let of : Char × Option Octets → Except Octets (List String)
    | ('I', value) => (chosen "iso-8601" isoFormats (value.getD "date".toList)).map ([·])
    | ('3', value) => (chosen "rfc-3339" plainFormats (value.getD [])).map ([·])
    | ('R', _) => .ok ["%a, %d %b %Y %H:%M:%S %z"]
    | _ => .ok []
  (g.options.mapM of).map List.flatten

/-- Prints a time. -/
def print (zone : Calendar.Zone) (format : Octets) (t : Calendar.Instant) : StateM Process Nat := do
  say ((t.reading zone).display format ++ ['\n'])
  pure 0

/-- Prints the time that a text means. -/
def printText (zone : Calendar.Zone) (format text : Octets) : StateM Process Nat := do
  match Calendar.parse? ((← get).now) zone text with
  | some t => print zone format t
  | none => do
    fault ("invalid date ".toList ++ Quoting.value text)
    pure 1

/-- Prints times as options ask for. -/
def run (g : Given) (format : Octets) : StateM Process Nat := do
  let p ← get
  let zone := if g.has 'u' then .universal else p.zone
  match g.value? 'd', g.value? 'f', g.value? 'r', g.value? 's' with
  | some text, _, _, _ => printText zone format text
  | _, some path, _, _ => do
    match ← readSource path with
    | .ok text => overAll (linesOf text) (printText zone format)
    | .error u => do
      fault (Quoting.lead path ++ ": ".toList ++ u.error.description.toList)
      pure 1
  | _, _, some path, _ =>
    match entryOf p path with
    | .ok _ => print zone format p.now
    | .error e => do
      fault (Quoting.lead path ++ ": ".toList ++ e.description.toList)
      pure 1
  | _, _, _, some text =>
    match Calendar.parse? p.now zone text with
    | some t => do
      fault "cannot set date: Operation not permitted".toList
      let _ ← print zone format t
      pure 1
    | none => printText zone format text
  | _, _, _, _ => print zone format p.now

end Dates

/-- Prints dates and times. -/
def date : Tool :=
  withOptions [valued 'd' ["date"], valued 'f' ["file"], perhapsValued 'I' ["iso-8601"],
    valued 'r' ["reference"], flag 'R' ["rfc-email", "rfc-822", "rfc-2822"],
    named '3' "rfc-3339" .value, valued 's' ["set"], flag 'u' ["utc", "uct", "universal"],
    named 'D' "debug"] fun g =>
  orMisuse (Dates.formats g) fun formats => do
    let sources := (['d', 'f', 'r'].filter g.has).length
    if 1 < sources then
      misuse "the options to specify dates for printing are mutually exclusive".toList
      return 1
    if g.has 's' && sources ≠ 0 then
      misuse "the options to print and set the time may not be used together".toList
      return 1
    let go (format : Octets) : StateM Process Nat :=
      if 1 < formats.length then do
        fault "multiple output formats specified".toList
        pure 1
      else Dates.run g format
    let usual := (formats.headD "%a %b %e %H:%M:%S %Z %Y").toList
    match g.operands with
    | [] => go usual
    | [operand] =>
      match operand with
      | '+' :: format =>
        if formats.isEmpty then Dates.run g format
        else
          fault "multiple output formats specified".toList
          pure 1
      | operand =>
        if sources ≠ 0 || g.has 's' then
          misuse ("the argument ".toList ++ Quoting.value operand ++
            " lacks a leading '+';\n".toList ++
            "when using an option to specify date(s), any non-option\n".toList ++
            "argument must be a format string beginning with '+'".toList)
        else fault ("invalid date ".toList ++ Quoting.value operand)
        pure 1
    | _ :: extra :: _ => do
      misuse ("extra operand ".toList ++ Quoting.value extra)
      pure 1

end Fleet.Tools
