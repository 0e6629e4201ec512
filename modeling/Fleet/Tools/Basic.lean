import Fleet.Tools.Characters
import Fleet.Tools.Comparing
import Fleet.Tools.Condition
import Fleet.Tools.Copying
import Fleet.Tools.Counting
import Fleet.Tools.Dates
import Fleet.Tools.Digests
import Fleet.Tools.Dumping
import Fleet.Tools.Editing
import Fleet.Tools.Excerpts
import Fleet.Tools.Expressions
import Fleet.Tools.Factors
import Fleet.Tools.Fields
import Fleet.Tools.Folding
import Fleet.Tools.Formats
import Fleet.Tools.Identity
import Fleet.Tools.Installing
import Fleet.Tools.Joining
import Fleet.Tools.Linking
import Fleet.Tools.Listing
import Fleet.Tools.Merging
import Fleet.Tools.Numbering
import Fleet.Tools.Ordering
import Fleet.Tools.Paragraphs
import Fleet.Tools.Passing
import Fleet.Tools.Paths
import Fleet.Tools.Permissions
import Fleet.Tools.Repeats
import Fleet.Tools.Searching
import Fleet.Tools.Sections
import Fleet.Tools.Sequence
import Fleet.Tools.Settings
import Fleet.Tools.Sorting
import Fleet.Tools.Splitting
import Fleet.Tools.Status
import Fleet.Tools.Tabs
import Fleet.Tools.Transfer
import Fleet.Tools.Units

/-!
# The tools of the system

Which programs the system comes with. Those that start other programs are known to the shell, not
here.
-/

namespace Fleet.Tools

open Shell

/-- Ends with a code and does nothing. -/
def constant (code : Nat) : Tool :=
  fun _ => pure code

/-- How long an argument is, in millionths of a second: a number, perhaps with a letter for its
unit. -/
def timeOf? (argument : Octets) : Option Nat :=
  let units : List (Char × Nat) := [('s', 1), ('m', 60), ('h', 3600), ('d', 86400)]
  let (text, unit) :=
    match argument.getLast?.bind fun c => units.lookup c with
    | some unit => (argument.dropLast, unit)
    | none => (argument, 1)
  match Decimal.scan? .double text with
  | some ⟨⟨false, .finite r⟩, [], _⟩ => some (r.scaledBy 6 * unit)
  | _ => none

/-- The time that arguments add up to; without one the code to end with. -/
def sleepTime (arguments : List Octets) : StateM Process (Except Nat Nat) := do
  if arguments.isEmpty then
    misuse "missing operand".toList
    pure (.error 1)
  else
    let bad := arguments.filter fun argument => (timeOf? argument).isNone
    bad.dropLast.forM fun argument =>
      fault ("invalid time interval '".toList ++ argument ++ ['\''])
    match bad.getLast? with
    | some argument => do
      misuse ("invalid time interval '".toList ++ argument ++ ['\''])
      pure (.error 1)
    | none => pure (.ok ((arguments.filterMap timeOf?).foldl (· + ·) 0))

/-- Reports that what was printed could not be written, and ends with the code for that. -/
def reportRefused : StateM Process Unit := do
  match (← get).refused with
  | some e => do
    fault ("write error: ".toList ++ e.description.toList)
    modify fun p => { p with refused := none, status := 1 }
  | none => pure ()

/-- The tools by name. -/
def all : List (String × Tool) :=
  [("[", bracket false), ("arch", arch), ("b2sum", b2sum), ("base32", base32), ("base64", base64),
    ("basename", basename), ("basenc", basenc), ("cat", cat), ("chgrp", chgrp), ("chmod", chmod),
    ("chown", chown), ("cksum", cksum), ("cmp", cmp), ("comm", comm), ("cp", cp),
    ("csplit", csplit), ("cut", cut), ("date", date), ("dd", dd), ("diff", diff), ("dir", dir),
    ("dirname", dirname), ("du", du), ("echo", echo), ("egrep", egrep), ("expand", expand),
    ("expr", expr), ("factor", factor), ("false", constant 1), ("fgrep", fgrep), ("fmt", fmt),
    ("fold", fold), ("grep", grep), ("groups", groups), ("head", head), ("hostname", hostname),
    ("id", identity), ("install", install), ("join", join), ("link", link), ("ln", ln),
    ("logname", logname), ("ls", ls), ("md5sum", Digests.tool Digests.md5), ("mkdir", mkdir),
    ("mktemp", mktemp), ("mv", mv), ("nl", nl), ("nproc", nproc), ("numfmt", numfmt), ("od", od),
    ("paste", paste), ("pathchk", pathchk), ("printenv", printenv), ("printf", printf),
    ("pwd", pwd), ("readlink", readlink), ("realpath", realpath), ("rev", rev), ("rgrep", rgrep),
    ("rm", rm), ("rmdir", rmdir), ("sed", sed), ("seq", seq),
    ("sha1sum", Digests.tool Digests.sha1), ("sha224sum", Digests.tool Digests.sha224),
    ("sha256sum", Digests.tool Digests.sha256), ("sha384sum", Digests.tool Digests.sha384),
    ("sha512sum", Digests.tool Digests.sha512), ("shuf", shuf), ("sort", sort), ("split", split),
    ("stat", stat), ("sum", sum), ("sync", sync), ("tac", tac), ("tail", tail), ("tee", tee),
    ("test", test false), ("touch", touch), ("tr", tr), ("true", constant 0),
    ("truncate", truncate), ("tsort", tsort), ("tty", tty), ("uname", uname),
    ("unexpand", unexpand), ("uniq", uniq), ("unlink", unlink), ("users", users), ("vdir", vdir),
    ("wc", wc), ("which", which), ("who", who), ("whoami", whoami), ("yes", yes)]

/-- The programs that run scripts. -/
def interpreters : List String :=
  ["bash", "dash", "sh"]

/-- The programs that run another program, or let time pass. -/
def wrapperNames : List String :=
  ["awk", "env", "find", "mawk", "nawk", "nice", "nohup", "setsid", "sleep", "stdbuf", "timeout",
    "xargs"]

/-- The names of all programs. -/
def names : List String :=
  all.map Prod.fst ++ interpreters ++ wrapperNames

end Fleet.Tools
