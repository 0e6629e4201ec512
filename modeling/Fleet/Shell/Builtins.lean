import Fleet.Shell.Builtins.Naming
import Fleet.Shell.Builtins.Directory
import Fleet.Shell.Builtins.Jobs
import Fleet.Shell.Builtins.Limits
import Fleet.Shell.Builtins.Reading
import Fleet.Shell.Builtins.Rich.Directory
import Fleet.Shell.Builtins.Rich.Names
import Fleet.Shell.Builtins.Rich.Printing
import Fleet.Shell.Builtins.Rich.Reading
import Fleet.Shell.Builtins.Rich.Signals
import Fleet.Shell.Builtins.Searching
import Fleet.Shell.Builtins.Switches
import Fleet.Shell.Conditions
import Fleet.Shell.Surroundings

/-!
# Builtins

The commands that are part of the shell and need nothing to be run. Those that run other commands,
or wait for them, belong to the evaluation.
-/

namespace Fleet.Shell

/-- Shows how much time was used: none that could be measured. -/
def showTimes (_ : List Octets) : Exec Unit := do
  let line : Octets := "0m0.000000s 0m0.000000s\n".toList
  (say (line ++ line) : StateM Process Unit)
  setStatus 0

/-- The builtins of the plain shell that need nothing to be run, by name. -/
def builtins : List (String × (List Octets → Exec Unit)) :=
  let always (code : Nat) (_ : List Octets) : Exec Unit := setStatus code
  [(":", always 0), ("[", runTool (Tools.bracket true)), ("alias", Aliases.define),
    ("bg", Jobs.move), ("break", Leaving.overLoops .breakOff), ("cd", Directory.change),
    ("chdir", Directory.change), ("command", Describing.inquire),
    ("continue", Leaving.overLoops .nextRound), ("echo", runTool Tools.shellEcho),
    ("exit", Leaving.exit), ("export", Naming.exportNames), ("false", always 1),
    ("fg", Jobs.move), ("getopts", Searching.run), ("hash", Describing.track),
    ("jobs", Jobs.list), ("kill", Jobs.kill), ("local", Naming.shadowNames),
    ("printf", runTool Tools.shellPrintf), ("pwd", Directory.print), ("read", Reading.run),
    ("readonly", Naming.fixNames), ("return", Leaving.leave), ("set", Switches.run),
    ("shift", Leaving.shift), ("test", runTool (Tools.test true)), ("times", showTimes),
    ("trap", Traps.run), ("true", always 0), ("type", Describing.describe),
    ("ulimit", Limits.run), ("umask", Mask.run), ("unalias", Aliases.forget),
    ("unset", Naming.unset)]

/-- The builtins of the rich shell that declare variables, by name. -/
def declaringBuiltins : List (String × (List Argument → Exec Unit)) :=
  [("declare", Declaring.run false), ("export", Declaring.markNames 'x'),
    ("local", Declaring.run true), ("readonly", Declaring.markNames 'r'),
    ("typeset", Declaring.run false)]

/-- Refuses what needs a terminal. -/
def noTerminal (_ : List Octets) : Exec Unit :=
  failWith 1 "no job control".toList

/-- Lists the builtins, or sees to it that names are those of builtins. -/
def enable (arguments : List Octets) : Exec Unit := do
  let (options, names) ← Letters.take ⟨['a', 'd', 'n', 'p', 's'], ['f']⟩ arguments
  let has (c : Char) : Bool := options.any (·.1 == c)
  let listed := richBuiltins.filter fun name => !has 's' || specialBuiltins.contains name
  if names.isEmpty then
    if !has 'n' then
      (say (listed.map fun name => ("enable " ++ name ++ "\n").toList).flatten :
        StateM Process Unit)
    setStatus 0
  else
    let codes ← names.mapM fun name => do
      let known := isBuiltin .rich name
      if !known then complain (name ++ ": not a shell builtin".toList)
      pure known
    setStatus (if codes.all id then 0 else 1)

/-- The builtins of the rich shell that need nothing to be run and take texts, by name. -/
def textBuiltins : List (String × (List Octets → Exec Unit)) :=
  let always (code : Nat) (_ : List Octets) : Exec Unit := setStatus code
  [(":", always 0), ("[", Conditions.bracket), ("alias", Names.defineAliases), ("bg", noTerminal),
    ("break", Leaving.overLoopsRich .breakOff), ("caller", Printing.caller),
    ("cd", Directory.changeRich), ("continue", Leaving.overLoopsRich .nextRound),
    ("dirs", Directory.listStack), ("echo", Printing.echo), ("enable", enable),
    ("exit", Leaving.exitRich), ("false", always 1), ("fg", noTerminal),
    ("getopts", Searching.runRich), ("hash", Names.hash), ("jobs", Jobs.list),
    ("kill", Jobs.killRich), ("let", Leaving.compute), ("mapfile", Reading.runTable),
    ("popd", Directory.pop), ("printf", Printing.printf), ("pushd", Directory.push),
    ("pwd", Printing.pwd), ("read", Reading.runRich), ("readarray", Reading.runTable),
    ("return", Leaving.leaveRich), ("set", Switches.run), ("shift", Leaving.shiftRich),
    ("shopt", Switches.shopt), ("test", Conditions.test []), ("times", Printing.times),
    ("trap", Traps.runRich), ("true", always 0), ("type", Names.type), ("ulimit", Limits.run),
    ("umask", Printing.umask), ("unalias", Names.forgetAliases), ("unset", Declaring.unset)]

end Fleet.Shell
