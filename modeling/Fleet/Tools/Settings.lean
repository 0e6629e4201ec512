import Fleet.Shell.Present
import Fleet.Tools.Inputs

/-!
# What the environment says

Tools that print variables and look for programs in the directories that a variable lists, and the
one that agrees with everything.
-/

namespace Fleet.Tools

open Shell

/-- Prints the values of variables, or all variables with their values. -/
def printenv : Tool :=
  withOptions [flag '0' ["null"]] (fun g => do
    let p ← get
    let close : Octets := if g.has '0' then ['\x00'] else ['\n']
    if g.operands.isEmpty then
      p.vars.forM fun v => say (v.name ++ '=' :: v.value.getD [] ++ close)
      pure 0
    else
      overAll g.operands fun name =>
        match p.setting? name with
        | some value => do
          say (value ++ close)
          pure 0
        | none => pure 1) 2 true

namespace Whereabouts

/-- Whether a program can be run from a path. -/
def isProgram (p : Process) (path : Octets) : Bool :=
  match entryOf p path with
  | .ok entry => entry.isExecutable
  | .error _ => false

/-- The directories that a list names; an empty name stands for the working directory. -/
def directories (list : Octets) : List Octets :=
  let list :=
    if 1 < list.length && list.getLast? == some ':' && list.dropLast.getLast? != some ':' then
      list ++ [':']
    else list
  (recordsOf ':' list).map fun name => if name.isEmpty then ['.'] else name

/-- The paths of a program. -/
def paths (p : Process) (name : Octets) : List Octets :=
  let all :=
    if name.contains '/' then [name]
    else (directories ((p.setting? "PATH".toList).getD [])).map fun d => d ++ '/' :: name
  all.filter (isProgram p)

/-- The options in front of other arguments, and those; or the letter that is none. -/
def options : List Octets → Except Char (Octets × List Octets)
  | ['-', '-'] :: rest => .ok ([], rest)
  | ('-' :: c :: more) :: rest =>
    match (c :: more).find? fun c => c != 'a' && c != 's' with
    | some c => .error c
    | none => (options rest).map fun (letters, rest) => (c :: more ++ letters, rest)
  | rest => .ok ([], rest)

end Whereabouts

/-- Prints the paths of programs. -/
def which : Tool := fun arguments => do
  let p ← get
  match Whereabouts.options arguments with
  | .error c => do
    sayError ("Illegal option -".toList ++ [c, '\n'])
    let called := if p.name.contains '/' then p.name else "/usr/bin/which".toList
    say ("Usage: ".toList ++ called ++ " [-as] args\n".toList)
    pure 2
  | .ok (letters, names) =>
    if names.isEmpty then pure 1
    else
      overAll names fun name => do
        let found := Whereabouts.paths p name
        let chosen := if letters.contains 'a' then found else found.take 1
        if !letters.contains 's' then say (unlines chosen)
        pure (codeOf (!found.isEmpty))

/-- How many lines are printed to a reader that might want any number of them. -/
def patience : Nat :=
  65536

/-- Prints the same line many times, as nobody is going to read more. -/
def yes : Tool :=
  withOptions [] (fun g => do
    let line := (if g.operands.isEmpty then ['y'] else joined [' '] g.operands) ++ ['\n']
    say (List.replicate patience line).flatten
    match (← get).refused with
    | some e => do
      fault ("standard output: ".toList ++ e.description.toList)
      modify fun p => { p with refused := none }
      pure 1
    | none => pure 141) 1 true

end Fleet.Tools
