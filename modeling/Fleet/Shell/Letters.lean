import Fleet.Shell.Variables
import Fleet.Text.Octets

/-!
# Calling builtins

Which options builtins take, and what is said if they are called otherwise.
-/

/-!
## How builtins are used

What the rich shell says about the use of its builtins when one is called with an option that it
does not know, or without what it needs.
-/

namespace Fleet.Shell

/-- The arguments that the builtins of the rich shell take, by the names of the builtins. -/
def synopses : List (String × String) :=
  [(".", "filename [arguments]"),
    ("alias", "[-p] [name[=value] ... ]"),
    ("bg", "[job_spec ...]"),
    ("break", "[n]"),
    ("builtin", "[shell-builtin [arg ...]]"),
    ("caller", "[expr]"),
    ("cd", "[-L|[-P [-e]] [-@]] [dir]"),
    ("command", "[-pVv] command [arg ...]"),
    ("continue", "[n]"),
    ("declare", "[-aAfFgiIlnrtux] [name[=value] ...] or declare -p [-aAfFilnrtux] [name ...]"),
    ("dirs", "[-clpv] [+N] [-N]"),
    ("disown", "[-h] [-ar] [jobspec ... | pid ...]"),
    ("enable", "[-a] [-dnps] [-f filename] [name ...]"),
    ("eval", "[arg ...]"),
    ("exec", "[-cl] [-a name] [command [argument ...]] [redirection ...]"),
    ("exit", "[n]"),
    ("export", "[-fn] [name[=value] ...] or export -p"),
    ("fg", "[job_spec]"),
    ("getopts", "optstring name [arg ...]"),
    ("hash", "[-lr] [-p pathname] [-dt] [name ...]"),
    ("help", "[-dms] [pattern ...]"),
    ("history", "[-c] [-d offset] [n] or history -anrw [filename] or history -ps arg [arg...]"),
    ("jobs", "[-lnprs] [jobspec ...] or jobs -x command [args]"),
    ("kill", "[-s sigspec | -n signum | -sigspec] pid | jobspec ... or kill -l [sigspec]"),
    ("let", "arg [arg ...]"),
    ("local", "[option] name[=value] ..."),
    ("logout", "[n]"),
    ("mapfile",
      "[-d delim] [-n count] [-O origin] [-s count] [-t] [-u fd] [-C callback] [-c " ++
      "quantum] [array]"),
    ("popd", "[-n] [+N | -N]"),
    ("printf", "[-v var] format [arguments]"),
    ("pushd", "[-n] [+N | -N | dir]"),
    ("pwd", "[-LP]"),
    ("read",
      "[-ers] [-a array] [-d delim] [-i text] [-n nchars] [-N nchars] [-p prompt] [-t " ++
      "timeout] [-u fd] [name ...]"),
    ("readarray",
      "[-d delim] [-n count] [-O origin] [-s count] [-t] [-u fd] [-C callback] [-c " ++
      "quantum] [array]"),
    ("readonly", "[-aAf] [name[=value] ...] or readonly -p"),
    ("return", "[n]"),
    ("set", "[-abefhkmnptuvxBCEHPT] [-o option-name] [--] [-] [arg ...]"),
    ("shift", "[n]"),
    ("shopt", "[-pqsu] [-o] [optname ...]"),
    ("source", "filename [arguments]"),
    ("suspend", "[-f]"),
    ("test", "[expr]"),
    ("trap", "[-lp] [[arg] signal_spec ...]"),
    ("type", "[-afptP] name [name ...]"),
    ("typeset", "[-aAfFgiIlnrtux] name[=value] ... or typeset -p [-aAfFilnrtux] [name ...]"),
    ("ulimit", "[-SHabcdefiklmnpqrstuvxPRT] [limit]"),
    ("umask", "[-p] [-S] [mode]"),
    ("unalias", "[-a] name [name ...]"),
    ("unset", "[-f] [-v] [-n] [name ...]"),
    ("wait", "[-fn] [-p var] [id ...]")]

/-- The line that says how a builtin is used. -/
def usageOf (builtin : Octets) : Octets :=
  let arguments := (synopses.lookup (String.ofList builtin)).getD ""
  builtin ++ ": usage: ".toList ++ builtin ++ ' ' :: arguments.toList ++ ['\n']

/-!
## Options of builtins

Options are letters after a hyphen, some of which take a value: the rest of the argument or the next
one. Two hyphens end them.
-/

/-- The options that a builtin knows: their letters, and those that take a value. -/
structure Letters : Type where
  plain : List Char
  valued : List Char := []
  deriving Repr

/-- Says how the builtin that is being run is used, and gives up. -/
def explainUse {α : Type} : Exec α := do
  let builtin := (← get).within.dropLast.dropLast
  if !builtin.isEmpty then (sayError (usageOf builtin) : StateM Process Unit)
  setStatus 2
  throw .failed

namespace Letters

/-- Refuses a letter that is no option. -/
def refuse {α : Type} (c : Char) : Exec α := do
  match (← get).dialect with
  | .plain => fail ("Illegal option -".toList ++ [c])
  | .rich => do
    complain (['-', c] ++ ": invalid option".toList)
    explainUse

/-- Refuses an option that lacks its value. -/
def refuseBare {α : Type} (c : Char) : Exec α := do
  match (← get).dialect with
  | .plain => fail ("No arg for -".toList ++ c :: " option".toList)
  | .rich => do
    complain (['-', c] ++ ": option requires an argument".toList)
    explainUse

/-- The options in one argument after its hyphen; `rest` are the arguments after it. -/
def cluster (known : Letters) (rest : List Octets) :
    Octets → Exec (List (Char × Octets) × List Octets)
  | [] => pure ([], rest)
  | c :: more => do
    if known.valued.contains c then
      match more, rest with
      | [], [] => refuseBare c
      | [], value :: rest => pure ([(c, value)], rest)
      | more, rest => pure ([(c, more)], rest)
    else if known.plain.contains c then
      let (options, rest) ← cluster known rest more
      pure ((c, []) :: options, rest)
    else refuse c

/-- The options in front of arguments, at most in the given number of them, with their values, and
the arguments after them. -/
def takeUpTo (known : Letters) :
    Nat → List Octets → Exec (List (Char × Octets) × List Octets)
  | 0, arguments => pure ([], arguments)
  | n + 1, arguments =>
    match arguments with
    | ['-', '-'] :: rest => pure ([], rest)
    | ('-' :: c :: more) :: rest => do
      let (options, rest) ← cluster known rest (c :: more)
      let (others, rest) ← takeUpTo known n rest
      pure (options ++ others, rest)
    | _ => pure ([], arguments)

/-- The options in front of arguments, with their values, and the arguments after them. -/
def take (known : Letters) (arguments : List Octets) :
    Exec (List (Char × Octets) × List Octets) :=
  takeUpTo known arguments.length arguments

end Letters

/-- The arguments of a builtin that knows no options. -/
def noOptions (arguments : List Octets) : Exec (List Octets) := do
  let (_, rest) ← Letters.take ⟨[], []⟩ arguments
  pure rest

end Fleet.Shell
