import Fleet.Shell.Variables

/-!
# Parameters

What a script can refer to besides its variables: its arguments, its options, its last status and
the numbers of processes.
-/

namespace Fleet.Shell

/-- The options of the plain shell: their long names and letters, if they have one. -/
def shellOptions : List (String × Char) :=
  [("errexit", 'e'), ("noglob", 'f'), ("ignoreeof", 'I'), ("interactive", 'i'), ("monitor", 'm'),
    ("noexec", 'n'), ("stdin", 's'), ("xtrace", 'x'), ("verbose", 'v'), ("vi", 'V'),
    ("emacs", 'E'), ("noclobber", 'C'), ("allexport", 'a'), ("notify", 'b'), ("nounset", 'u'),
    ("privileged", 'p'), ("nolog", ' '), ("debug", '\t')]

/-- The options of the rich shell: their names and letters, if they have one. -/
def richOptions : List (String × Option Char) :=
  [("allexport", some 'a'), ("braceexpand", some 'B'), ("emacs", none), ("errexit", some 'e'),
    ("errtrace", some 'E'), ("functrace", some 'T'), ("hashall", some 'h'),
    ("histexpand", some 'H'), ("history", none), ("ignoreeof", none),
    ("interactive-comments", none), ("keyword", some 'k'), ("monitor", some 'm'),
    ("noclobber", some 'C'), ("noexec", some 'n'), ("noglob", some 'f'), ("nolog", none),
    ("notify", some 'b'), ("nounset", some 'u'), ("onecmd", some 't'), ("physical", some 'P'),
    ("pipefail", none), ("posix", none), ("privileged", some 'p'), ("verbose", some 'v'),
    ("vi", none), ("xtrace", some 'x')]

/-- Further options of the rich shell, and whether they are on at its start. -/
def richExtras : List (String × Bool) :=
  [("autocd", false), ("assoc_expand_once", false), ("cdable_vars", false), ("cdspell", false),
    ("checkhash", false), ("checkjobs", false), ("checkwinsize", true), ("cmdhist", true),
    ("compat31", false), ("compat32", false), ("compat40", false), ("compat41", false),
    ("compat42", false), ("compat43", false), ("compat44", false), ("complete_fullquote", true),
    ("direxpand", false), ("dirspell", false), ("dotglob", false), ("execfail", false),
    ("expand_aliases", false), ("extdebug", false), ("extglob", false), ("extquote", true),
    ("failglob", false), ("force_fignore", true), ("globasciiranges", true),
    ("globskipdots", true), ("globstar", false), ("gnu_errfmt", false), ("histappend", false),
    ("histreedit", false), ("histverify", false), ("hostcomplete", true), ("huponexit", false),
    ("inherit_errexit", false), ("interactive_comments", true), ("lastpipe", false),
    ("lithist", false), ("localvar_inherit", false), ("localvar_unset", false),
    ("login_shell", false), ("mailwarn", false), ("no_empty_cmd_completion", false),
    ("nocaseglob", false), ("nocasematch", false), ("noexpand_translation", false),
    ("nullglob", false), ("patsub_replacement", true), ("progcomp", true),
    ("progcomp_alias", false), ("promptvars", true), ("restricted_shell", false),
    ("shift_verbose", false), ("sourcepath", true), ("varredir_close", false),
    ("xpg_echo", false)]

/-- The names of the further options that are on at the start of the rich shell. -/
def startingExtras : List String :=
  "interactive-comments" :: (richExtras.filter Prod.snd).map Prod.fst

/-- Whether an option of the rich shell is on, given its name and its letter. -/
def Process.isOnNamed (p : Process) (name : String) (letter : Option Char) : Bool :=
  match letter with
  | some letter => p.isOn letter
  | none => p.extras.contains name

/-- The letters of the options of the rich shell, in the order in which they are shown. -/
def richLetters : Octets :=
  "abefhikmnprtuvxBCEHPTcs".toList

/-- The letters of the options that are on: in the plain shell the last option first. -/
def Process.optionLetters (p : Process) : Octets :=
  match p.dialect with
  | .plain =>
    ((shellOptions.map Prod.snd).filter fun letter => p.isOn letter && letter.isAlpha).reverse
  | .rich => richLetters.filter p.isOn

/-- The number that decimal digits stand for. -/
def numberOf (digits : Octets) : Nat :=
  digits.foldl (fun n d => n * 10 + (d.toNat - '0'.toNat)) 0

/-- What the rich shell knows by names that are no variables. -/
def known? (p : Process) (name : Octets) : Option Octets :=
  match p.dialect, String.ofList name with
  | .plain, _ => none
  | .rich, "LINENO" => some (decimal p.line)
  | .rich, "SECONDS" | .rich, "EPOCHSECONDS" => some (decimal (p.clock / 1000000))
  | .rich, "RANDOM" => some (decimal ((p.nextNumber * 1103515245 + p.line * 12345) % 32768))
  | .rich, "BASHPID" => some (decimal p.number)
  | .rich, "BASH_SUBSHELL" =>
    some (decimal ((p.number :: p.ancestors).takeWhile (· ≠ p.shell)).length)
  | .rich, "FUNCNAME" => p.calls.head?
  | .rich, "BASH_SOURCE" => p.source
  | .rich, "SHELLOPTS" =>
    let on := (richOptions.filter fun (name, letter) => p.isOnNamed name letter).map Prod.fst
    some (":".intercalate on).toList
  | .rich, "BASHOPTS" =>
    let on := (richExtras.map Prod.fst).filter p.extras.contains
    some (":".intercalate on).toList
  | .rich, "DIRSTACK" => p.valueOf? "PWD".toList
  | .rich, "GROUPS" => some ['0']
  | .rich, _ => none

/-- The value of a parameter, arguments being joined; none if it is not set. -/
def parameter? (p : Process) (name : Octets) : Option Octets :=
  match name with
  | ['?'] => some (decimal p.status)
  | ['$'] => some (decimal p.shell)
  | ['#'] => some (decimal p.arguments.length)
  | ['!'] => p.latest.map decimal
  | ['-'] => some p.optionLetters
  | ['@'] | ['*'] => some (List.intercalate [' '] p.arguments)
  | _ =>
    if name.all Char.isDigit then
      match numberOf name with
      | 0 => some p.name
      | n + 1 => p.arguments[n]?
    else (p.valueOf? name).or (known? p name)

/-- Whether a name stands for all arguments. -/
def isSeveral (name : Octets) : Bool :=
  name == ['@'] || name == ['*']

end Fleet.Shell
