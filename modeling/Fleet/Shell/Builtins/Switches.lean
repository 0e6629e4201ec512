import Fleet.Shell.Builtins.Naming
import Fleet.Shell.Builtins.Rich.Declaring

/-!
# Options of the shell

Options are switched on by letters after a hyphen and off by letters after a plus sign, or by their
names after the letter `o`.
-/

namespace Fleet.Shell.Switches

/-- Switches an option on or off. Only one of the two ways to edit lines can be on. -/
def switch (on : Bool) (letter : Char) : Exec Unit :=
  let rival : Char := if letter = 'V' then 'E' else if letter = 'E' then 'V' else letter
  modify fun p =>
    let others := p.options.filter fun o => o != letter && !(on && o == rival)
    { p with options := if on then letter :: others else others }

/-- Switches a further option on or off. -/
def switchExtra (on : Bool) (name : String) : Exec Unit :=
  modify fun p =>
    let others := p.extras.filter (· ≠ name)
    { p with extras := if on then name :: others else others }

/-- An option of the rich shell with whether it is on. -/
def richLine (name : String) (on : Bool) : Octets :=
  name.toList ++ List.replicate (15 - name.length) ' ' ++
    (if on then "\ton\n" else "\toff\n").toList

/-- Lists the options of the rich shell with whether they are on, or as the commands that switch
them so. -/
def richListing (p : Process) (asCommands : Bool) : Octets :=
  (richOptions.map fun (name, letter) =>
    let on := p.isOnNamed name letter
    if asCommands then ("set " ++ (if on then "-o " else "+o ") ++ name ++ "\n").toList
    else richLine name on).flatten

/-- Lists the options with whether they are on, or as the commands that switch them so. -/
def plainListing (p : Process) (asCommands : Bool) : Octets :=
  (if asCommands then [] else "Current option settings\n".toList) ++
    (shellOptions.map fun (name, letter) =>
    let on := p.isOn letter
    if asCommands then ("set " ++ (if on then "-o " else "+o ") ++ name ++ "\n").toList
    else
      name.toList ++ List.replicate (16 - name.length) ' ' ++
        (if on then "on\n" else "off\n").toList).flatten

/-- Lists the options with whether they are on, or as the commands that switch them so. -/
def listing (p : Process) (asCommands : Bool) : Octets :=
  match p.dialect with
  | .plain => plainListing p asCommands
  | .rich => richListing p asCommands

/-- Switches the option of a name, which is the first of some arguments; without one the options are
listed. The arguments after it are left. -/
def switchNamed (on : Bool) : List Octets → Exec (List Octets)
  | [] => do
    (do say (listing (← get) !on) : StateM Process Unit)
    pure []
  | name :: rest => do
    let text := String.ofList name
    match (← get).dialect with
    | .plain =>
      match shellOptions.lookup text with
      | some letter => do
        switch on letter
        pure rest
      | none => fail ("Illegal option -o ".toList ++ name)
    | .rich =>
      match richOptions.lookup text with
      | some (some letter) => do
        switch on letter
        pure rest
      | some none => do
        switchExtra on text
        pure rest
      | none => fail (name ++ ": invalid option name".toList)

/-- Switches the further option of a name, which is the first of some arguments. -/
def switchFurther (on : Bool) : List Octets → Exec (List Octets)
  | [] => pure []
  | name :: rest =>
    if (richExtras.lookup (String.ofList name)).isSome then do
      switchExtra on (String.ofList name)
      pure rest
    else fail (name ++ ": invalid shell option name".toList)

/-- Whether a letter is that of an option. -/
def isLetter (dialect : Dialect) (starting : Bool) (c : Char) : Bool :=
  match dialect with
  | .plain => c.isAlpha && shellOptions.any (·.2 == c)
  | .rich =>
    richOptions.any (·.2 == some c) || (starting && ['i', 'l', 'r', 's', 'D'].contains c)

/-- Switches the options of some letters; the arguments after them are left. Where a shell is
started the letter `c` says that a script follows. -/
def switchLetters (starting on : Bool) (rest : List Octets) :
    Octets → Exec (List Octets × Bool)
  | [] => pure (rest, false)
  | c :: more => do
    if c = 'c' && starting then
      let (rest, _) ← switchLetters starting on rest more
      pure (rest, true)
    else if c = 'o' then
      let rest ← switchNamed on rest
      switchLetters starting on rest more
    else if c = 'O' && starting && (← get).dialect = .rich then
      let rest ← switchFurther on rest
      switchLetters starting on rest more
    else if isLetter (← get).dialect starting c then
      switch on c
      switchLetters starting on rest more
    else Letters.refuse c

/-- What is left after options. -/
structure Rest : Type where
  arguments : List Octets
  /-- Whether two hyphens have ended the options. -/
  ended : Bool := false
  /-- Whether a script follows. -/
  scripted : Bool := false
  deriving Repr

/-- Switches the options in front of arguments, which are at most of the given number. -/
def switchAll (starting : Bool) : Nat → List Octets → Exec Rest
  | 0, arguments => pure { arguments }
  | n + 1, arguments =>
    match arguments with
    | ['-', '-'] :: rest => pure { arguments := rest, ended := true }
    | ('-' :: '-' :: name) :: rest => do
      if (← get).dialect = .plain then
        let (rest, scripted) ← switchLetters starting true rest ('-' :: name)
        let r ← switchAll starting n rest
        pure { r with scripted := r.scripted || scripted }
      else if starting then
        if name = "posix".toList then switchExtra true "posix"
        switchAll starting n rest
      else Letters.refuse '-'
    | ['-'] :: rest => do
      if !starting then
        switch false 'x'
        switch false 'v'
      pure { arguments := rest }
    | (sign :: letters) :: rest => do
      if sign = '-' || sign = '+' then
        let (rest, scripted) ← switchLetters starting (sign == '-') rest letters
        let r ← switchAll starting n rest
        pure { r with scripted := r.scripted || scripted }
      else pure { arguments }
    | _ => pure { arguments }

/-- Takes back what needs a terminal. -/
def withoutTerminal : Exec Unit := do
  if (← get).dialect = .plain && (← get).isOn 'm' then
    complain "can't access tty; job control turned off".toList
    switch false 'm'

/-- Replaces the arguments of the script. -/
def setArguments (arguments : List Octets) : Exec Unit :=
  modify fun p => { p with arguments, optionPlace := 1, optionOffset := none }

/-- Switches options and replaces the arguments of the script if some are given; lists the variables
if nothing is asked for. -/
def run (arguments : List Octets) : Exec Unit := do
  if arguments.isEmpty then
    if (← get).dialect = .rich then Declaring.listAll else (Naming.listAll : StateM Process Unit)
  else
    let rest ← switchAll false arguments.length arguments
    withoutTerminal
    if rest.ended || !rest.arguments.isEmpty then setArguments rest.arguments
  setStatus 0

/-- Switches further options of the rich shell, or shows them. -/
def shopt (arguments : List Octets) : Exec Unit := do
  let (options, names) ← Letters.take ⟨['s', 'u', 'p', 'q', 'o'], []⟩ arguments
  let has (c : Char) : Bool := options.any (·.1 == c)
  let p ← get
  let table : List (String × Option Char) :=
    if has 'o' then richOptions else richExtras.map fun (name, _) => (name, none)
  let isOn (name : String) : Bool := p.isOnNamed name ((table.lookup name).getD none)
  let line (name : String) : Octets :=
    if has 'p' then
      if has 'o' then ("set " ++ (if isOn name then "-o " else "+o ") ++ name ++ "\n").toList
      else ("shopt " ++ (if isOn name then "-s " else "-u ") ++ name ++ "\n").toList
    else
      richLine name (isOn name)
  if names.isEmpty then
    let shown := (table.map Prod.fst).filter fun name =>
      (!has 's' || isOn name) && (!has 'u' || !isOn name)
    if !has 'q' then (say (shown.map line).flatten : StateM Process Unit)
    setStatus 0
  else
    let codes ← names.mapM fun name => do
      let text := String.ofList name
      match table.lookup text with
      | none => do
        complain (name ++ (if has 'o' then ": invalid option name" else
          ": invalid shell option name").toList)
        pure false
      | some letter =>
        if has 's' || has 'u' then
          match letter with
          | some letter => switch (has 's') letter
          | none => switchExtra (has 's') text
          pure true
        else do
          if !has 'q' then (say (line text) : StateM Process Unit)
          pure (isOn text)
    setStatus (if codes.all id then 0 else 1)

end Fleet.Shell.Switches
