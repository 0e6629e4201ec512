import Fleet.Shell.Process

/-!
# Variables of a script

Setting, marking and unsetting variables, the variables that programs see, and variables that a
function or a single command has to itself.
-/

namespace Fleet.Shell

/-- The number that an argument is: decimal digits, perhaps with a sign in front and blanks around
them. It is not negative and fits into 31 bits. -/
def natural? (text : Octets) : Option Nat :=
  let isBlank (c : Char) : Bool := c == ' ' || ('\t' ≤ c && c ≤ '\r')
  let start := text.dropWhile isBlank
  let (negative, start) :=
    match start with
    | '-' :: rest => (true, rest)
    | '+' :: rest => (false, rest)
    | rest => (false, rest)
  let digits := start.takeWhile Char.isDigit
  let n := digits.foldl (fun n d => n * 10 + (d.toNat - '0'.toNat)) 0
  if digits.isEmpty || !(start.drop digits.length).all isBlank then none
  else if 0x7FFFFFFF < n || (negative && n ≠ 0) then none
  else some n

/-- The number that an argument is; any other argument is a mistake. -/
def naturalOf (text : Octets) : Exec Nat :=
  match natural? text with
  | some n => pure n
  | none => fail ("Illegal number: ".toList ++ text)

namespace Process

/-- What is known of a variable. -/
def declared? (p : Process) (name : Octets) : Option Variable :=
  p.vars.find? (·.name == name)

/-- The value of a variable; that of an array is its first element. -/
def valueOf? (p : Process) (name : Octets) : Option Octets :=
  (p.declared? name).bind fun v =>
    match v.table with
    | none => v.value
    | some (.indexed elements) => elements.lookup 0
    | some (.keyed elements) => elements.lookup ['0']

/-- The process with a variable in place of the one of its name, or after all others. -/
def putVariable (p : Process) (v : Variable) : Process :=
  if p.vars.any (·.name == v.name) then
    { p with vars := p.vars.map fun old => if old.name == v.name then v else old }
  else { p with vars := p.vars ++ [v] }

/-- The process after a variable is set, whatever is said of it. -/
def setVariable (p : Process) (name value : Octets) (exported : Bool := false) : Process :=
  let old := (p.declared? name).getD { name, value := none }
  p.putVariable { old with value := some value, exported := old.exported || exported }

/-- The process without a variable. -/
def dropVariable (p : Process) (name : Octets) : Process :=
  { p with vars := p.vars.filter (·.name != name) }

/-- Whether a variable can no longer be changed. -/
def isFixed (p : Process) (name : Octets) : Bool :=
  ((p.declared? name).map Variable.fixed).getD false

/-- The place of a variable among those that are handed on. -/
def slot (v : Variable) : Nat :=
  (((v.name.head?).map Char.toNat).getD 0 * 16 + v.name.foldl (fun n c => n + c.toNat) 0) % 39

/-- The variables that programs see, in the order they are handed on. -/
def exports (p : Process) : List Variable :=
  (p.vars.filter fun v => v.exported && v.value.isSome && v.table.isNone).mergeSort fun a b =>
    slot a ≤ slot b

end Process

/-- What follows from a new value of a variable: programs are looked for again, or options are
searched for from another argument on. -/
def follow (name : Octets) (value : Option Octets) : Exec Unit :=
  if name = "PATH".toList then modify fun p => { p with tracked := [] }
  else if name = "OPTIND".toList then do
    let place ← naturalOf (value.getD [])
    modify fun p => { p with optionPlace := max place 1, optionOffset := none }
  else pure ()

/-- Refuses to change a variable that can no longer be changed. -/
def refuseFixed (name : Octets) : Exec Unit := do
  if (← get).isFixed name then fail (name ++ ": is read only".toList)

/-- Sets a variable, or only marks it if no value is given. -/
def markVariable (name : Octets) (value : Option Octets) (mark : Variable → Variable) :
    Exec Unit := do
  refuseFixed name
  let p ← get
  let old := p.declared? name
  if old.isSome then follow name value
  let known : Variable := old.getD { name, value := none }
  let exported := known.exported || p.isOn 'a'
  modify fun p => p.putVariable (mark { known with value, exported })

/-- Refuses what is no name of a variable. -/
def refuseName (name : Octets) : Exec Unit :=
  if isName name then pure () else fail (name ++ ": bad variable name".toList)

/-- Sets a variable. -/
def assignVariable (name value : Octets) (exported : Bool := false) : Exec Unit := do
  refuseName name
  markVariable name (some value) fun v => { v with exported := v.exported || exported }

/-- Forgets the value of a variable, and the variable unless it is always remembered. -/
def unsetVariable (name : Octets) : Exec Unit := do
  refuseName name
  refuseFixed name
  match (← get).declared? name with
  | none => pure ()
  | some v => do
    follow name none
    modify fun p =>
      if v.lasting then p.putVariable { v with value := none } else p.dropVariable name

/-- Keeps what a variable is, to be restored, and sets it if a value is given. -/
def shadowVariable (name : Octets) (value : Option Octets) (exported : Bool) : Exec Unit := do
  let mark (v : Variable) : Variable :=
    { v with exported := v.exported || exported, lasting := true }
  match (← get).declared? name with
  | none => do
    if value.isNone then refuseName name
    markVariable name value mark
    modify fun p => { p with shadows := .absent name :: p.shadows }
  | some old => do
    modify fun p => (p.putVariable { old with lasting := true })
    if value.isSome then markVariable name value mark
    modify fun p => { p with shadows := .variable old :: p.shadows }

/-- Restores what was kept last, the given number of times. -/
def unshadow : Nat → Exec Unit
  | 0 => pure ()
  | n + 1 => do
    match (← get).shadows with
    | [] => pure ()
    | shadow :: rest => do
      modify fun p => { p with shadows := rest }
      match shadow with
      | .options letters => modify fun p => { p with options := letters }
      | .absent name => modify (·.dropVariable name)
      | .variable old => do
        follow old.name old.value
        modify (·.putVariable old)
      unshadow n

/-- Runs a step, at the end of which all is restored that it has kept. A step that ends the script
restores nothing, since what is run at the end of the script still sees it. -/
def withShadows (step : Exec Unit) : Exec Unit := do
  let depth := (← get).shadows.length
  let restore : Exec Unit := do unshadow ((← get).shadows.length - depth)
  tryCatch step fun jump => do
    match jump with
    | .leave _ | .breakOff _ | .nextRound _ | .discarded => restore
    | _ => pure ()
    throw jump
  restore

/-- The variables that a shell starts with: some of its own, and those that it is given. -/
def shellVariables (given : List Variable) (parent : Nat) : List Variable :=
  let own (name value : String) : Variable :=
    { name := name.toList, value := some value.toList, lasting := true }
  let unset (name : String) : Variable :=
    { name := name.toList, value := none, lasting := true }
  let separators := own "IFS" " \t\n"
  let start : List Variable :=
    [separators, unset "MAIL", unset "MAILPATH",
      own "PATH" "/usr/local/sbin:/usr/local/bin:/usr/sbin:/usr/bin:/sbin:/bin",
      own "PS1" "# ", own "PS2" "> ", own "PS4" "+ ", own "OPTIND" "1", unset "TERM",
      unset "HISTSIZE"]
  let put (vars : List Variable) (v : Variable) : List Variable :=
    match vars.find? (·.name == v.name) with
    | some old =>
      let v := { v with exported := v.exported || old.exported, lasting := old.lasting }
      vars.map fun other => if other.name == v.name then v else other
    | none => vars ++ [v]
  let reset : List Variable :=
    [separators, own "OPTIND" "1", { name := "PPID".toList, value := some (decimal parent) }]
  ((given.filter fun v => isName v.name) ++ reset).foldl put start

end Fleet.Shell
