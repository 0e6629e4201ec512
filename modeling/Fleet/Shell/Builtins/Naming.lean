import Fleet.Shell.Letters
import Fleet.Shell.Lookup
import Fleet.Shell.Signals

/-!
# Builtins about names

Aliases, the marks that variables can have, and what names stand for.
-/

/-!
## Aliases

A word in the place of a command may stand for a text of the script.
-/

namespace Fleet.Shell.Aliases

/-- The order in which aliases are listed. -/
def slot (name : Octets) : Nat :=
  name.foldl (fun n c => n + c.toNat) (((name.head?).map Char.toNat).getD 0 * 16) % 39

/-- An alias as it is listed. -/
def shown (entry : Octets × Octets) : Octets :=
  entry.1 ++ '=' :: singleQuoted entry.2 ++ ['\n']

/-- The name and the text in an argument such as `a=b`; the name is not empty. -/
def split? : Octets → Option (Octets × Octets)
  | [] => none
  | c :: rest =>
    let name := rest.takeWhile (· ≠ '=')
    match rest.drop name.length with
    | _ :: text => some (c :: name, text)
    | [] => none

/-- The aliases with a text for a name, in the place of an older one. -/
def put (aliases : List (Octets × Octets)) (entry : Octets × Octets) : List (Octets × Octets) :=
  if aliases.any (·.1 == entry.1) then
    aliases.map fun old => if old.1 == entry.1 then entry else old
  else aliases ++ [entry]

/-- Says that there is no alias of a name. -/
def sayMissing (builtin : String) (name : Octets) : Exec Unit := do
  (sayError (builtin.toList ++ ": ".toList ++ name ++ " not found\n".toList) :
    StateM Process Unit)
  setStatus 1

/-- Makes aliases or lists them. -/
def define (arguments : List Octets) : Exec Unit := do
  setStatus 0
  let p ← get
  if arguments.isEmpty then
    let listed := p.aliases.mergeSort fun a b => slot a.1 ≤ slot b.1
    (say (listed.map shown).flatten : StateM Process Unit)
  arguments.forM fun argument => do
    match split? argument with
    | some entry => modify fun p => { p with aliases := put p.aliases entry }
    | none =>
      match (← get).aliases.lookup argument with
      | some text => (say (shown (argument, text)) : StateM Process Unit)
      | none => sayMissing "alias" argument

/-- Forgets aliases. -/
def forget (arguments : List Octets) : Exec Unit := do
  let (options, names) ← Letters.take ⟨['a'], []⟩ arguments
  setStatus 0
  if !options.isEmpty then modify fun p => { p with aliases := [] }
  else
    names.forM fun name => do
      let p ← get
      if p.aliases.any (·.1 == name) then
        set { p with aliases := p.aliases.filter (·.1 != name) }
      else sayMissing "unalias" name

end Fleet.Shell.Aliases

/-!
## Marking and forgetting names

Variables that programs see, that can no longer be changed, that a function has to itself, and names
that are forgotten.
-/

namespace Fleet.Shell.Naming

/-- The variables that satisfy a test, each in a line, in the order of their names. -/
def listing (p : Process) (lead : Octets) (test : Variable → Bool) : Octets :=
  let listed := (p.vars.filter test).mergeSort fun a b => !decide (b.name < a.name)
  (listed.map fun v =>
    let value := match v.value with
      | some value => '=' :: singleQuoted value
      | none => []
    lead ++ v.name ++ value ++ ['\n']).flatten

/-- Lists all variables that are set. -/
def listAll : StateM Process Unit := do
  say (listing (← get) [] (·.value.isSome))

/-- The name and the value in an argument such as `a=b`. -/
def splitAssignment (argument : Octets) : Octets × Option Octets :=
  let name := argument.takeWhile (· ≠ '=')
  (name, (argument.drop name.length).tail?)

/-- Marks variables that arguments name, and sets those for which a value is given; or lists the
variables that are marked. -/
def mark (builtin : String) (marked : Variable → Bool) (change : Variable → Variable)
    (arguments : List Octets) : Exec Unit := do
  let (options, names) ← Letters.takeUpTo ⟨['p'], []⟩ 1 arguments
  setStatus 0
  if names.isEmpty || !options.isEmpty then
    (do say (listing (← get) (builtin.toList ++ [' ']) marked) : StateM Process Unit)
  else
    names.forM fun argument => do
      let (name, value) := splitAssignment argument
      match (← get).declared? name, value with
      | some v, none => modify (·.putVariable (change v))
      | _, value => do
        refuseName name
        markVariable name value change

/-- Lets programs see variables. -/
def exportNames : List Octets → Exec Unit :=
  mark "export" Variable.exported fun v => { v with exported := true }

/-- Keeps variables as they are. -/
def fixNames : List Octets → Exec Unit :=
  mark "readonly" Variable.fixed fun v => { v with fixed := true }

/-- Makes variables the function's own, or with a hyphen the options of the shell. -/
def shadowNames (arguments : List Octets) : Exec Unit := do
  if !(← get).inFunction then fail "not in a function".toList
  arguments.forM fun argument =>
    if argument = ['-'] then
      modify fun p => { p with shadows := .options p.options :: p.shadows }
    else
      let (name, value) := splitAssignment argument
      shadowVariable name value false
  setStatus 0

/-- Forgets variables or functions. -/
def unset (arguments : List Octets) : Exec Unit := do
  let (options, names) ← Letters.take ⟨['v', 'f'], []⟩ arguments
  names.forM fun name =>
    if (options.map Prod.fst).getLast? == some 'f' then
      modify fun p => { p with functions := p.functions.filter (·.1 != name) }
    else unsetVariable name
  setStatus 0

end Fleet.Shell.Naming

/-!
## Describing names

The builtins that say what names stand for, and that list the programs that were found before.
-/

namespace Fleet.Shell.Describing

/-- Says what names stand for. -/
def describe (names : List Octets) : Exec Unit := do
  let codes ← names.mapM (describeName none true)
  setStatus (codes.foldl max 0)

/-- Says what a name stands for, or how it is run, if an option asks for that. -/
def inquire (arguments : List Octets) : Exec Unit := do
  let (options, names) ← Letters.take ⟨['p', 'v', 'V'], []⟩ arguments
  let has (c : Char) : Bool := options.any (·.1 == c)
  let directories := if has 'p' then some standardPath else none
  match names.head?.filter fun _ => has 'v' || has 'V' with
  | some name => do setStatus (← describeName directories (has 'V') name)
  | none => setStatus 0

/-- Looks for programs again and keeps where they are; lists those that are kept without names, and
forgets them if an option asks for that. -/
def track (arguments : List Octets) : Exec Unit := do
  let (options, names) ← Letters.takeUpTo ⟨['r'], []⟩ 1 arguments
  setStatus 0
  if !options.isEmpty then modify fun p => { p with tracked := [] }
  else if names.isEmpty then (listTracked : StateM Process Unit)
  else
    names.forM fun name => do
      modify fun p => { p with tracked := p.tracked.filter (·.name != name) }
      let p ← get
      let known := isBuiltin p.dialect name || (p.functions.lookup name).isSome || name.contains '/'
      if !known then
        match ← trackProgram name with
        | .ok _ => pure ()
        | .error e => do
          complain (name ++ ": ".toList ++ startFault e)
          setStatus 1

end Fleet.Shell.Describing
