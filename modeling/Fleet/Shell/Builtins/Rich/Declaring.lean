import Fleet.Shell.Expansion
import Fleet.Shell.Letters

/-!
# Declaring variables

The builtins of the rich shell that say what variables are, make them a function's own and forget
them. Their arguments may assign arrays.
-/

namespace Fleet.Shell.Declaring

/-- What is said of variables that are declared. -/
structure Request : Type where
  /-- The letters that are switched on, and those that are switched off. -/
  on : List Char := []
  off : List Char := []
  names : List Argument := []
  /-- Whether variables are only marked. -/
  marks : Bool := false
  deriving Repr

namespace Request

/-- Whether a letter is switched on. -/
def has (r : Request) (letter : Char) : Bool :=
  r.on.contains letter

/-- Letters that follow a sign, or what is wrong with them. -/
def letters (known : List Char) (given : Octets) : Exec Unit :=
  match given.find? fun c => !known.contains c with
  | some c => Letters.refuse c
  | none => pure ()

/-- The letters in front of arguments, which follow a hyphen or, to be switched off, a plus sign. -/
def read (known : List Char) : List Argument → Exec Request
  | .word ['-', '-'] :: rest => pure { names := rest }
  | .word ('-' :: c :: more) :: rest => do
    letters known (c :: more)
    let r ← read known rest
    pure { r with on := c :: more ++ r.on }
  | .word ('+' :: c :: more) :: rest => do
    letters known (c :: more)
    let r ← read known rest
    pure { r with off := c :: more ++ r.off }
  | names => pure { names }

/-- A variable with what is said of it, apart from whether it can be changed. -/
def mark (r : Request) (v : Variable) : Variable :=
  let table : Option Table :=
    match v.table with
    | some table => some table
    | none =>
      if r.has 'A' then some (.keyed [])
      else if r.has 'a' then
        some (.indexed (match v.value with
          | some value => [(0, value)]
          | none => []))
      else none
  let recasing : Option Recasing :=
    if r.has 'u' then some .upper
    else if r.has 'l' then some .lower
    else if r.has 'c' then some .swapped
    else if r.off.any ['u', 'l', 'c'].contains then none
    else v.recasing
  { v with
    table
    value := if table.isSome then none else v.value
    recasing
    integer := (v.integer || r.has 'i') && !r.off.contains 'i'
    reference := (v.reference || r.has 'n') && !r.off.contains 'n'
    exported := (v.exported || r.has 'x') && !r.off.contains 'x' }

end Request

/-- An argument taken apart. -/
structure Parts : Type where
  name : Octets
  subscript : Option Octets := none
  adds : Bool := false
  value : Option Octets := none
  deriving Repr

/-- The name, the subscript and the value in an argument. -/
def parts (text : Octets) : Parts :=
  let name := text.takeWhile isNameRest
  let after := text.drop name.length
  let assigned (subscript : Option Octets) (after : Octets) : Option Parts :=
    match after, Reader.assignmentSign? after with
    | _, some (adds, length) => some { name, subscript, adds, value := some (after.drop length) }
    | [], none => some { name, subscript }
    | _, none => none
  let found := match after with
    | '[' :: inner =>
      (Reader.afterSubscript? 0 none inner).bind fun rest =>
        assigned (some (inner.take (inner.length - rest.length - 1))) rest
    | _ => assigned none after
  found.getD { name := text }

/-- Whether a variable was made the function's own already. -/
def isOwn (p : Process) (name : Octets) : Bool :=
  (p.shadows.take (p.shadows.length - p.frame)).any fun
    | .variable old => old.name == name
    | .absent other => other == name
    | .options _ => false

/-- Makes a variable the function's own; it has no value then. -/
def own (name : Octets) : Exec Unit := do
  let p ← get
  if !isOwn p name then
    let shadow : Shadow := match p.declared? name with
      | some old => .variable old
      | none => .absent name
    let fresh : Variable := { name, value := none }
    set { p.putVariable fresh with shadows := shadow :: p.shadows }
    if name = "OPTIND".toList then followRich name ['1']

/-- A step that only fails where it would end all commands of the line; says whether it did not. -/
def tolerating (step : Exec Unit) : Exec Bool :=
  tryCatch (do
    step
    pure true) fun
    | .discarded => pure false
    | jump => throw jump

/-- Declares one variable; says whether that worked. -/
def declare (r : Request) (locally : Bool) (argument : Argument) : Exec Bool := do
  let text := argument.octets
  let d := parts text
  if !isName d.name then
    complain ('`' :: text ++ "': not a valid identifier".toList)
    pure false
  else
    let p ← get
    let assigns := d.value.isSome || argument matches .array _ _
    if locally then own d.name
    let target := if r.has 'n' || locally then d.name else (p.resolved d.name).1
    let v := ((← get).declared? target).getD { name := target, value := none }
    let indexed := v.table.any fun table => !table.isKeyed
    if v.fixed && (assigns || r.off.contains 'r') then
      if r.marks then tolerating (guardFixed target)
      else do
        complain (target ++ ": readonly variable".toList)
        pure false
    else if r.has 'A' && indexed then
      complain (target ++ ": cannot convert indexed to associative array".toList)
      pure false
    else
      let marked := r.mark v
      if marked.reference && !v.reference then
        modify (·.putVariable { marked with value := d.value.or v.value })
        pure true
      else
        modify (·.putVariable marked)
        let worked ← tolerating (match argument with
          | .array _ items => storeTable target (r.has 'A') d.adds items
          | .word _ =>
            match d.value with
            | some value => store target d.subscript d.adds value
            | none => pure ())
        if r.has 'r' then
          let v := ((← get).declared? target).getD { name := target, value := none }
          modify (·.putVariable { v with fixed := true })
        pure worked

/-- Whether a variable is what is asked for. -/
def suits (r : Request) (v : Variable) : Bool :=
  let isKeyed := v.table.any Table.isKeyed
  (!r.has 'a' || (v.table.isSome && !isKeyed)) && (!r.has 'A' || isKeyed) &&
    (!r.has 'i' || v.integer) && (!r.has 'r' || v.fixed) && (!r.has 'x' || v.exported) &&
    (!r.has 'n' || v.reference)

/-- Variables in the order of their names. -/
def inOrder (vars : List Variable) : List Variable :=
  vars.mergeSort fun a b => !decide (b.name < a.name)

/-- A variable as the list of all variables shows it. -/
def listed (v : Variable) : Octets :=
  match v.table, v.value with
  | some table, _ => v.name ++ '=' :: Expansion.Rich.shownTable table ++ ['\n']
  | none, some value => v.name ++ '=' :: Quoting.asNeeded value ++ ['\n']
  | none, none => []

/-- Lists all variables that are set. -/
def listAll : Exec Unit := do
  let p ← get
  (say ((inOrder p.vars).map listed).flatten : StateM Process Unit)

/-- Shows variables as the commands that declare them; says whether there are all. -/
def showNames (names : List Argument) : Exec Bool := do
  let codes ← names.mapM fun argument => do
    match (← get).declared? argument.octets with
    | some v => do
      (say (Expansion.Rich.declaration v ++ ['\n']) : StateM Process Unit)
      pure true
    | none => do
      complain (argument.octets ++ ": not found".toList)
      pure false
  pure (codes.all id)

/-- Shows the names of functions; says whether there are all. -/
def showFunctions (names : List Argument) : Exec Bool := do
  let p ← get
  let known := (p.functions.map Prod.fst).mergeSort fun a b => !decide (b < a)
  if names.isEmpty then
    (say (known.map fun name => "declare -f ".toList ++ name ++ ['\n']).flatten :
      StateM Process Unit)
    pure true
  else
    let found := names.map fun argument => known.contains argument.octets
    let shown := (names.map Argument.octets).filter known.contains
    (say (shown.map (· ++ ['\n'])).flatten : StateM Process Unit)
    pure (found.all id)

/-- Sets the code by whether all has worked. -/
def settle (worked : Bool) : Exec Unit :=
  setStatus (if worked then 0 else 1)

/-- Declares variables, or shows them. -/
def run (isLocal : Bool) (arguments : List Argument) : Exec Unit := do
  let r ← Request.read "aAfFgiIlnprtuxc".toList arguments
  let p ← get
  if isLocal && !p.inFunction then failWith 1 "can only be used in a function".toList
  if r.has 'f' || r.has 'F' then settle (← showFunctions r.names)
  else if r.has 'p' && !r.names.isEmpty then settle (← showNames r.names)
  else if r.names.isEmpty then
    let plain := r.on.isEmpty && r.off.isEmpty
    let all := inOrder (p.vars.filter (suits r))
    if isLocal then setStatus 0
    else if plain then
      listAll
      setStatus 0
    else
      (say (all.map fun v => Expansion.Rich.declaration v ++ ['\n']).flatten : StateM Process Unit)
      setStatus 0
  else
    let locally := p.inFunction && !r.has 'g'
    settle ((← r.names.mapM (declare r locally)).all id)

/-- Lets programs see variables, or keeps variables as they are. -/
def markNames (letter : Char) (arguments : List Argument) : Exec Unit := do
  let r ← Request.read "aAfnp".toList arguments
  if r.has 'f' then settle (← showFunctions r.names)
  else if r.names.isEmpty then
    let wanted : Request := { on := [letter] }
    let all := inOrder ((← get).vars.filter (suits wanted))
    (say (all.map fun v => Expansion.Rich.declaration v ++ ['\n']).flatten : StateM Process Unit)
    setStatus 0
  else
    let arrays := r.on.filter ['a', 'A'].contains
    let request : Request :=
      if r.has 'n' && letter = 'x' then { on := arrays, off := ['x'], marks := true }
      else { on := letter :: arrays, marks := true }
    settle ((← r.names.mapM (declare request false)).all id)

/-- Forgets one variable, element or function; says whether that worked. -/
def unsetOne (letters : List Char) (text : Octets) : Exec Bool := do
  let d := parts text
  let p ← get
  let refuse : Exec Bool := do
    complain (d.name ++ ": cannot unset: readonly variable".toList)
    pure false
  let target := if letters.contains 'n' then d.name else (p.resolved d.name).1
  let isFunction := letters.contains 'f' ||
    (!letters.contains 'v' && (p.declared? target).isNone)
  if isFunction then
    set { p with functions := p.functions.filter (·.1 != text) }
    pure true
  else if p.isFixed target then refuse
  else
    match d.subscript, p.declared? target with
    | some ['@'], _ | some ['*'], _ | none, _ => do
      set (p.dropVariable target)
      followRich target []
      pure true
    | some subscript, some v =>
      tolerating do
        let key ← keyFor target subscript
        match v.table with
        | some table => modify (·.putVariable { v with table := some (table.drop key) })
        | none => modify (·.dropVariable target)
    | some _, none => pure true

/-- Forgets variables, elements of arrays and functions. -/
def unset (arguments : List Octets) : Exec Unit := do
  let (options, names) ← Letters.take ⟨['f', 'v', 'n'], []⟩ arguments
  settle ((← names.mapM (unsetOne (options.map Prod.fst))).all id)

end Fleet.Shell.Declaring
