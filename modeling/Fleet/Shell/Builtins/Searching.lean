import Fleet.Shell.Builtins.Rich.Declaring

/-!
# Searching arguments for options

The builtin `getopts` finds one option at each call. A variable says which argument is looked at
next; how far the one before it was read is kept beside.
-/

namespace Fleet.Shell.Searching

/-- What is wrong with an option. -/
inductive Wrong : Type where
  | unknown (letter : Char)
  /-- It lacks its value. -/
  | bare (letter : Char)
  deriving Repr

/-- What the plain shell says about an option. -/
def Wrong.message : Wrong → Octets
  | unknown letter => "Illegal option -".toList ++ [letter, '\n']
  | bare letter => "No arg for -".toList ++ letter :: " option\n".toList

/-- What the rich shell says about an option. -/
def Wrong.richMessage : Wrong → Octets
  | unknown letter => ": illegal option -- ".toList ++ [letter, '\n']
  | bare letter => ": option requires an argument -- ".toList ++ [letter, '\n']

/-- What a search has found. -/
structure Found : Type where
  /-- The option, or a mark for one that is unknown or lacks its value. -/
  letter : Char
  /-- The value that is kept; none if it is forgotten. -/
  value : Option Octets
  /-- What is wrong, if that is to be said. -/
  wrong : Option Wrong := none
  /-- How many arguments have been passed. -/
  place : Nat
  /-- What is left of the last of them. -/
  rest : Option Octets := none
  /-- Whether there are no more options. -/
  ended : Bool := false
  /-- Whether the value is left as it is. -/
  keeps : Bool := false

/-- Whether a list of options has a letter, and whether that takes a value. -/
def known? (c : Char) : Octets → Option Bool
  | [] => none
  | d :: rest =>
    let valued := rest.head? == some ':'
    if c = d then some valued
    else
      match rest with
      | ':' :: after => known? c after
      | rest => known? c rest

/-- The option that a text goes on with, given how many arguments were passed. -/
def option (known : Octets) (arguments : List Octets) (place : Nat) (c : Char) (more : Octets) :
    Found :=
  let quiet := known.head? == some ':'
  let rest := some more
  match known? c known with
  | none =>
    if quiet then { letter := '?', value := some [c], place, rest }
    else
      { letter := '?', value := none, place, rest
        wrong := some (.unknown c) }
  | some false => { letter := c, value := some [], place, rest }
  | some true =>
    match more, arguments[place]? with
    | [], some value => { letter := c, value := some value, place := place + 1 }
    | [], none =>
      if quiet then { letter := ':', value := some [c], place }
      else
        { letter := '?', value := none, place
          wrong := some (.bare c) }
    | more, _ => { letter := c, value := some more, place }

/-- Searches arguments for the next option, from an argument on; something may be left of the one
before it. -/
def search (known : Octets) (arguments : List Octets) (place : Nat) (left : Option Octets) :
    Found :=
  match left with
  | some (c :: more) => option known arguments place c more
  | _ =>
    let ending (place : Nat) : Found :=
      { letter := '?', value := none, place, ended := true, keeps := true }
    match arguments[place]? with
    | some ['-', '-'] => ending (place + 1)
    | some ('-' :: c :: more) => option known arguments (place + 1) c more
    | _ => ending place

/-- The arguments to be searched, and what a search of them finds. -/
def next (p : Process) (known : Octets) (given : List Octets) : List Octets × Found :=
  let searched := if given.isEmpty then p.arguments else given
  let (place, offset) :=
    if p.optionPlace = 0 || searched.length + 1 < p.optionPlace then (1, none)
    else (p.optionPlace, p.optionOffset)
  let before := if place ≤ 1 then none else searched[place - 2]?
  let left := do
    let argument ← before
    let offset ← offset
    if argument.length < offset then none else some (argument.drop offset)
  (searched, search known searched (place - 1) left)

/-- Keeps how far the search has come. -/
def settle (searched : List Octets) (found : Found) : Exec Unit := do
  let own := (searched[found.place - 1]?).getD []
  modify fun p =>
    { p with
      optionPlace := found.place + 1
      optionOffset := found.rest.map fun rest => own.length - rest.length }
  setStatus (if found.ended then 1 else 0)

/-- Finds the next option. -/
def run (arguments : List Octets) : Exec Unit := do
  match arguments with
  | known :: name :: given => do
    let (searched, found) := next (← get) known given
    modify fun p => { p with optionPlace := 0 }
    (sayError ((found.wrong.map Wrong.message).getD []) : StateM Process Unit)
    if !found.keeps then
      match found.value with
      | some value => assignVariable "OPTARG".toList value
      | none => unsetVariable "OPTARG".toList
    refuseFixed "OPTIND".toList
    modify (·.setVariable "OPTIND".toList (decimal (found.place + 1)))
    assignVariable name [found.letter]
    settle searched found
  | _ => fail "Usage: getopts optstring var [arg...]".toList

/-- Finds the next option in the way of the rich shell. -/
def runRich (arguments : List Octets) : Exec Unit := do
  let (_, rest) ← Letters.take ⟨[], []⟩ arguments
  match rest with
  | known :: name :: given => do
    let p ← get
    let (searched, found) := next p known given
    let isLoud := p.valueOf? "OPTERR".toList != some ['0']
    match found.wrong.filter fun _ => isLoud with
    | some wrong => (sayError (p.name ++ wrong.richMessage) : StateM Process Unit)
    | none => pure ()
    let optarg := "OPTARG".toList
    match found.value.filter fun value => !found.keeps && !(value.isEmpty && found.rest.isSome) with
    | some value => modify (·.putValue optarg value)
    | none => modify (·.dropVariable optarg)
    let shown := if found.rest.any (!·.isEmpty) then found.place else found.place + 1
    modify (·.putValue "OPTIND".toList (decimal shown))
    settle searched found
    if isName name then store name none false [found.letter]
    else failWith 1 ('`' :: name ++ "': not a valid identifier".toList)
  | _ => explainUse

end Fleet.Shell.Searching
