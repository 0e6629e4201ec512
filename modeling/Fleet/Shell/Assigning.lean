import Fleet.Shell.Arithmetic.Rich

/-!
# Assigning in the rich shell

A variable may be an array, stand for another one, hold numbers only or letters of one case. What is
assigned may be added to what is there.
-/

namespace Fleet.Shell

/-- The value of an expression; a mistake in it ends all commands of the line. -/
def computed (text : Octets) : Exec Int := do
  match Arithmetic.Rich.evaluate text (← get) with
  | .ok (value, p) => do
    set p
    pure value
  | .error (.unset name) => abandon (name ++ ": unbound variable".toList)
  | .error fault => do
    if fault matches .fixed _ then modify fun p => { p with within := [] }
    discard (Arithmetic.Rich.message text fault)

/-- The element that a subscript stands for, if there can be one. -/
def keyFor? (name subscript : Octets) : Exec (Option Key) := do
  if (← get).isKeyed name then pure (some (.text subscript))
  else do
    let n ← computed subscript
    pure ((← get).keyAt? name n)

/-- The element that a subscript stands for; it is a mistake if there can be none. -/
def keyFor (name subscript : Octets) : Exec Key := do
  match ← keyFor? name subscript with
  | some key => pure key
  | none => discard (name ++ '[' :: subscript ++ "]: bad array subscript".toList)

/-- A letter changed. -/
def Recasing.letter (recasing : Recasing) (c : Char) : Char :=
  match recasing with
  | upper => c.toUpper
  | lower => c.toLower
  | swapped => if c.isUpper then c.toLower else c.toUpper

/-- A text with its first letter or all letters changed that satisfy a test. -/
def Recasing.apply (recasing : Recasing) (all : Bool) (test : Char → Bool) : Octets → Octets
  | [] => []
  | c :: rest =>
    (if test c then recasing.letter c else c) ::
      if all then rest.map fun c => if test c then recasing.letter c else c else rest

/-- What a variable of some kind holds after a value is assigned or added to an old one. -/
def valueFor (kind : Option Variable) (old : Option Octets) (adds : Bool) (value : Octets) :
    Exec Octets := do
  if (kind.map Variable.integer).getD false then
    let n ← computed value
    let before ← if adds then computed (old.getD []) else pure 0
    pure (Arithmetic.render (Arithmetic.wrap (before + n)))
  else
    let text := (if adds then old.getD [] else []) ++ value
    match kind.bind Variable.recasing with
    | some .swapped => pure (Recasing.swapped.apply false (fun _ => true) (text.map Char.toLower))
    | some recasing => pure (recasing.apply true (fun _ => true) text)
    | none => pure text

/-- Refuses to change a variable that can no longer be changed. What is being run is not named. -/
def guardFixed (name : Octets) : Exec Unit := do
  if (← get).isFixed name then
    modify fun p => { p with within := [] }
    discard (name ++ ": readonly variable".toList)

/-- What follows from a new value of a variable of the rich shell. -/
def followRich (name value : Octets) : Exec Unit :=
  match String.ofList name with
  | "PATH" => modify fun p => { p with tracked := [] }
  | "OPTIND" =>
    modify fun p =>
      { p with optionPlace := max 1 ((natural? value).getD 1), optionOffset := none }
  | _ => pure ()

/-- Assigns a value to a variable or to an element of an array, or adds it to what is there. -/
def store (name : Octets) (subscript : Option Octets) (adds : Bool) (value : Octets) :
    Exec Unit := do
  if !isName name then discard ('`' :: name ++ "': not a valid identifier".toList)
  let p ← get
  let (target, inner) := p.resolved name
  let v := p.declared? target
  match v.filter (·.reference) with
  | some v =>
    -- A reference that stands for nothing yet is given what it is to stand for.
    set (p.putVariable { v with value := some value })
  | none =>
    guardFixed target
    match subscript.or inner with
    | some subscript => do
      let key ← keyFor target subscript
      let old := ((← get).tableOf? target).bind (·.get? key)
      let text ← valueFor v old adds value
      modify (·.putElement target key text)
    | none => do
      let text ← valueFor v (p.valueOf? target) adds value
      modify fun p => p.putValue target text (p.isOn 'a')
      followRich target text

/-- An element that is assigned to an array: its subscript, if there is one, whether it is added to
what is there, and its value. -/
abbrev Given : Type :=
  Option Octets × Bool × Octets

/-- Puts elements into an array one after the other. -/
def fill (name : Octets) (v : Option Variable) : Nat → List Given → Exec Unit
  | _, [] => pure ()
  | next, (subscript, adds, value) :: rest => do
    let key ← match subscript with
      | some subscript => keyFor name subscript
      | none => pure (.number next)
    let old := ((← get).tableOf? name).bind (·.get? key)
    let text ← valueFor v old adds value
    modify (·.putElement name key text)
    let next := match key with
      | .number n => n + 1
      | .text _ => next
    fill name v next rest

/-- Keys and values in turn. -/
def inPairs : List Given → List Given
  | (none, _, key) :: (none, adds, value) :: rest => (some key, adds, value) :: inPairs rest
  | [(none, _, key)] => [(some key, false, [])]
  | other => other

/-- Assigns an array, or adds elements to one; it is kept at keys if `keyed` says so. -/
def storeTable (name : Octets) (keyed adds : Bool) (items : List Given) : Exec Unit := do
  if !isName name then discard ('`' :: name ++ "': not a valid identifier".toList)
  let p ← get
  let (target, _) := p.resolved name
  guardFixed target
  let v := p.declared? target
  let keyed := keyed || p.isKeyed target
  let empty : Table := if keyed then .keyed [] else .indexed []
  let table := if adds then (p.tableOf? target).getD empty else empty
  let known : Variable := v.getD { name := target, value := none }
  set (p.putVariable { known with value := none, table := some table })
  let items := if keyed && items.all (·.1.isNone) then inPairs items else items
  fill target v table.next items

end Fleet.Shell
