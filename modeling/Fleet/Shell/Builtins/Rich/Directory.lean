import Fleet.Shell.Builtins.Directory
import Fleet.Shell.Builtins.Rich.Leaving

/-!
# Moving about in the rich shell

The working directory may be kept on a stack, to come back to it.
-/

namespace Fleet.Shell.Directory

/-- Enters a directory, or says why that cannot be done. -/
def goTo (asItIs : Bool) (path : Octets) : Exec Unit := do
  if !(← enter asItIs path) then
    let p ← get
    let why := match p.directoryAt path with
      | .error e => e
      | .ok _ => OsError.noSuchFile
    failWith 1 (path ++ ": ".toList ++ why.description.toList)

/-- Changes the working directory. -/
def changeRich (arguments : List Octets) : Exec Unit := do
  let (options, rest) ← Letters.take ⟨['L', 'P', 'e', '@'], []⟩ arguments
  let p ← get
  let asItIs := physical (options.filter fun (c, _) => c == 'L' || c == 'P') || p.isOn 'P'
  let given (name : String) : Exec Octets :=
    match p.valueOf? name.toList with
    | some path => pure path
    | none => failWith 1 (name.toList ++ " not set".toList)
  match rest with
  | [] => do goTo asItIs (← given "HOME")
  | [['-']] => do
    goTo asItIs (← given "OLDPWD")
    (do say ((← get).reached ++ ['\n']) : StateM Process Unit)
  | [[]] => pure ()
  | [path] =>
    match candidates p path with
    | [] => pure ()
    | (target, found) :: _ => do
      goTo asItIs target
      if found then (do say ((← get).reached ++ ['\n']) : StateM Process Unit)
  | _ => failWith 1 "too many arguments".toList
  setStatus 0

/-- The directories of the stack, the working directory first. -/
def stack (p : Process) : List Octets :=
  p.reached :: p.returning

/-- A directory with one's home shown by its sign. -/
def abbreviated (p : Process) (path : Octets) : Octets :=
  match (p.valueOf? "HOME".toList).filter fun home => !home.isEmpty && home ≠ ['/'] with
  | some home =>
    if path = home then ['~']
    else if (home ++ ['/']).isPrefixOf path then '~' :: path.drop home.length
    else path
  | none => path

/-- Shows the stack in a line. -/
def showStack : Exec Unit := do
  let p ← get
  let line := List.intercalate [' '] ((stack p).map (abbreviated p))
  (say (line ++ ['\n']) : StateM Process Unit)

/-- The place in a stack of some size that an argument with a sign gives, if it gives one. -/
def placeOf? (size : Nat) : Octets → Option Nat
  | sign :: digits =>
    if digits.isEmpty || !digits.all Char.isDigit then none
    else if sign = '+' then some (numberOf digits)
    else if sign = '-' then
      some (if numberOf digits < size then size - 1 - numberOf digits else size)
    else none
  | [] => none

/-- Shows the stack, or forgets it. -/
def listStack (arguments : List Octets) : Exec Unit := do
  let p ← get
  let all := stack p
  let isPlace (argument : Octets) : Bool := (placeOf? all.length argument).isSome
  let letters := (arguments.filter fun argument => !isPlace argument).flatMap List.tail
  let plain := letters.contains 'l'
  let shown (path : Octets) : Octets := if plain then path else abbreviated p path
  setStatus 0
  match (arguments.filter isPlace).getLast?.bind (placeOf? all.length) with
  | some n =>
    match all[n]? with
    | some path => (say (shown path ++ ['\n']) : StateM Process Unit)
    | none => failWith 1 (decimal n ++ ": directory stack index out of range".toList)
  | none =>
    if letters.contains 'c' then set { p with returning := [] }
    else if letters.contains 'v' then
      let line (path : Octets) (n : Nat) : Octets :=
        List.replicate (2 - (decimal n).length) ' ' ++ decimal n ++ "  ".toList ++ shown path ++
          ['\n']
      (say (all.zipIdx.map fun (path, n) => line path n).flatten : StateM Process Unit)
    else if letters.contains 'p' then
      (say (all.map fun path => shown path ++ ['\n']).flatten : StateM Process Unit)
    else (say (List.intercalate [' '] (all.map shown) ++ ['\n']) : StateM Process Unit)

/-- Enters a directory and keeps the one before it, or turns the stack. -/
def push (arguments : List Octets) : Exec Unit := do
  let p ← get
  let all := stack p
  let stays := arguments.head? == some ['-', 'n']
  let arguments := if stays then arguments.tail else arguments
  let settle (directories : List Octets) : Exec Unit := do
    match directories with
    | [] => pure ()
    | top :: rest => do
      if !stays then goTo false top
      modify fun p => { p with returning := rest }
      showStack
      setStatus 0
  match arguments with
  | [] =>
    match p.returning with
    | [] => failWith 1 "no other directory".toList
    | next :: rest => settle (next :: p.reached :: rest)
  | [argument] =>
    match placeOf? all.length argument with
    | some n =>
      if n < all.length then settle (all.drop n ++ all.take n)
      else failWith 1 (argument ++ ": directory stack index out of range".toList)
    | none =>
      if stays then settle (p.reached :: argument :: p.returning)
      else do
        goTo false argument
        modify fun q => { q with returning := p.reached :: p.returning }
        showStack
        setStatus 0
  | _ => failWith 1 "too many arguments".toList

/-- Comes back to a directory that was kept. -/
def pop (arguments : List Octets) : Exec Unit := do
  let p ← get
  let all := stack p
  let stays := arguments.head? == some ['-', 'n']
  let arguments := if stays then arguments.tail else arguments
  if p.returning.isEmpty then failWith 1 "directory stack empty".toList
  let place := match arguments with
    | [] => if stays then 1 else 0
    | argument :: _ => (placeOf? all.length argument).getD all.length
  if all.length ≤ place then
    failWith 1 (arguments.headD [] ++ ": directory stack index out of range".toList)
  else if place = 0 then
    match p.returning with
    | next :: rest => do
      goTo false next
      modify fun p => { p with returning := rest }
    | [] => pure ()
  else set { p with returning := p.returning.eraseIdx (place - 1) }
  showStack
  setStatus 0

end Fleet.Shell.Directory
