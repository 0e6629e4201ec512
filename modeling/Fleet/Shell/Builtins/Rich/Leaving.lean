import Fleet.Shell.Builtins.Rich.Declaring

/-!
# Leaving in the rich shell

The builtins that end the script, a function or loops, that drop arguments and that work out
expressions.
-/

namespace Fleet.Shell.Leaving

/-- The integer that an argument is, blanks around it aside. -/
def integer? (text : Octets) : Option Int :=
  let start := text.dropWhile Char.isWhitespace
  let (sign, digits) : Int × Octets := match start with
    | '-' :: rest => (-1, rest)
    | '+' :: rest => (1, rest)
    | rest => (1, rest)
  let own := digits.takeWhile Char.isDigit
  if own.isEmpty || 18 < own.length || !(digits.drop own.length).all Char.isWhitespace then none
  else some (sign * (numberOf own : Nat))

/-- The code that an integer gives. -/
def codeOf (n : Int) : Nat :=
  (n % 256).toNat

/-- What is said of an argument that is no integer. -/
def notNumeric (text : Octets) : Octets :=
  text ++ ": numeric argument required".toList

/-- The arguments without the two hyphens in front of them. -/
def withoutDashes : List Octets → List Octets
  | ['-', '-'] :: rest => rest
  | rest => rest

/-- Ends the script, with a code or with that of the command before. -/
def exitRich (arguments : List Octets) : Exec Unit := do
  match withoutDashes arguments with
  | [] => do
    modify fun p => { p with status := p.interrupted.getD p.status }
    throw .exit
  | [text] =>
    match integer? text with
    | some n => do
      setStatus (codeOf n)
      throw .exit
    | none => do
      complain (notNumeric text)
      setStatus 2
      throw .exit
  | text :: _ =>
    if (integer? text).isSome then failWith 1 "too many arguments".toList
    else do
      complain (notNumeric text)
      setStatus 2
      throw .exit

/-- Ends the function or the file that is being read. -/
def leaveRich (arguments : List Octets) : Exec Unit := do
  let p ← get
  if !p.inFunction && p.source.isNone then
    fail "can only `return' from a function or sourced script".toList
  match withoutDashes arguments with
  | [] => throw (.leave false)
  | text :: _ => do
    match integer? text with
    | some n => setStatus (codeOf n)
    | none => do
      complain (notNumeric text)
      setStatus 2
    throw (.leave true)

/-- Ends as many loops as the argument says, or one, in the given way; outside of loops nothing
happens. -/
def overLoopsRich (jump : Nat → Jump) (arguments : List Octets) : Exec Unit := do
  let loops := (← get).loops
  if loops = 0 then
    complain "only meaningful in a `for', `while', or `until' loop".toList
    setStatus 0
  else
    match withoutDashes arguments with
    | [] => do
      setStatus 0
      throw (jump 1)
    | text :: _ =>
      match integer? text with
      | none => do
        complain (notNumeric text)
        setStatus 128
        throw .exit
      | some n =>
        if n ≤ 0 then do
          complain (text ++ ": loop count out of range".toList)
          setStatus 1
          throw (.breakOff loops)
        else do
          setStatus 0
          throw (jump (min n.toNat loops))

/-- Drops the first arguments of the script or function. -/
def shiftRich (arguments : List Octets) : Exec Unit := do
  let text := (withoutDashes arguments).headD ['1']
  match integer? text with
  | none => failWith 1 (notNumeric text)
  | some n => do
    let p ← get
    if n < 0 then failWith 1 (text ++ ": shift count out of range".toList)
    else if p.arguments.length < n.toNat then
      if p.extras.contains "shift_verbose" then
        complain (text ++ ": shift count out of range".toList)
      setStatus 1
    else set { p with arguments := p.arguments.drop n.toNat, status := 0 }

/-- The value of an expression, or none if there is a mistake in it. -/
def tryCompute (text : Octets) : Exec (Option Int) :=
  tryCatch (do pure (some (← computed text))) fun
    | .discarded => pure none
    | jump => throw jump

/-- Works out expressions; the code says whether the last one is zero. -/
def compute (arguments : List Octets) : Exec Unit := do
  let rec go (code : Nat) : List Octets → Exec Unit
    | [] => setStatus code
    | text :: rest => do
      match ← tryCompute text with
      | some n => go (if n = 0 then 1 else 0) rest
      | none => setStatus 1
  match withoutDashes arguments with
  | [] => failWith 1 "expression expected".toList
  | several => go 0 several

end Fleet.Shell.Leaving
