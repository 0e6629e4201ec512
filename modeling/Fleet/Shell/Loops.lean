import Fleet.Shell.Builtins

/-!
# Loops and choices

The rounds of loops and the branches of choices, whatever their tests and bodies are. The fuel
bounds how many rounds there may be.
-/

namespace Fleet.Shell

/-- Runs a step of a loop. The result says how it has ended: with the loop if there is none, with
its round if it is false. -/
def runRound (step : Exec Unit) : Exec (Option Bool) :=
  tryCatch (do
    step
    pure (some true)) fun
    | .breakOff loops => if loops ≤ 1 then pure none else throw (.breakOff (loops - 1))
    | .nextRound loops => if loops ≤ 1 then pure (some false) else throw (.nextRound (loops - 1))
    | jump => throw jump

/-- Runs the rounds of a loop, given its test and its body; `code` is that of the last round. -/
def runLoop (whileFails : Bool) (test body : Exec Unit) : Nat → Nat → Exec Unit
  | 0, _ => throw .exhausted
  | n + 1, code => do
    match ← runRound test with
    | none => setStatus code
    | some false => runLoop whileFails test body n code
    | some true =>
      if ((← get).status ≠ 0) = whileFails then
        match ← runRound body with
        | none => pure ()
        | some _ => runLoop whileFails test body n (← get).status
      else setStatus code

/-- Runs a round of a loop for each item, which a variable is given; says nothing more if it cannot
be given one. -/
def runForEach (name : Octets) (body : Exec Unit) : List Octets → Exec Unit
  | [] => pure ()
  | item :: rest => do
    let assigned ←
      if (← get).dialect = .plain then do
        assignVariable name item
        pure true
      else Declaring.tolerating (store name none false item)
    if !assigned then setStatus 1
    else
      match ← runRound body with
      | none => pure ()
      | some _ => runForEach name body rest

/-- Runs the rounds of a loop that counts, given the values of its test and its step, if there are
any; `code` is that of the last round. -/
def runCounting (test step : Exec (Option Int)) (body : Exec Unit) : Nat → Nat → Exec Unit
  | 0, _ => throw .exhausted
  | n + 1, code => do
    match ← test with
    | none => setStatus 1
    | some 0 => setStatus code
    | some _ =>
      setStatus code
      match ← runRound body with
      | none => pure ()
      | some _ => do
        let code := (← get).status
        if (← step).isSome then runCounting test step body n code else setStatus 1

/-- What is asked in a selection. -/
def question (p : Process) : Octets :=
  (p.valueOf? "PS3".toList).getD "#? ".toList

/-- The items of a selection, each with its number. -/
def menu (items : List Octets) : Octets :=
  let width := (decimal items.length).length
  let line (item : Octets) (n : Nat) : Octets :=
    List.replicate (width - (decimal (n + 1)).length) ' ' ++ decimal (n + 1) ++ ") ".toList ++
      item ++
      ['\n']
  (items.zipIdx.map fun (item, n) => line item n).flatten

/-- Runs the rounds of a selection: a line of the input says which item is chosen. The items are
shown if `shows` says so. -/
def runSelection (name : Octets) (items : List Octets) (body : Exec Unit) :
    Nat → Bool → Exec Unit
  | 0, _ => throw .exhausted
  | n + 1, shows => do
    let lead := question (← get)
    (sayError ((if shows then menu items else []) ++ lead) : StateM Process Unit)
    Reading.runRich []
    let p ← get
    if p.status ≠ 0 then
      (say ['\n'] : StateM Process Unit)
      setStatus 1
    else
      let reply := (p.valueOf? "REPLY".toList).getD []
      if reply.isEmpty then runSelection name items body n true
      else do
        let chosen := match natural? reply with
          | some (k + 1) => (items[k]?).getD []
          | _ => []
        store name none false chosen
        match ← runRound body with
        | none => pure ()
        | some _ => do
          let again := (((← get).valueOf? "REPLY".toList).getD []).isEmpty
          runSelection name items body n again

/-- Runs the first branch one of whose patterns covers a text, and those that are to follow it; says
whether they have any commands. `goes` says that the next branch is to follow. -/
def runBranches (covers : Word → Exec Bool) (run : Bool → List Command → Exec Unit) (goes : Bool) :
    List (List Word × List Command × Onward) → Exec Bool
  | [] => pure false
  | (words, body, onward) :: rest => do
    let found ← if goes then pure true else words.anyM covers
    if !found then runBranches covers run false rest
    else
      let ends := onward = .stop || rest.isEmpty
      run ends body
      if ends then pure !body.isEmpty
      else do
        let more ← runBranches covers run (onward = .fall) rest
        pure (more || !body.isEmpty)

end Fleet.Shell
