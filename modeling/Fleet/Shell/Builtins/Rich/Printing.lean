import Fleet.Shell.Builtins.Directory
import Fleet.Shell.Builtins.Limits
import Fleet.Shell.Builtins.Rich.Declaring
import Fleet.Tools.Escapes
import Fleet.Tools.Formats

/-!
# Printing in the rich shell

The builtins that print their arguments, the working directory, the mask for new files, and where a
function was called. What is printed by a format may be kept in a variable instead.
-/

namespace Fleet.Shell.Printing

/-- Prints arguments. -/
def echo (arguments : List Octets) : Exec Unit := do
  let p ← get
  -- An option of the shell has escapes read even if no argument asks for that.
  let arguments := if p.extras.contains "xpg_echo" then ['-', 'e'] :: arguments else arguments
  setStatus (← (Tools.echoWith .richEcho arguments : StateM Process Nat))

/-- Keeps what is printed by a format in a variable. -/
def keep (target format : Octets) (arguments : List Octets) : Exec Unit := do
  let d := Declaring.parts target
  if !isName d.name then fail ('`' :: target ++ "': not a valid identifier".toList)
  let p ← get
  let page := Tools.Printer.rich.page format arguments p.now p.zone
  (page.done.reverse.forM fun
    | .print _ => pure ()
    | .complain c => complain (c.message .rich) : StateM Process Unit)
  let kept ← Declaring.tolerating (store d.name d.subscript false page.text)
  setStatus (if kept then page.code else 1)

/-- Prints arguments by a format, or keeps that in a variable. -/
def printf (arguments : List Octets) : Exec Unit := do
  let (options, rest) ← Letters.take ⟨[], ['v']⟩ arguments
  match rest, options.getLast? with
  | [], _ => explainUse
  | format :: rest, some (_, target) => keep target format rest
  | format :: rest, none => do
    setStatus (← (Tools.Printer.rich.print format rest : StateM Process Nat))

/-- Prints the path of the working directory. -/
def pwd (arguments : List Octets) : Exec Unit := do
  let (options, _) ← Letters.take ⟨['L', 'P'], []⟩ arguments
  let path ← if Directory.physical options || (← get).isOn 'P' then Directory.actual
    else do pure (← get).reached
  (say (path ++ ['\n']) : StateM Process Unit)
  setStatus 0

/-- Shows how much time was used: none that could be measured. -/
def times (_ : List Octets) : Exec Unit := do
  let line : Octets := "0m0.000s 0m0.000s\n".toList
  (say (line ++ line) : StateM Process Unit)
  setStatus 0

/-- The character in a change of a mask that does not belong there, and whether it stands in the
place of an operator. -/
def strangeIn (clauses : List Octets) : Char × Bool :=
  let isOperator (c : Char) : Bool := c == '+' || c == '-' || c == '='
  let fault (clause : Octets) : Option (Char × Bool) :=
    match clause.dropWhile fun c => (Mask.who? c).isSome with
    | [] => some ('\x00', true)
    | op :: rest =>
      if !isOperator op then some (op, true)
      else (rest.find? fun c => !"rwxXstugo+-=".toList.contains c).map (·, false)
  (clauses.findSome? fault).getD ('\x00', true)

/-- Shows the mask for new files or changes it. -/
def umask (arguments : List Octets) : Exec Unit := do
  let (options, rest) ← Letters.take ⟨['S', 'p'], []⟩ arguments
  let has (c : Char) : Bool := options.any (·.1 == c)
  let present (mask : Nat) : Exec Unit := do
    let text := if has 'S' then Mask.symbolic mask else Mask.octal mask
    let lead := if has 'p' then (if has 'S' then "umask -S " else "umask ") else ""
    (say (lead.toList ++ text ++ ['\n']) : StateM Process Unit)
  match rest with
  | [] => present (← get).mask
  | mode :: _ =>
    if (mode.head?.map Char.isDigit).getD false then
      let n := mode.foldl (fun n c => n * 8 + (c.toNat - '0'.toNat)) 0
      if !(mode.all fun c => '0' ≤ c && c ≤ '7') || 0o777 < n then
        failWith 1 (mode ++ ": octal number out of range".toList)
      modify fun p => { p with mask := n }
    else
      let before := Mask.invert (← get).mask
      let clauses := mode.splitOn ','
      let isWhole := clauses.all fun clause =>
        (clause.dropWhile fun c => (Mask.who? c).isSome) ≠ []
      match (Mask.change before before clauses).filter fun _ => isWhole with
      | some left => modify fun p => { p with mask := Mask.invert left }
      | none =>
        let (c, operator) := strangeIn clauses
        failWith 1 (['`', c] ++ "': invalid symbolic mode ".toList ++
          (if operator then "operator" else "character").toList)
    if has 'S' then present (← get).mask
  setStatus 0

/-- Says where the function that is being run was called. -/
def caller (arguments : List Octets) : Exec Unit := do
  let p ← get
  if !p.inFunction && p.source.isNone then setStatus 1
  else
    match arguments with
    | [] => do
      (say (decimal p.line ++ " NULL\n".toList) : StateM Process Unit)
      setStatus 0
    | text :: _ =>
      match natural? text with
      | none => do
        complain (text ++ ": invalid number".toList)
        explainUse
      | some n =>
        match p.calls[n + 1]? with
        | some name => do
          (say (decimal p.line ++ ' ' :: name ++ ' ' :: p.name ++ ['\n']) : StateM Process Unit)
          setStatus 0
        | none => setStatus 1

end Fleet.Shell.Printing
