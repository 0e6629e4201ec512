import Fleet.Tools.Files
import Fleet.World.Accounts

/-!
# Who and where

Tools that say who runs them and what they run on. Scripts run as the first user, who belongs to one
group, without a terminal, and nobody has logged in.
-/

namespace Fleet.Tools

open Shell

/-- The user with a name, or with a number. -/
def accountNamed? (text : Octets) : Option Account :=
  let digits := if text.head? == some '+' then text.tail else text
  match Account.all.find? fun a => a.name.toList == text with
  | some a => some a
  | none =>
    if digits.isEmpty || !digits.all Char.isDigit then none
    else Account.all.find? fun a => a.number == number digits

/-- Says that there is no such user. -/
def noSuchUser (text : Octets) : StateM Process Unit :=
  fault (Quoting.value text ++ ": no such user".toList)

/-- Work without operands. -/
def withoutOperands (g : Given) (work : StateM Process Nat) (code : Nat := 1) :
    StateM Process Nat :=
  match g.operands with
  | [] => work
  | extra :: _ => do
    misuse ("extra operand ".toList ++ Quoting.value extra)
    pure code

/-- Prints a line. -/
def sayLine (text : String) : StateM Process Nat := do
  say (text.toList ++ ['\n'])
  pure 0

/-- Prints numbers or names of users and of their groups. -/
def identity : Tool :=
  withOptions [flag 'a', flag 'Z' ["context"], flag 'g' ["group"], flag 'G' ["groups"],
    flag 'n' ["name"], flag 'r' ["real"], flag 'u' ["user"], flag 'z' ["zero"]] fun g => do
  let kinds := ['u', 'g', 'G'].filter g.has
  let close : Octets := if g.has 'z' then ['\x00'] else ['\n']
  if g.has 'Z' then
    fault "--context (-Z) works only on an SELinux-enabled kernel".toList
    return 1
  if 1 < kinds.length then
    fault "cannot print \"only\" of more than one choice".toList
    return 1
  if kinds.isEmpty && (g.has 'r' || g.has 'n') then
    fault "cannot print only names or real IDs in default format".toList
    return 1
  if kinds.isEmpty && g.has 'z' then
    fault "option --zero not permitted in default format".toList
    return 1
  let shown (a : Account) : Octets :=
    let pair (n : Nat) (name : String) : Octets := decimal n ++ '(' :: name.toList ++ [')']
    let one (n : Nat) (name : String) : Octets := if g.has 'n' then name.toList else decimal n
    match kinds with
    | 'u' :: _ => one a.number a.name
    | _ :: _ => one a.groupNumber a.group
    | [] =>
      let group := pair a.groupNumber a.group
      "uid=".toList ++ pair a.number a.name ++ " gid=".toList ++ group ++ " groups=".toList ++ group
  if g.operands.isEmpty then
    say (shown Account.own ++ close)
    return 0
  let again : Octets :=
    if g.has 'z' && g.has 'G' && 1 < g.operands.length then ['\x00'] else []
  overAll g.operands fun text =>
    match accountNamed? text with
    | some a => do
      say (shown a ++ close ++ again)
      pure 0
    | none => do
      noSuchUser text
      pure 1

/-- Prints the name of the user. -/
def whoami : Tool :=
  withOptions [] fun g => withoutOperands g (sayLine Account.own.name)

/-- Prints the groups that users belong to. -/
def groups : Tool :=
  withOptions [] fun g =>
    if g.operands.isEmpty then sayLine Account.own.group
    else
      overAll g.operands fun text =>
        match accountNamed? text with
        | some a => do
          say (text ++ " : ".toList ++ a.group.toList ++ ['\n'])
          pure 0
        | none => do
          noSuchUser text
          pure 1

/-- Would print the name that was given at the login. -/
def logname : Tool :=
  withOptions [] fun g => withoutOperands g do
    fault "no login name".toList
    pure 1

/-- Prints the names of the users that have logged in, that is, nothing. -/
def users : Tool :=
  withOptions [] fun g =>
    match g.operands with
    | _ :: extra :: _ => do
      misuse ("extra operand ".toList ++ Quoting.value extra)
      pure 1
    | _ => pure 0

/-- Prints who has logged in, that is, nobody. -/
def who : Tool :=
  withOptions [flag 'a' ["all"], flag 'b' ["boot"], flag 'd' ["dead"], flag 'H' ["heading"],
    flag 'l' ["login"], flag 'm', flag 'p' ["process"], flag 'q' ["count"],
    flag 'r' ["runlevel"], flag 's' ["short"], flag 't' ["time"],
    flag 'T' ["mesg", "message", "writable"], flag 'w', flag 'u' ["users"],
    named 'L' "lookup"] fun g =>
    match g.operands with
    | _ :: _ :: extra :: _ => do
      misuse ("extra operand ".toList ++ Quoting.value extra)
      pure 1
    | _ => do
      if g.has 'q' then say "\n# users=0\n".toList
      else if g.has 'H' then say "NAME     LINE         TIME             COMMENT\n".toList
      pure 0

/-- What is said about the system: the letter of the option and the text. -/
def systemParts : List (Char × String) :=
  [('s', "Linux"), ('n', "localhost"), ('r', "6.1.0"), ('v', "#1 SMP PREEMPT_DYNAMIC"),
    ('m', "x86_64"), ('p', "x86_64"), ('i', "x86_64"), ('o', "GNU/Linux")]

/-- Prints what is known about the system. -/
def uname : Tool :=
  withOptions [flag 'a' ["all"], flag 's' ["kernel-name", "sysname"], flag 'n' ["nodename"],
    flag 'r' ["kernel-release", "release"], flag 'v' ["kernel-version"], flag 'm' ["machine"],
    flag 'p' ["processor"], flag 'i' ["hardware-platform"], flag 'o' ["operating-system"]]
    fun g => withoutOperands g do
  let wanted (key : Char) : Bool :=
    g.has key || g.has 'a' || (g.options.isEmpty && key == 's')
  let parts := systemParts.filter fun (key, _) => wanted key
  sayLine (String.intercalate " " (parts.map Prod.snd))

/-- Prints the kind of the machine. -/
def arch : Tool :=
  withOptions [] fun g => withoutOperands g (sayLine "x86_64")

/-- Prints the name of the machine. -/
def hostname : Tool :=
  withOptions [flag 's' ["short"], flag 'f' ["fqdn", "long"]] fun _ => sayLine "localhost"

/-- Prints how many processors there are, without as many as an option says; there is one at least.
-/
def nproc : Tool :=
  withOptions [named 'a' "all", named 'i' "ignore" .value] fun g => withoutOperands g do
  let text := (g.value? 'i').getD ['0']
  if text.isEmpty || !text.all Char.isDigit then
    fault ("invalid number: ".toList ++ Quoting.value text)
    pure 1
  else
    say (decimal (max 1 (4 - number text)) ++ ['\n'])
    pure 0

/-- Would print the name of the terminal that is the input. -/
def tty : Tool :=
  withOptions [flag 's' ["silent", "quiet"]] (fun g =>
    withoutOperands g (do
      if !g.has 's' then say "not a tty\n".toList
      pure 1) 2) 2

end Fleet.Tools
