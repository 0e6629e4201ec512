import Fleet.Tools.Identity
import Fleet.Tools.Inputs
import Fleet.World.Permissions

/-!
# Owners and permissions

Tools that change to whom files belong and who may do what with them.
-/

/-!
## To whom files belong

Tools that give files to users and groups. All files belong to the user who runs scripts, and what
is given away stays with that user: the tools check what they are told and say what they would do.
-/

namespace Fleet.Tools

open Shell

namespace Owners

/-- The number of a user or a group, by a list of names; a number stands for itself. -/
def number? (names : List (String × Nat)) (text : Octets) : Option Nat :=
  match names.find? fun (name, _) => name.toList == text with
  | some (_, n) => some n
  | none => if !text.isEmpty && text.all Char.isDigit then some (number text) else none

/-- The users by their names. -/
def users : List (String × Nat) :=
  Account.all.map fun a => (a.name, a.number)

/-- What files are given to. -/
structure Wish : Type where
  user : Option Nat := none
  group : Option Nat := none
  deriving Repr

/-- What is asked for, with what is wrong about it. A user with a colon and nothing behind it brings
the group of that user. -/
def wish (text : Octets) : Except Octets Wish := do
  let user := text.takeWhile (· ≠ ':')
  let behind := text.drop user.length
  let group := behind.drop 1
  let userNumber ← if user.isEmpty then pure none
    else
      match number? users user with
      | some n => pure (some n)
      | none => throw ("invalid user: ".toList ++ Quoting.value text)
  let groupNumber ← if group.isEmpty then
      pure (if behind.isEmpty then none
        else userNumber.bind fun n =>
          (Account.all.find? fun a => a.number == n).map Account.groupNumber)
    else
      match number? Account.groups group with
      | some n => pure (some n)
      | none => throw ("invalid group: ".toList ++ Quoting.value text)
  pure { user := userNumber, group := groupNumber }

/-- The name that belongs to a number. -/
def nameOf (names : List (String × Nat)) (n : Nat) : Octets :=
  ((names.find? fun (_, other) => other == n).map fun (name, _) => name.toList).getD (decimal n)

/-- What is said about a file. -/
def account (ofGroups : Bool) (w : Wish) (path : Octets) : Octets :=
  let what := if ofGroups then "group" else "ownership"
  let words (user group : Option Octets) : Octets :=
    user.getD [] ++ (match group with
      | some g => if ofGroups then g else ':' :: g
      | none => [])
  let wanted := words (w.user.map (nameOf users)) (w.group.map (nameOf Account.groups))
  let own := words (w.user.map fun _ => "root".toList) (w.group.map fun _ => "root".toList)
  if w.user.getD 0 = 0 && w.group.getD 0 = 0 then
    what.toList ++ " of ".toList ++ Quoting.name path ++ " retained".toList ++
      (if wanted.isEmpty then [] else " as ".toList ++ wanted) ++ ['\n']
  else
    ("changed " ++ what ++ " of ").toList ++ Quoting.name path ++ " from ".toList ++ own ++
      " to ".toList ++ wanted ++ ['\n']

/-- Gives a file and, if asked to, what is below it away; `n` bounds how deep that is. -/
def giveAll (g : Given) (ofGroups : Bool) (w : Wish) : Nat → Octets → StateM Process Nat
  | 0, _ => pure 1
  | n + 1, path => do
    let p ← get
    match entryOf p path (!g.has 'h'), entryOf p path false with
    | .error e, there => do
      if !g.has 'f' then
        fileFault (if there.isOk then "cannot dereference" else "cannot access") path e
      pure 1
    | .ok _, there => do
      let below ← match there with
        | .ok (.directory serial) =>
          if g.has 'R' then
            let names := namesIn p ((p.tree.locate? serial).getD [])
            overAll names fun name => giveAll g ofGroups w n (within path name)
          else pure 0
        | _ => pure 0
      let changes := w.user.getD 0 ≠ 0 || w.group.getD 0 ≠ 0
      if g.has 'v' || (g.has 'c' && changes) then say (account ofGroups w path)
      pure below

/-- Gives files away. -/
def run (ofGroups : Bool) : Tool :=
  withOptions [flag 'c' ["changes"], flag 'f' ["silent", "quiet"], flag 'v' ["verbose"],
    named 'D' "dereference", flag 'h' ["no-dereference"], named 'F' "from" .value,
    named 'p' "preserve-root", named 'P' "no-preserve-root", named 'r' "reference" .value,
    flag 'R' ["recursive"], flag 'H', flag 'L'] fun g => do
  let p ← get
  let reference := g.value? 'r'
  match reference, g.operands with
  | none, [] | some _, [] => refuse "missing operand"
  | none, [only] => do
    misuse ("missing operand after ".toList ++ Quoting.value only)
    pure 1
  | reference, first :: others =>
    let wish : Except Octets Wish := match reference with
      | some file =>
        match entryOf p file with
        | .ok _ => .ok { user := if ofGroups then none else some 0, group := some 0 }
        | .error e =>
          .error ("failed to get attributes of ".toList ++ Quoting.name file ++ ": ".toList ++
            e.description.toList)
      | none =>
        if ofGroups then
          match number? Account.groups first with
          | some n => .ok { group := some n }
          | none =>
            if first.isEmpty then .ok {}
            else .error ("invalid group: ".toList ++ Quoting.value first)
        else Owners.wish first
    orFault wish fun w =>
      overAll (if reference.isSome then first :: others else others)
        (giveAll g ofGroups w (p.tree.entries.length + 2))

end Owners

/-- Gives files to users. -/
def chown : Tool :=
  Owners.run false

/-- Gives files to groups. -/
def chgrp : Tool :=
  Owners.run true

end Fleet.Tools

/-!
## Changing permissions

The tool `chmod`: it changes the permissions of files, those within directories too if asked to.
-/

namespace Fleet.Tools

open Shell

namespace Modes

/-- What is said about the files. -/
inductive Telling : Type where
  | nothing
  | changes
  | everything
  deriving Repr, DecidableEq

/-- How permissions are changed. -/
structure Plan : Type where
  changes : List Permissions.Change
  telling : Telling
  /-- Whether what goes wrong with files is not reported. -/
  quiet : Bool
  recursive : Bool
  /-- Whether the mode was given as an option, so that a mask may be a surprise. -/
  asOption : Bool

/-- Whether an argument is a mode that looks like an option. -/
def isModeOption (argument : Octets) : Bool :=
  match argument with
  | '-' :: c :: _ => "rwxXstugoa,+=01234567".toList.contains c
  | _ => false

/-- Whether an entry is a directory. -/
def isFolder : Entry → Bool
  | .directory _ => true
  | _ => false

/-- What is said about a file whose permissions are dealt with. -/
def account (path : Octets) (before after : Nat) : Octets :=
  let shown (mode : Nat) : Octets :=
    Permissions.octal 4 mode ++ " (".toList ++ Permissions.letters mode ++ ")".toList
  "mode of ".toList ++ Quoting.name path ++
    (if before = after then " retained as ".toList ++ shown after
    else " changed from ".toList ++ shown before ++ " to ".toList ++ shown after) ++ ['\n']

/-- Changes the permissions of a file. -/
def changeOne (plan : Plan) (path : Octets) : StateM Process Nat := do
  let p ← get
  match entryOf p path with
  | .error e => do
    if !plan.quiet then
      match entryOf p path false, e with
      | .ok (.link _), .noSuchFile =>
        fault ("cannot operate on dangling symlink ".toList ++ Quoting.name path)
      | _, _ => fileFault "cannot access" path e
    if plan.telling = .everything then
      say (Quoting.name path ++ " could not be accessed\n".toList)
    pure 1
  | .ok entry =>
    let before := p.tree.modeOf entry
    let after := Permissions.adjusted (isFolder entry) p.mask before plan.changes
    let code ← change "changing permissions of" path fun t here =>
      t.changeMode here path.toText after
    if plan.telling = .everything || (plan.telling = .changes && before ≠ after) then
      say (account path before after)
    let wished := Permissions.adjusted (isFolder entry) 0 before plan.changes
    if plan.asOption && Permissions.without after wished ≠ 0 then
      fault (Quoting.lead path ++ ": new permissions are ".toList ++ Permissions.letters after ++
        ", not ".toList ++ Permissions.letters wished)
      pure 1
    else pure code

/-- Changes the permissions of a file and, if asked to, of those below it. -/
def changeAll (plan : Plan) : Nat → Octets → StateM Process Nat
  | 0, _ => pure 1
  | n + 1, path => do
    let code ← changeOne plan path
    let p ← get
    match entryOf p path false with
    | .ok (.directory serial) =>
      if plan.recursive then
        let names := (p.tree.children ((p.tree.locate? serial).getD [])).map Octets.ofText
        let inner := names.filter fun name =>
          !((entryOf p (within path name) false) matches .ok (.link _))
        pure (max code (← overAll inner fun name => changeAll plan n (within path name)))
      else pure code
    | _ => pure code

/-- Changes the permissions of the files that are named, behind a mode unless one was an option. -/
def run (modeOptions : List Octets) (g : Given) : StateM Process Nat := do
  let p ← get
  let (mode?, files) : Option Octets × List Octets :=
    match g.value? 'F', modeOptions, g.operands with
    | some _, _, files => (none, files)
    | none, _ :: _, files => (some (List.intercalate [','] modeOptions), files)
    | none, [], [] => (none, [])
    | none, [], mode :: files => (some mode, files)
  match mode?, files, g.value? 'F' with
  | some mode, [], _ => do
    misuse ("missing operand after ".toList ++ Quoting.value mode)
    pure 1
  | none, [], _ => refuse "missing operand"
  | mode?, files, reference => do
    let changes : Except Octets (List Permissions.Change) :=
      match mode?, reference with
      | some mode, _ =>
        match Permissions.parse? mode with
        | some changes => .ok changes
        | none => .error ("invalid mode: ".toList ++ Quoting.value mode)
      | none, some file =>
        match entryOf p file with
        | .ok entry => .ok [Permissions.absolute 5 (p.tree.modeOf entry)]
        | .error e =>
          .error ("failed to get attributes of ".toList ++ Quoting.name file ++ ": ".toList ++
            e.description.toList)
      | none, none => .ok []
    match changes, mode? with
    | .error message, some _ => do
      misuse message
      pure 1
    | .error message, none => do
      fault message
      pure 1
    | .ok changes, _ =>
      let plan : Plan :=
        { changes
          telling := match g.lastOf ['c', 'v'] with
            | some 'c' => .changes
            | some _ => .everything
            | none => .nothing
          quiet := g.has 'f'
          recursive := g.has 'R'
          asOption := !modeOptions.isEmpty }
      overAll files (changeAll plan 64)

end Modes

/-- Changes the permissions of files. -/
def chmod : Tool := fun arguments =>
  -- Behind two hyphens nothing is an option.
  let before := arguments.takeWhile (· ≠ "--".toList)
  let after := arguments.drop before.length
  let modes := before.filter Modes.isModeOption
  withOptions [flag 'c' ["changes"], flag 'f' ["silent", "quiet"], named 'N' "no-preserve-root",
    named 'P' "preserve-root", named 'F' "reference" .value, flag 'R' ["recursive"],
    flag 'v' ["verbose"]] (Modes.run modes) 1 false
    (before.filter (!Modes.isModeOption ·) ++ after)

end Fleet.Tools
