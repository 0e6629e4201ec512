import Fleet.Shell.Fields
import Fleet.Shell.Parameters
import Fleet.Shell.Variables
import Fleet.World.Accounts

/-!
# Expanding words in the plain shell

What expanding a word is about in every dialect, and the parameters of the plain one.
-/

/-!
## Home directories in words

A `~` at certain places of a word, with the name of a user perhaps, stands for a home directory.
-/

namespace Fleet.Shell

/-- Where a `~` stands for a home directory. -/
inductive Homes : Type where
  | nowhere
  /-- At the start of a word. -/
  | start
  /-- At the start and after each colon. -/
  | colons
  deriving Repr, DecidableEq

/-- The home directory of a user, or one's own without a name. In the rich shell signs stand for the
working directory and the one before it. -/
def homeOf? (p : Process) (user : Octets) : Option Octets :=
  match user, p.dialect with
  | [], .plain => p.valueOf? "HOME".toList
  | [], .rich => some ((p.valueOf? "HOME".toList).getD "/root".toList)
  | ['+'], .rich => p.valueOf? "PWD".toList
  | ['-'], .rich => p.valueOf? "OLDPWD".toList
  | _, _ => (Account.all.find? fun a => a.name.toList == user).map fun a => a.home.toList

/-- The octets without any quoting that a word starts with. -/
def plainStart : Word → Octets
  | .text octets false :: rest => octets ++ plainStart rest
  | _ => []

/-- A word whose `~`, with the name of a user perhaps, stands for home directories; `here` says
whether one may stand at its very start. -/
def withHomes (p : Process) (homes : Homes) (here : Bool) : Word → Word
  | [] => []
  | .text ['~'] false :: rest =>
    let ends (c : Char) : Bool := c == '/' || (c == ':' && homes == .colons)
    let plain := plainStart rest
    let user := plain.takeWhile (!ends ·)
    let whole := user.length < plain.length || rest.all fun
      | .text _ false => true
      | _ => false
    match (homeOf? p user).filter fun _ => here && whole with
    | some home =>
      -- The octets of the name give nothing.
      .text home true :: dropPlain user.length rest
    | none => .text ['~'] false :: withHomes p homes false rest
  | .text [':'] false :: rest => .text [':'] false :: withHomes p homes (homes == .colons) rest
  | part :: rest => part :: withHomes p homes false rest
where
  /-- The rest of a word after some of its octets. -/
  dropPlain : Nat → Word → Word
    | 0, rest => withHomes p homes false rest
    | n + 1, .text [_] false :: rest => dropPlain n rest
    | _, rest => withHomes p homes false rest

/-!
## What expanding words is about

The manner in which a word is expanded, and what its parts are made of.
-/

/-- How a word is expanded. -/
structure Manner : Type where
  /-- Where home directories may stand. -/
  homes : Homes := .nowhere
  /-- Whether the word is cut into fields. -/
  splits : Bool := false
  deriving Repr

/-- What expands words. -/
abbrev Expander : Type :=
  Manner → Word → Exec (List Cell)

/-- A part without the line ends at its end, and without NULs. -/
def substituted (text : Octets) : Octets :=
  ((text.filter (· ≠ '\x00')).reverse.dropWhile (· == '\n')).reverse

/-- Cells in which what is not quoted may separate fields. -/
def splitting (cells : List Cell) : List Cell :=
  cells.map fun
    | .octet c quoted splits => .octet c quoted (splits || !quoted)
    | cell => cell

end Fleet.Shell

/-!
## Parameters in the plain shell

The value of a parameter is one text. Several arguments that are to be fields of their own are held
apart in it by NULs, which end the text for a pattern.
-/

namespace Fleet.Shell.Expansion.Plain

/-- The value of a parameter as one text, its fields held apart by NULs. -/
def textOf? (p : Process) (name : Octets) (splits quoted : Bool) : Option Octets :=
  if isSeveral name then
    let apart := splits && !(quoted && name == ['*'])
    some (List.intercalate (if apart then ['\x00'] else joint p) p.arguments)
  else parameter? p name

/-- The cells of a text whose fields are held apart by NULs. -/
def cellsOf (quoted : Bool) (text : Octets) : List Cell :=
  match text.splitOn '\x00' with
  | [one] => Cell.ofExpansion quoted one
  | several => Cell.ofSeveral quoted several

/-- The part of a text that is left after a pattern is taken off one of its ends. What a pattern is
compared with ends before a NUL. -/
def trimmed (atEnd longest : Bool) (pattern : Pattern) (text : Octets) : Octets :=
  let single (text : Octets) : Octets := text.takeWhile (· ≠ '\x00')
  let places :=
    if atEnd = longest then List.range ((single text).length + 1)
    else (List.range (text.length + 1)).reverse
  let covers (n : Nat) : Bool :=
    pattern.covers (single (if atEnd then text.drop n else text.take n))
  match places.find? covers with
  | some n => if atEnd then text.take n else text.drop n
  | none => text

/-- Refuses a parameter that has no value, if an option asks for that. -/
def refuseUnset (name : Octets) (value : Option Octets) : Exec Unit := do
  if value.isNone && (← get).isOn 'u' then fail (name ++ ": parameter not set".toList)

/-- The cells of a parameter of which something is made. -/
def parameter (expand : Expander) (manner : Manner) (name : Octets) (use : Use) (quoted : Bool) :
    Exec (List Cell) := do
  let p ← get
  let value := textOf? p name manner.splits quoted
  -- Within a word that is not quoted, what another word stands for is split.
  let within : Manner :=
    { manner with homes := if manner.homes == .colons then .colons else .start }
  let whole : List Cell :=
    if name == ['@'] && quoted && manner.splits then Cell.ofSeveral true p.arguments
    else cellsOf quoted (value.getD [])
  match use with
  | .value => do
    refuseUnset name value
    pure whole
  | .length => do
    refuseUnset name value
    let text := (textOf? p name false quoted).getD []
    pure (Cell.ofExpansion quoted (decimal text.length))
  | .trim atEnd longest pattern => do
    refuseUnset name value
    let pattern := Pattern.ofOctets (Cell.pattern (← expand { homes := .start } pattern))
    pure (cellsOf quoted (trimmed atEnd longest pattern (value.getD [])))
  | .remedy remedy orEmpty word => do
    let missing := value.isNone || (orEmpty && value == some [])
    let other : Exec (List Cell) := do
      pure ((if quoted then [Cell.anchor] else []) ++ splitting (← expand within word))
    match remedy, missing with
    | .standIn, true => other
    | .replace, false => other
    | .replace, true => pure []
    | .assign, true => do
      let text := Cell.octets (← expand { within with splits := false } word)
      assignVariable name text
      pure (Cell.ofExpansion quoted text)
    | .complain, true => do
      let text := Cell.octets (← expand { within with splits := false } word)
      fail (name ++ ": ".toList ++
        if !word.isEmpty then text
        else if orEmpty then "parameter not set or null".toList
        else "parameter not set".toList)
    | _, false => pure whole
  | _ => fail "Bad substitution".toList

end Fleet.Shell.Expansion.Plain
