/-!
# Permissions

The permissions of a file are twelve bits: reading, writing and running for its user, for its group
and for others, and three special ones. A change of them is written as octal digits or in letters,
such as `u+x,go-w`.
-/

namespace Fleet

namespace Permissions

/-- All bits. -/
def all : Nat :=
  0o7777

/-- Bits without some others. -/
def without (bits others : Nat) : Nat :=
  bits - (bits &&& others)

/-- The letters of permissions, as files are listed with them. -/
def letters (mode : Nat) : List Char :=
  let has (bit : Nat) : Bool := mode &&& bit ≠ 0
  let share (read write run special : Nat) (mark : Char) : List Char :=
    [if has read then 'r' else '-', if has write then 'w' else '-',
      match has run, has special with
      | true, true => mark
      | false, true => mark.toUpper
      | true, false => 'x'
      | false, false => '-']
  share 0o400 0o200 0o100 0o4000 's' ++ share 0o40 0o20 0o10 0o2000 's' ++
    share 0o4 0o2 0o1 0o1000 't'

/-- Octal digits of permissions, at least the given number of them. -/
def octal (width mode : Nat) : List Char :=
  let digits := Nat.toDigits 8 mode
  List.replicate (width - digits.length) '0' ++ digits

/-- What becomes of the bits that a change is about. -/
inductive Action : Type where
  | set
  | add
  | remove
  deriving Repr, DecidableEq

/-- Where the bits of a change come from. -/
inductive Source : Type where
  /-- They are named. -/
  | named
  /-- They are those of the user, the group or others. -/
  | copied
  /-- They are named, and the right to run is among them where someone has it. -/
  | running
  deriving Repr, DecidableEq

/-- A change of permissions. -/
structure Change : Type where
  action : Action
  source : Source
  /-- The bits of those that are meant, if they are named. -/
  affected : Nat
  value : Nat
  /-- The bits that are spoken of. -/
  mentioned : Nat
  deriving Repr

/-- The value of octal digits. -/
def ofOctal (digits : List Char) : Nat :=
  digits.foldl (fun n c => n * 8 + (c.toNat - '0'.toNat)) 0

/-- An octal digit. -/
def isOctal (c : Char) : Bool :=
  '0' ≤ c && c ≤ '7'

/-- The bits of those that a letter stands for. -/
def who? (c : Char) : Option Nat :=
  match c with
  | 'u' => some 0o4700
  | 'g' => some 0o2070
  | 'o' => some 0o1007
  | 'a' => some all
  | _ => none

/-- What a sign does. -/
def action? (c : Char) : Option Action :=
  match c with
  | '=' => some .set
  | '+' => some .add
  | '-' => some .remove
  | _ => none

/-- The bits that a letter of a permission stands for. -/
def bits? (c : Char) : Option Nat :=
  match c with
  | 'r' => some 0o444
  | 'w' => some 0o222
  | 'x' => some 0o111
  | 'X' => some 0
  | 's' => some 0o6000
  | 't' => some 0o1000
  | _ => none

/-- The changes that signs and what follows them describe for those that are meant, and what is left
after them. -/
def actions (affected : Nat) : Nat → List Char → Option (List Change × List Char)
  | 0, _ => none
  | _, [] => none
  | n + 1, sign :: rest => do
    let action ← action? sign
    let more (change : Change) (left : List Char) : Option (List Change × List Char) :=
      if (left.head?.bind action?).isSome then
        (actions affected n left).map fun (changes, left) => (change :: changes, left)
      else some ([change], left)
    let copied (value : Nat) (left : List Char) : Option (List Change × List Char) :=
      let mentioned := if affected = 0 then value else affected &&& value
      more { action, source := .copied, affected, value, mentioned } left
    match rest with
    | 'u' :: left => copied 0o700 left
    | 'g' :: left => copied 0o70 left
    | 'o' :: left => copied 0o7 left
    | _ =>
      let digits := rest.takeWhile isOctal
      if !digits.isEmpty then
        let value := ofOctal digits
        let left := rest.drop digits.length
        if affected ≠ 0 || all < value || !(left.isEmpty || left.head? == some ',') then none
        else
          more { action, source := .named, affected := all, value, mentioned := all } left
      else
        let names := rest.takeWhile fun c => (bits? c).isSome
        let value := (names.filterMap bits?).foldl (· ||| ·) 0
        let source : Source := if names.contains 'X' then .running else .named
        let mentioned := if affected = 0 then value else affected &&& value
        more { action, source, affected, value, mentioned } (rest.drop names.length)

/-- The changes of several clauses with commas between them. -/
def clauses : Nat → List Char → Option (List Change)
  | 0, _ => none
  | n + 1, text => do
    let whos := text.takeWhile fun c => (who? c).isSome
    let affected := (whos.filterMap who?).foldl (· ||| ·) 0
    let (changes, left) ← actions affected (text.length + 1) (text.drop whos.length)
    match left with
    | [] => some changes
    | ',' :: rest => (clauses n rest).map (changes ++ ·)
    | _ => none

/-- The change to some permissions. Only with five digits the special bits of a directory are
spoken of that are not set. -/
def absolute (digits : Nat) (mode : Nat) : Change where
  action := .set
  source := .named
  affected := all
  value := mode
  mentioned := if digits < 5 then (mode &&& 0o7000) ||| 0o777 else all

/-- The changes that a text describes. -/
def parse? (text : List Char) : Option (List Change) :=
  if text.head?.any isOctal then
    if text.all isOctal && ofOctal text ≤ all then some [absolute text.length (ofOctal text)]
    else none
  else clauses (text.length + 1) text

/-- Permissions after a change; a mask is kept off what is changed for no one in particular. -/
def Change.apply (isDirectory : Bool) (mask : Nat) (mode : Nat) (c : Change) : Nat :=
  let spread (bits : Nat) : Nat :=
    [0o444, 0o222, 0o111].foldl (fun n kind => if bits &&& kind ≠ 0 then n ||| kind else n) 0
  let omitted := if isDirectory then without 0o6000 c.mentioned else 0
  let value := match c.source with
    | .named => c.value
    | .copied => spread (c.value &&& mode)
    | .running => if isDirectory || mode &&& 0o111 ≠ 0 then c.value ||| 0o111 else c.value
  let value := if c.affected = 0 then without value mask else value &&& c.affected
  let value := without value omitted
  match c.action with
  | .set =>
    let kept := (if c.affected = 0 then 0 else without mode c.affected) ||| (mode &&& omitted)
    kept ||| value
  | .add => mode ||| value
  | .remove => without mode value

/-- Permissions after several changes. -/
def adjusted (isDirectory : Bool) (mask mode : Nat) (changes : List Change) : Nat :=
  changes.foldl (Change.apply isDirectory mask) mode

end Permissions

end Fleet
