import Fleet.Tools.Inputs

/-!
# Excerpts of files

The tools `head` and `tail` print the first or the last lines or octets of files. Of an input that
is a file no more is taken than what is needed.
-/

namespace Fleet.Tools

open Shell

/-- What part of a text is printed. -/
inductive Amount : Type where
  | first (count : Nat)
  | allButLast (count : Nat)
  | last (count : Nat)
  /-- From the line or octet of that number on. -/
  | since (number : Nat)
  deriving Repr

namespace Excerpts

/-- Some of several items. -/
def pick {α : Type} (items : List α) : Amount → List α
  | .first n => items.take n
  | .allButLast n => items.take (items.length - n)
  | .last n => items.drop (items.length - n)
  | .since n => items.drop (n - 1)

/-- What is printed of files. -/
structure Excerpt : Type where
  /-- Whether lines are counted, and what ends them. -/
  lines : Option Char
  amount : Amount
  deriving Repr

/-- The part of a text. -/
def Excerpt.of (e : Excerpt) (text : Octets) : Octets :=
  match e.lines with
  | some mark => (pick (keepEnds mark text) e.amount).flatten
  | none => pick text e.amount

/-- How much of an input is taken in one go. -/
def blockSize : Nat :=
  8192

/-- What is left of an input of which some octets were needed. -/
def Excerpt.leave (e : Excerpt) (p : Process) (text : Octets) (needed : Nat) : Octets :=
  match e.amount, e.lines with
  | .first 0, _ => text
  | .first _, none => text.drop needed
  | .first _, some _ =>
    if p.inputSize?.isSome then text.drop needed
    else text.drop ((needed + blockSize - 1) / blockSize * blockSize)
  | _, _ => []

/-- The name of a file in a heading. -/
def title (path : Octets) : Octets :=
  if path = ['-'] then "standard input".toList else path

/-- Prints parts of files, with headings if they are asked for; `started` says whether there was a
heading before. -/
def print (e : Excerpt) (headed : Bool) : Bool → List Octets → StateM Process Nat
  | _, [] => pure 0
  | started, path :: rest => do
    let heading : Octets :=
      if headed then
        (if started then ['\n'] else []) ++ "==> ".toList ++ title path ++ " <==\n".toList
      else []
    match ← readSource path with
    | .ok text => do
      let part := e.of text
      if isInput path then
        modify fun p => p.giveBack 0 (e.leave p text part.length)
      say (heading ++ part)
      print e headed true rest
    | .error u => do
      if u.opened then
        say heading
        fileFault "error reading" (title path) u.error
      else
        fault ("cannot open ".toList ++ Quoting.name path ++ " for reading: ".toList ++
          u.error.description.toList)
      let _ ← print e headed (started || u.opened) rest
      pure 1

/-- The options of both tools. -/
def known : List KnownOption :=
  [valued 'c' ["bytes"], valued 'n' ["lines"], flag 'q' ["quiet", "silent"],
    flag 'v' ["verbose"], flag 'z' ["zero-terminated"]] ++
  -- Digits belong in the first argument.
  "0123456789".toList.map fun d => flag d

/-- Prints parts of files; `amountOf` makes an amount of the text of an option. -/
def run (g : Given) (amountOf : Octets → Except Unit Amount) : StateM Process Nat := do
  let lines := g.lastOf ['c', 'n'] ≠ some 'c'
  let what := if lines then "number of lines" else "number of bytes"
  let text := (g.value? (if lines then 'n' else 'c')).getD "10".toList
  let unsigned := if text.head? == some '-' || text.head? == some '+' then text.tail else text
  orFault (countOf what unsigned) fun _ =>
    match amountOf text with
    | .error _ => pure 1
    | .ok amount => do
      let paths := if g.operands.isEmpty then [['-']] else g.operands
      let headed := match g.lastOf ['q', 'v'] with
        | some c => c = 'v'
        | none => 1 < paths.length
      print { lines := if lines then some (lineMark g) else none, amount } headed false paths

/-- The value of a text that is a number. -/
def valueOf (text : Octets) : Nat :=
  (countOf "" text).toOption.getD 0

/-- A first argument such as `-5` in its usual form; letters may follow the number. -/
def modern (arguments : List Octets) : Except (Octets × Bool) (List Octets) :=
  match arguments with
  | ('-' :: d :: more) :: rest =>
    if !d.isDigit then .ok arguments
    else
      let digits := d :: more.takeWhile Char.isDigit
      let letters := (d :: more).drop digits.length
      match letters.find? fun c => !"bckmlqvz".toList.contains c with
      | some c => .error ([c], true)
      | none =>
        let unit := (letters.filter "bkm".toList.contains).take 1
        let counted : Octets :=
          if letters.any fun c => c == 'c' || c == 'b' || c == 'k' || c == 'm' then ['-', 'c']
          else ['-', 'n']
        let flags := (letters.filter "qvz".toList.contains).map fun c => ['-', c]
        .ok ([counted, digits ++ unit] ++ flags ++ rest)
  | arguments => .ok arguments

end Excerpts

open Excerpts in
/-- Prints the first lines or octets of files. -/
def head : Tool := fun arguments => do
  let trailing (c : Char) : StateM Process Nat := refuse
    ("invalid trailing option -- " ++ String.singleton c)
  match modern arguments with
  | .error (c, _) => trailing (c.headD ' ')
  | .ok arguments =>
    withOptions known (fun g => do
      match (g.options.map Prod.fst).find? Char.isDigit with
      | some c => trailing c
      | none =>
        run g fun text =>
          .ok (match text with
            | '-' :: n => .allButLast (valueOf n)
            | '+' :: n => .first (valueOf n)
            | n => .first (valueOf n))) 1 false arguments

/-- The only option, such as `-5` or `+3`, in its usual form, where at most one file follows. -/
def modernTail (arguments : List Octets) : List Octets :=
  let few := match arguments with
    | [_] => true
    | [_, file] => file.head? != some '-' || file = ['-']
    | [_, dashes, _] => dashes = ['-', '-']
    | _ => false
  match arguments with
  | (sign :: more) :: rest =>
    let digits := more.takeWhile Char.isDigit
    let letters := more.drop digits.length
    let isOld := (sign == '+' || (sign == '-' && !digits.isEmpty)) && few
    match String.ofList letters with
    | "" | "l" | "c" | "b" =>
      if !isOld || (sign == '+' && more.isEmpty) then arguments
      else
        let n := if digits.isEmpty then "10".toList else digits
        let n := if letters = ['b'] then n ++ ['b'] else n
        let counted : Octets :=
          if letters = ['c'] || letters = ['b'] then ['-', 'c'] else ['-', 'n']
        counted :: (if sign = '+' then sign :: n else n) :: rest
    | _ => arguments
  | arguments => arguments

/-- The digit of the first option that is a number, before two hyphens end the options. -/
def oldDigit? : List Octets → Option Char
  | [] | ['-', '-'] :: _ => none
  | ('-' :: d :: _) :: rest => if d.isDigit then some d else oldDigit? rest
  | _ :: rest => oldDigit? rest

open Excerpts in
/-- Prints the last lines or octets of files. -/
def tail : Tool := fun arguments => do
  let arguments := modernTail arguments
  match oldDigit? arguments with
  | some d => do
    fault ("option used in invalid context -- ".toList ++ [d])
    pure 1
  | none =>
    withOptions (known ++ [named 'f' "follow" .perhaps, named 'r' "retry"])
      (fun g =>
        run g fun text =>
          .ok (match text with
            | '+' :: n => .since (valueOf n)
            | '-' :: n => .last (valueOf n)
            | n => .last (valueOf n))) 1 false arguments

end Fleet.Tools
