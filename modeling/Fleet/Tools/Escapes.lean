import Fleet.Decimal.Binary
import Fleet.Shell.Quoting
import Fleet.Tools.Tool

/-!
# Escapes

A backslash and what follows it stand for an octet, or end the printing. Which escapes there are
depends on who reads a text. The tool `echo`, which the shell has as well: the shell's own reads
escapes, the program of that name does so only if asked to.
-/

namespace Fleet.Tools

open Shell

/-- The octet that a letter stands for after a backslash. -/
def escape? : Char → Option Char
  | 'a' => some '\x07'
  | 'b' => some '\x08'
  | 'e' => some '\x1B'
  | 'f' => some '\x0C'
  | 'n' => some '\n'
  | 'r' => some '\r'
  | 't' => some '\t'
  | 'v' => some '\x0B'
  | '\\' => some '\\'
  | _ => none

/-- An octal digit. -/
def isOctal (c : Char) : Bool :=
  '0' ≤ c && c ≤ '7'

/-- A hexadecimal digit. -/
def isHexadecimal (c : Char) : Bool :=
  (Decimal.digitOf? 16 c).isSome

/-- The number that digits of a base stand for. -/
def ofDigits (base : Nat) (digits : Octets) : Nat :=
  digits.foldl (fun n c => n * base + (Decimal.digitOf? base c).getD 0) 0

/-- A number as hexadecimal digits, at least as many as given. -/
def hexadecimal (count n : Nat) : Octets :=
  let digits := Nat.toDigits 16 n
  List.replicate (count - digits.length) '0' ++ digits

/-- What an escape does other than stand for octets: it ends all printing, it lacks its digits, or
there is no such character. -/
inductive Ending : Type where
  | stop
  | noDigits
  | noCharacter (written : Octets)
  deriving Repr, DecidableEq

/-- How escapes are read. -/
structure Escapes : Type where
  /-- A zero may stand in front of three octal digits. -/
  zeroFirst : Bool := false
  /-- The letter `c` ends all printing. -/
  stops : Bool := false
  /-- There are hexadecimal numbers. -/
  hexadecimal : Bool := false
  /-- Quotes may be escaped, characters are given by their numbers, and a number without digits is
  a mistake. -/
  strict : Bool := false
  /-- They are those of the rich shell. -/
  rich : Bool := false
  /-- Octal digits may stand right behind the backslash. -/
  direct : Bool := true
  deriving Repr

namespace Escapes

/-- The escapes in formats of the shell. -/
def shellFormat : Escapes := {}

/-- The escapes in texts that the shell prints. -/
def shellText : Escapes := { zeroFirst := true, stops := true }

/-- The escapes in texts that the program `echo` prints. -/
def echoText : Escapes := { shellText with hexadecimal := true }

/-- The escapes in texts that the rich shell echoes. -/
def richEcho : Escapes := { zeroFirst := true, stops := true, rich := true, direct := false }

/-- The escapes in texts that the rich shell prints. -/
def richText : Escapes := { richEcho with direct := true }

/-- The escapes in formats of the rich shell. -/
def richFormat : Escapes := { rich := true, strict := true }

/-- The escapes in formats of the program `printf`. -/
def format : Escapes := { stops := true, hexadecimal := true, strict := true }

/-- The escapes in texts that the program `printf` prints. -/
def text : Escapes := { format with zeroFirst := true }

/-- The character with a number, given by as many digits as follow its letter. Those outside the
letters and signs of all alphabets stay numbers. -/
def character (letter : Char) (count : Nat) (rest : Octets) : Except Ending (Octets × Octets) := do
  let digits := rest.take count
  if digits.length < count || !digits.all isHexadecimal then throw .noDigits
  let n := ofDigits 16 digits
  if 0xD800 ≤ n ∧ n ≤ 0xDFFF then
    throw (.noCharacter ('\\' :: letter :: Tools.hexadecimal count n))
  let written :=
    if n < 0x80 then [Char.ofNat n]
    else
      let (letter, count) := if n < 0x10000 then ('u', 4) else ('U', 8)
      '\\' :: letter :: (Tools.hexadecimal count n).map Char.toUpper
  pure (written, rest.drop count)

/-- What a backslash, a character and what follows them stand for in the rich shell: octets, and the
rest after the escape. -/
def readRich (e : Escapes) (c : Char) (rest : Octets) : Except Ending (Octets × Octets) :=
  let plain : Octets × Octets := (['\\'], c :: rest)
  let numbered (most : Nat) (make : Nat → Octets) : Octets × Octets :=
    let (found, after) := Quoting.digits 16 most rest
    if found.isEmpty then plain else (make (Quoting.number 16 found), after)
  let octal (digits : Octets) : Octets × Octets :=
    let (found, after) := Quoting.digits 8 3 digits
    ([Char.ofNat (Quoting.number 8 found % 256)], after)
  match c with
  | 'c' => if e.stops then .error .stop else .ok plain
  | 'x' => .ok (numbered 2 fun n => [Char.ofNat n])
  | 'u' => .ok (numbered 4 Quoting.character)
  | 'U' => .ok (numbered 8 Quoting.character)
  | _ =>
    if c = '0' && e.zeroFirst then .ok (octal rest)
    else if isOctal c && e.direct then .ok (octal (c :: rest))
    else if c = '?' && e.direct then .ok ([c], rest)
    else if (c = '\'' || c = '"' || c = '?') && !e.strict then .ok plain
    else
      match Shell.Quoting.letter? c with
      | some octet => .ok ([octet], rest)
      | none => .ok plain

/-- What follows a backslash stands for: octets, and the rest after the escape. A backslash that
starts no escape stands for itself. -/
def read (e : Escapes) : Octets → Except Ending (Octets × Octets)
  | [] => pure (['\\'], [])
  | c :: rest =>
    if e.rich then e.readRich c rest
    else if isOctal c then
      let digits := if e.zeroFirst && c == '0' then rest else c :: rest
      let own := (digits.take 3).takeWhile isOctal
      pure ([Char.ofNat (ofDigits 8 own % 256)], digits.drop own.length)
    else if c == 'c' && e.stops then throw .stop
    else if c == 'x' && e.hexadecimal then
      let own := (rest.take 2).takeWhile isHexadecimal
      if !own.isEmpty then pure ([Char.ofNat (ofDigits 16 own)], rest.drop own.length)
      else if e.strict then throw .noDigits
      else pure (['\\', c], rest)
    else if c == 'u' && e.strict then character c 4 rest
    else if c == 'U' && e.strict then character c 8 rest
    else if c == '"' && e.strict then pure ([c], rest)
    else match escape? c with
      | some octet => pure ([octet], rest)
      | none => if e.strict then pure (['\\', c], rest) else pure (['\\'], c :: rest)

/-- A text with its escapes replaced, and what ends it early. At most the given number of octets
and escapes is looked at. -/
def replaceUpTo (e : Escapes) : Nat → Octets → Octets × Option Ending
  | 0, rest => (rest, none)
  | _, [] => ([], none)
  | n + 1, '\\' :: rest =>
    match e.read rest with
    | .error ending => ([], some ending)
    | .ok (octets, rest) =>
      let (text, ending) := e.replaceUpTo n rest
      (octets ++ text, ending)
  | n + 1, c :: rest =>
    let (text, ending) := e.replaceUpTo n rest
    (c :: text, ending)

/-- A text with its escapes replaced, and what ends it early. -/
def replace (e : Escapes) (text : Octets) : Octets × Option Ending :=
  e.replaceUpTo text.length text

end Escapes

/-- Prints arguments the way the shell does. -/
def shellEcho : Tool := fun arguments => do
  let (newline, texts) :=
    match arguments with
    | ['-', 'n'] :: rest => (false, rest)
    | rest => (true, rest)
  let (text, ending) := Escapes.shellText.replace (joined [' '] texts)
  say (if newline && ending.isNone then text ++ ['\n'] else text)
  pure 0

/-- Prints arguments, whose escapes are read only if an option asks for that. -/
def echoWith (escapes : Escapes) : Tool := fun arguments => do
  let isOption (argument : Octets) : Bool :=
    match argument with
    | '-' :: c :: rest => (c :: rest).all fun c => c == 'n' || c == 'e' || c == 'E'
    | _ => false
  let options := (arguments.takeWhile isOption).flatten
  let line := joined [' '] (arguments.dropWhile isOption)
  let reads := (options.filter fun c => c == 'e' || c == 'E').getLast? == some 'e'
  let (text, ending) := if reads then escapes.replace line else (line, none)
  say (if options.contains 'n' || ending.isSome then text else text ++ ['\n'])
  pure 0

/-- Prints arguments the way the program does. -/
def echo : Tool :=
  echoWith .echoText

end Fleet.Tools
