import Fleet.Calendar.Printing
import Fleet.Shell.Present
import Fleet.Tools.Escapes
import Fleet.Tools.Layout
import Fleet.Tools.Quoting

/-!
# Printing by a format

A format is text with escapes and directives. It is gone through as often as it takes to use all
arguments; those that are missing are empty. The tool `printf`, which the shell has as well: the two
differ in the directives that they know, in their messages, and in when they show them.
-/

namespace Fleet.Tools

open Shell

/-- Who prints: the shell itself, the rich shell or the program. -/
inductive Printer : Type where
  | shell
  | rich
  | program
  deriving Repr, DecidableEq

/-! ## Formats -/

/-- A width or a number of places: one that stands in the format, or the next argument. -/
inductive Measure : Type where
  | fixed (n : Nat)
  | asked
  deriving Repr, DecidableEq

/-- How a directive of a format writes an argument. -/
structure Directive : Type where
  /-- The directive as it stands in the format. -/
  source : Octets
  flags : Octets
  width : Measure
  precision : Option Measure
  conversion : Option Char
  /-- The format in which a time is written. -/
  time : Option Octets := none
  deriving Repr

/-- A piece of a format. -/
inductive FormatPiece : Type where
  | text (octets : Octets)
  | ending (e : Ending)
  | directive (d : Directive)
  deriving Repr

/-- The measure that comes next, and what follows. -/
def measure : Octets → Measure × Octets
  | '*' :: rest => (.asked, rest)
  | cs => (.fixed (number (cs.takeWhile Char.isDigit)), cs.dropWhile Char.isDigit)

/-- The flags of directives. -/
def Printer.flags : Printer → Octets
  | .shell => "#-+ 0".toList
  | .rich => "#-+ 0'".toList
  | .program => "#-+ 0'I".toList

/-- Letters for the size of a number, which make no difference. -/
def Printer.sizes : Printer → Octets
  | .shell => []
  | .rich | .program => "lLhjtz".toList

/-- The format of a time that stands between parentheses, `depth` of which are open, and what
follows them. -/
def timeFormat? (depth : Nat) : Octets → Option (Octets × Octets)
  | [] => none
  | '(' :: rest => (timeFormat? (depth + 1) rest).map fun (format, rest) => ('(' :: format, rest)
  | ')' :: rest =>
    match depth with
    | 0 => some ([], rest)
    | depth + 1 => (timeFormat? depth rest).map fun (format, rest) => (')' :: format, rest)
  | c :: rest => (timeFormat? depth rest).map fun (format, rest) => (c :: format, rest)

/-- The format of a time that a directive of the rich shell has, and what stands behind it. -/
def Printer.timed? (who : Printer) (start : Octets) : Option (Octets × Octets) :=
  match who, start with
  | .rich, '(' :: start =>
    match timeFormat? 0 start with
    | some (format, 'T' :: rest) => some (format, 'T' :: rest)
    | _ => none
  | _, _ => none

/-- The directive after a percent sign, and what follows it. -/
def Printer.directive (who : Printer) (start : Octets) : Directive × Octets :=
  let flags := start.takeWhile who.flags.contains
  let (width, rest) := measure (start.drop flags.length)
  let (precision, rest) :=
    match rest with
    | '.' :: rest =>
      let (precision, rest) := measure rest
      (some precision, rest)
    | rest => (none, rest)
  let rest := rest.dropWhile who.sizes.contains
  let timed := who.timed? rest
  let rest := (timed.map Prod.snd).getD rest
  let after := rest.drop 1
  let source := '%' :: start.take (start.length - after.length)
  (⟨source, flags, width, precision, rest.head?, timed.map Prod.fst⟩, after)

/-- The escapes in a format. -/
def Printer.formatEscapes : Printer → Escapes
  | .shell => .shellFormat
  | .rich => .richFormat
  | .program => .format

/-- The pieces of a format, at most as many as given. A doubled percent sign is text. -/
def Printer.pieces (who : Printer) : Nat → Octets → List FormatPiece
  | 0, _ => []
  | _, [] => []
  | n + 1, '%' :: '%' :: rest => .text ['%'] :: who.pieces n rest
  | n + 1, '%' :: rest =>
    let (d, after) := who.directive rest
    .directive d :: who.pieces n after
  | n + 1, '\\' :: rest =>
    match who.formatEscapes.read rest with
    | .ok (octets, rest) => .text octets :: who.pieces n rest
    | .error e => [.ending e]
  | n + 1, c :: rest =>
    match who.pieces n rest with
    | .text octets :: pieces => .text (c :: octets) :: pieces
    | pieces => .text [c] :: pieces

/-- The conversions of a directive with nothing between it and the percent sign. -/
def isBareConversion (c : Char) : Bool :=
  c == 'b' || c == 'q'

/-- Whether there is such a directive. For the program the flags and the precision have to suit the
conversion. -/
def Printer.knows (who : Printer) (d : Directive) : Bool :=
  let suits (flags : Octets) (conversions : String) (c : Char) : Bool :=
    !(d.flags.any flags.contains && conversions.toList.contains c)
  match who, d.conversion with
  | _, none => false
  | .shell, some c => "aAbcdeEfFgGiosuxX".toList.contains c
  | .rich, some c => "aAbcdeEfFgGinoqQsuxX".toList.contains c
  | .program, some c =>
    if isBareConversion c then d.source = ['%', c]
    else
      "aAcdeEfFgGiosuxX".toList.contains c && suits ['\'', 'I'] "aAceEosxX" c &&
        suits ['#'] "cdisu" c && suits ['0'] "cs" c && !(c == 'c' && d.precision.isSome)

/-! ## What is wrong -/

/-- What is wrong with an argument that should be a number. -/
inductive NumberFault : Type where
  | notNumber
  | notAllOfIt
  | outOfRange
  deriving Repr, DecidableEq

/-- What is said while printing. -/
inductive Complaint : Type where
  | number (argument : Octets) (fault : NumberFault)
  /-- More stands behind the character whose number is meant. -/
  | beyondCharacter (rest : Octets)
  /-- The argument that is a width is too great. -/
  | width (argument : Octets)
  /-- The argument that is a number of places is too great. -/
  | precision (argument : Octets)
  /-- Nothing as wide as that can be printed. -/
  | tooWide
  | unknownDirective (d : Directive)
  | noDigits
  | noCharacter (written : Octets)
  /-- Arguments are left that the format does not use. -/
  | unused (argument : Octets)
  deriving Repr

namespace Complaint

/-- What is said about an argument that should be a number. -/
def numberMessage (who : Printer) (fault : NumberFault) : String :=
  match fault, who with
  | .notNumber, .rich | .notAllOfIt, .rich => "invalid number"
  | .notNumber, .shell => "expected numeric value"
  | .notNumber, .program => "expected a numeric value"
  | .notAllOfIt, .shell => "not completely converted"
  | .notAllOfIt, .program => "value not completely converted"
  | .outOfRange, _ => "Numerical result out of range"

/-- The words of a complaint. -/
def message (who : Printer) : Complaint → Octets
  | number argument fault =>
    let shown := match who with
      | .shell => argument
      | .rich => if fault = .outOfRange then "warning: ".toList ++ argument else argument
      | .program => Quoting.value argument
    shown ++ ": ".toList ++ (numberMessage who fault).toList
  | beyondCharacter rest =>
    "warning: ".toList ++ rest ++
      ": character(s) following character constant have been ignored".toList
  | width argument => "invalid field width: ".toList ++ Quoting.value argument
  | precision argument => "invalid precision: ".toList ++ Quoting.value argument
  | tooWide =>
    match who with
    | .shell => "xvsnprintf failed".toList
    | .rich | .program => "write error".toList
  | unknownDirective d =>
    match who, d.conversion with
    | .shell, none => "missing format character".toList
    | .shell, some _ => d.source ++ ": invalid directive".toList
    | .rich, none => '`' :: d.source ++ "': missing format character".toList
    | .rich, some c => ['`', c] ++ "': invalid format character".toList
    | .program, _ => d.source ++ ": invalid conversion specification".toList
  | noDigits => "missing hexadecimal number in escape".toList
  | noCharacter written => "invalid universal character name ".toList ++ written
  | unused argument =>
    "warning: ignoring excess arguments, starting with ".toList ++ Quoting.value argument

/-- Whether nothing more is printed. -/
def isFatal : Complaint → Bool
  | number _ _ | beyondCharacter _ | unused _ => false
  | _ => true

/-- Whether it does not count as a failure. -/
def isWarning (who : Printer) : Complaint → Bool
  | beyondCharacter _ | unused _ => true
  | number _ .outOfRange => who = .rich
  | _ => false

end Complaint

/-- The code after something fatal. -/
def Printer.fatalCode : Printer → Nat
  | .shell => 2
  | .rich | .program => 1

/-! ## Numbers -/

/-- The integer that a text starts with, and what follows; none if it starts with no integer. -/
def leadingInteger? (cs : Octets) : Option (Int × Octets) :=
  let start := cs.dropWhile Char.isWhitespace
  let (negative, digits) :=
    match start with
    | '-' :: rest => (true, rest)
    | '+' :: rest => (false, rest)
    | rest => (false, rest)
  let (base, digits) :=
    match digits with
    | '0' :: x :: c :: rest =>
      if (x == 'x' || x == 'X') && isHexadecimal c then (16, c :: rest) else (8, digits)
    | '0' :: _ => (8, digits)
    | _ => (10, digits)
  let own := digits.takeWhile fun c => (Decimal.digitOf? base c).isSome
  if own.isEmpty then none
  else
    let n : Int := ofDigits base own
    some (if negative then -n else n, digits.drop own.length)

/-- The number of the octet after a quote, if an argument is written like that, and what more stands
behind it that the program warns of. -/
def Printer.octetNumber? (who : Printer) (argument : Octets) : Option (Nat × List Complaint) :=
  match argument with
  | q :: rest =>
    if q = '\'' || q = '"' then
      match who, rest with
      | .shell, rest | .rich, rest => some ((rest.head?.map Char.toNat).getD 0, [])
      | .program, [] => none
      | .program, [c] => some (c.toNat, [])
      | .program, c :: more => some (c.toNat, [.beyondCharacter more])
    else none
  | [] => none

/-- The integer that an argument is, and what is wrong with it. -/
def Printer.integer (who : Printer) (signed : Bool) (argument : Octets) : Int × List Complaint :=
  match who.octetNumber? argument with
  | some (n, complaints) => (n, complaints)
  | none =>
    match argument, leadingInteger? argument with
    | [], _ => (0, [])
    | _, none => (0, [.number argument .notNumber])
    | _, some (n, rest) =>
      let low : Int := if signed then -0x8000000000000000 else -0xFFFFFFFFFFFFFFFF
      let high : Int := if signed then 0x7FFFFFFFFFFFFFFF else 0xFFFFFFFFFFFFFFFF
      if n < low then (low, [.number argument .outOfRange])
      else if high < n then (high, [.number argument .outOfRange])
      else if !rest.isEmpty then (n, [.number argument .notAllOfIt])
      else (n, [])

/-- How exact numbers are. -/
def Printer.accuracy : Printer → Decimal.Precision
  | .shell | .rich => .double
  | .program => .extended

/-- The number that an argument is, and what is wrong with it. -/
def Printer.real (who : Printer) (argument : Octets) : Decimal.Real × List Complaint :=
  match who.octetNumber? argument with
  | some (n, complaints) => (.ofInt n, complaints)
  | none =>
    match argument, Decimal.scan? who.accuracy (argument.dropWhile Char.isWhitespace) with
    | [], _ => (.ofInt 0, [])
    | _, none => (.ofInt 0, [.number argument .notNumber])
    | _, some found =>
      (found.value,
        if found.outOfRange then [.number argument .outOfRange]
        else if !found.rest.isEmpty then [.number argument .notAllOfIt]
        else [])

/-! ## Printing -/

/-- Something that is done while printing. -/
inductive Step : Type where
  | print (text : Octets)
  | complain (c : Complaint)
  deriving Repr

/-- How far the printing is. -/
structure Page : Type where
  /-- The arguments that are left. -/
  arguments : List Octets
  /-- What was done, the latest first. -/
  done : List Step := []
  code : Nat := 0
  /-- The present. -/
  now : Calendar.Instant := ⟨0, 0⟩
  /-- Where times are read. -/
  zone : Calendar.Zone := .universal
  deriving Repr

/-- A part of the printing, which may end all of it. -/
abbrev Printing : Type → Type :=
  Attempting Page Unit

namespace Printing

/-- Prints text. -/
def put (text : Octets) : Printing Unit :=
  modify fun page => { page with done := .print text :: page.done }

/-- Says what is wrong. -/
def complain (who : Printer) (c : Complaint) : Printing Unit := do
  modify fun page => { page with done := .complain c :: page.done }
  if c.isFatal then
    modify fun page => { page with code := who.fatalCode }
    throw ()
  if !c.isWarning who then modify fun page => { page with code := 1 }

/-- Takes the next argument, if there is one. -/
def take? : Printing (Option Octets) := do
  let page ← get
  set { page with arguments := page.arguments.tail }
  pure page.arguments.head?

/-- Ends all printing in the way that an escape asks for. -/
def finish (who : Printer) : Ending → Printing Unit
  | .stop => do
    if who ≠ .shell then modify fun page => { page with code := 0 }
    throw ()
  | .noDigits => complain who .noDigits
  | .noCharacter written => complain who (.noCharacter written)

/-- The greatest width and number of places. -/
def limit : Int :=
  0x7FFFFFFF

/-- A measure, which may be the next argument, and that argument. -/
def resolve (who : Printer) : Measure → Printing (Int × Octets)
  | .fixed n => pure (n, [])
  | .asked => do
    match ← take? with
    | none => pure (0, [])
    | some argument =>
      let (n, complaints) := who.integer true argument
      complaints.forM (complain who)
      pure (n, argument)

/-- The layout that a directive asks for. -/
def layout (who : Printer) (d : Directive) : Printing Layout := do
  let (width, argument) ← resolve who d.width
  if limit < width.natAbs then
    complain who (if d.width = .asked && who = .program then .width argument else .tooWide)
  let flags := if width < 0 then '-' :: d.flags else d.flags
  match d.precision with
  | none => pure ⟨flags, width.natAbs, none⟩
  | some precision =>
    let (places, argument) ← resolve who precision
    if limit < places then
      complain who (if precision = .asked && who = .program then .precision argument else .tooWide)
    pure ⟨flags, width.natAbs, if places < 0 then none else some places.toNat⟩

/-- Prints a number that has no sign, after a mark of its base if that is asked for. -/
def putUnsigned (who : Printer) (l : Layout) (argument mark : Octets) (digits : Nat → Octets) :
    Printing Unit := do
  let (n, complaints) := who.integer false argument
  complaints.forM (complain who)
  let magnitude := if n < 0 then 0x10000000000000000 - n.natAbs else n.natAbs
  let mark := if l.has '#' && magnitude ≠ 0 then mark else []
  put (l.integer mark (digits magnitude))

/-- Prints the time that the next argument tells in seconds, which is usually the present. -/
def putTime (who : Printer) (l : Layout) (format : Octets) : Printing Unit := do
  let (n, complaints) := match ← take? with
    | some argument => who.integer true argument
    | none => (-1, [])
  complaints.forM (complain who)
  let page ← get
  let t := if n = -1 || n = -2 then page.now else ⟨n, 0⟩
  let format := if format.isEmpty then "%X".toList else format
  let shown := (t.reading page.zone).display format
  put (l.pad ((l.precision.map shown.take).getD shown))

/-- Prints the next argument by the layout and the conversion of a directive. -/
def convert (who : Printer) (d : Directive) (l : Layout) : Printing Unit := do
  let cut (text : Octets) : Octets :=
    match l.precision with
    | some n => text.take n
    | none => text
  let argument? ← take?
  let argument := argument?.getD []
  match d.conversion.getD 's' with
  | 's' => put (l.pad (cut argument))
  | 'b' =>
    let escapes := match who with
      | .shell => Escapes.shellText
      | .rich => Escapes.richText
      | .program => Escapes.text
    let (text, ending) := escapes.replace argument
    put (l.pad (cut text))
    ending.forM (finish who)
  | 'Q' => put (l.pad (Shell.Quoting.withBackslashes (cut argument)))
  | 'n' => pure ()
  | 'q' =>
    if who = .rich then put (l.pad (cut (Shell.Quoting.withBackslashes argument)))
    else if Quoting.needsQuotes [] argument && argument?.isSome then put (Quoting.name argument)
    else put argument
  | 'c' => put (l.pad [argument.headD '\x00'])
  | 'u' => putUnsigned who l argument [] (Nat.toDigits 10)
  | 'o' => putUnsigned who l argument ['0'] (Nat.toDigits 8)
  | 'x' => putUnsigned who l argument ['0', 'x'] (Nat.toDigits 16)
  | 'X' => putUnsigned who l argument ['0', 'X'] fun n => (Nat.toDigits 16 n).map Char.toUpper
  | c =>
    if c == 'd' || c == 'i' then
      let (n, complaints) := who.integer true argument
      complaints.forM (complain who)
      put (l.integer (l.sign (n < 0)) (Nat.toDigits 10 n.natAbs))
    else
      let (x, complaints) := who.real argument
      complaints.forM (complain who)
      put (l.float who.accuracy c x)

/-- Goes through a piece of a format. -/
def piece (who : Printer) : FormatPiece → Printing Unit
  | .text octets => put octets
  | .ending e => finish who e
  | .directive d => do
    let l ← layout who d
    match d.time with
    | some format => putTime who l format
    | none => if who.knows d then convert who d l else complain who (.unknownDirective d)

/-- Goes through a format until all arguments are used, at most as often as given. -/
def rounds (who : Printer) (pieces : List FormatPiece) : Nat → Printing Unit
  | 0 => pure ()
  | n + 1 => do
    let before := (← get).arguments.length
    pieces.forM (piece who)
    let left := (← get).arguments
    if !left.isEmpty then
      if left.length = before then
        if who = .program then complain who (.unused (left.headD []))
      else rounds who pieces n

end Printing

/-- What printing arguments by a format comes to. -/
def Printer.page (who : Printer) (format : Octets) (arguments : List Octets)
    (now : Calendar.Instant := ⟨0, 0⟩) (zone : Calendar.Zone := .universal) : Page :=
  let pieces := who.pieces format.length format
  ((Printing.rounds who pieces (arguments.length + 1)).run { arguments, now, zone }).2

/-- What printing arguments by a format prints. -/
def Page.text (page : Page) : Octets :=
  (page.done.reverse.map fun
    | .print text => text
    | .complain _ => []).flatten

/-- Performs steps; of the text in front of a complaint only complete lines have been printed by
then. -/
def performLines (perform : Step → StateM Process Unit) (pending : Octets) :
    List Step → StateM Process Unit
  | [] => say pending
  | .print text :: rest => performLines perform (pending ++ text) rest
  | .complain c :: rest => do
    let kept := (pending.reverse.takeWhile (· ≠ '\n')).reverse
    say (pending.take (pending.length - kept.length))
    perform (.complain c)
    performLines perform kept rest

/-- Prints arguments by a format. The plain shell shows its text after all that is wrong, the rich
one line by line. -/
def Printer.print (who : Printer) (format : Octets) (arguments : List Octets) :
    StateM Process Nat := do
  let p ← get
  let page := who.page format arguments p.now p.zone
  let steps := page.done.reverse
  let perform : Step → StateM Process Unit
    | .print text => say text
    | .complain c =>
      match who with
      | .shell | .rich => complain (c.message who)
      | .program => fault (c.message who)
  match who with
  | .rich => performLines perform [] steps
  | .shell => do
    let (texts, complaints) := steps.partition fun
      | .print _ => true
      | .complain _ => false
    complaints.forM perform
    texts.forM perform
  | .program => steps.forM perform
  pure page.code

/-- Prints arguments by a format, as the program does. -/
def printf : Tool := fun arguments => do
  let arguments :=
    match arguments with
    | ['-', '-'] :: rest => rest
    | rest => rest
  match arguments with
  | [] => do
    misuse "missing operand".toList
    pure 1
  | format :: rest => Printer.program.print format rest

/-- Prints arguments by a format, as the shell does. -/
def shellPrintf : Tool := fun arguments => do
  let refuse (message : String) : StateM Process Nat := do
    complain message.toList
    pure 2
  match arguments with
  | [] | [['-', '-']] => refuse "usage: printf format [arg ...]"
  | ['-', '-'] :: format :: rest => Printer.shell.print format rest
  | ('-' :: c :: _) :: _ => refuse (String.ofList ("Illegal option -".toList ++ [c]))
  | format :: rest => Printer.shell.print format rest

end Fleet.Tools
