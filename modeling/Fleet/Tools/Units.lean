import Fleet.Tools.Fields
import Fleet.Tools.Formats

/-!
# Numbers with units

A tool that writes numbers with letters for large factors, or without such letters. Numbers are
fractions, so that nothing is lost on the way.
-/

namespace Fleet.Tools

open Shell

/-- A number: its sign, and a fraction. -/
structure Quantity : Type where
  negative : Bool
  top : Nat
  bottom : Nat
  deriving Repr

/-- How numbers are made whole. -/
inductive Rounding : Type where
  | up
  | down
  | fromZero
  | towardsZero
  | nearest
  deriving Repr, DecidableEq

namespace Quantity

/-- A power. -/
def power (base : Nat) : Nat → Nat
  | 0 => 1
  | n + 1 => base * power base n

/-- A number times a fraction. -/
def scaled (a : Quantity) (top bottom : Nat) : Quantity :=
  { a with top := a.top * top, bottom := a.bottom * bottom }

/-- Whether a number is at least as far from zero as a whole number. -/
def reaches (a : Quantity) (n : Nat) : Bool :=
  n * a.bottom ≤ a.top

/-- A number made whole. -/
def rounded (rounding : Rounding) (a : Quantity) : Quantity :=
  let low := a.top / a.bottom
  let high := (a.top + a.bottom - 1) / a.bottom
  let n := match rounding with
    | .up => if a.negative then low else high
    | .down => if a.negative then high else low
    | .fromZero => high
    | .towardsZero => low
    | .nearest => (2 * a.top + a.bottom) / (2 * a.bottom)
  { a with top := n, bottom := 1 }

/-- A number divided by a base until it is smaller, and how often; at most the given number of
times. -/
def reduced (base : Nat) : Nat → Quantity → Quantity × Nat
  | 0, a => (a, 0)
  | n + 1, a =>
    if a.reaches base then
      let (a, power) := reduced base n (a.scaled 1 base)
      (a, power + 1)
    else (a, 0)

/-- The digits of a number with as many places as are wanted; a half goes to the even side. -/
def digits (a : Quantity) (places : Nat) : Octets :=
  let top := a.top * power 10 places
  let low := top / a.bottom
  let twice := 2 * (top % a.bottom)
  let n := if a.bottom < twice || (twice = a.bottom && low % 2 = 1) then low + 1 else low
  let text := decimal n
  let text := List.replicate (places + 1 - text.length) '0' ++ text
  let whole := text.take (text.length - places)
  let sign : Octets := if a.negative then ['-'] else []
  sign ++ if places = 0 then whole else whole ++ '.' :: text.drop whole.length

end Quantity

namespace Units

/-- How letters for factors are used. -/
inductive Scale : Type where
  | none
  | auto
  | decimal
  | binary
  /-- With an `i` after the letter. -/
  | marked
  deriving Repr, DecidableEq

/-- The letters for factors, in their order. -/
def letters : Octets :=
  "KMGTPEZYRQ".toList

/-- What happens to what is no number. -/
inductive Strictness : Type where
  | abort
  | fail
  | warn
  | ignore
  deriving Repr, DecidableEq

/-- How numbers are read and written. -/
structure Plan : Type where
  source : Scale
  target : Scale
  sourceUnit : Nat
  targetUnit : Nat
  rounding : Rounding
  suffix : Octets
  /-- How wide numbers are; they stand on the left if the second part says so. -/
  width : Nat × Bool
  /-- How wide numbers are with zeros in front of them. -/
  zeros : Nat
  places : Option Nat
  around : Octets × Octets
  delimiter : Option Char
  spans : List Fields.Span
  strictness : Strictness
  mark : Char
  header : Nat

/-- Why a text is no number. -/
inductive Fault : Type where
  | noNumber
  | tooLarge
  | suffix
  | forbidden
  | unmarked
  deriving Repr, DecidableEq

/-- What is said about a text that is no number. -/
def Fault.message (text : Octets) : Fault → Octets
  | noNumber => "invalid number: ".toList ++ Quoting.value text
  | tooLarge => "value too large to be converted: ".toList ++ Quoting.value text
  | suffix => "invalid suffix in input: ".toList ++ Quoting.value text
  | forbidden =>
    "rejecting suffix in input: ".toList ++ Quoting.value text ++ " (consider using --from)".toList
  | unmarked =>
    "missing 'i' suffix in input: ".toList ++ Quoting.value text ++ " (e.g Ki/Mi/Gi)".toList

/-- A number, its places, and what follows it. -/
def scan (text : Octets) : Except Fault (Quantity × Nat × Octets) :=
  let negative := text.head? == some '-'
  let body := if negative then text.tail else text
  let whole := body.takeWhile Char.isDigit
  let after := body.drop whole.length
  let (places, rest) := match after with
    | '.' :: more =>
      let places := more.takeWhile Char.isDigit
      (some places, more.drop places.length)
    | rest => (none, rest)
  if whole.isEmpty && (places.getD []).isEmpty || places == some [] then .error .noNumber
  else if 33 < (whole.dropWhile (· == '0')).length then .error .tooLarge
  else
    let places := places.getD []
    .ok (⟨negative, number (whole ++ places), Quantity.power 10 places.length⟩, places.length, rest)

/-- Reads a number with a letter for a factor. -/
def Plan.read (plan : Plan) (text : Octets) : Except Octets (Quantity × Nat) := do
  let fail {α : Type} (f : Fault) : Except Octets α := .error (f.message text)
  let (a, places, rest) ← (scan text).mapError (Fault.message text)
  match rest.dropWhile fun c => c == ' ' || c == '\t' with
  | [] => if plan.source = .marked then fail .unmarked else pure (a, places)
  | c :: rest =>
    match letters.idxOf? c with
    | none => fail .suffix
    | some i =>
      if plan.source = .none then fail .forbidden
      let isMarked := rest.head? == some 'i'
      if plan.source = .marked && !isMarked then fail .unmarked
      let (binary, rest) :=
        match plan.source with
        | .auto => if isMarked then (true, rest.tail) else (false, rest)
        | .marked => (true, rest.tail)
        | .binary => (true, rest)
        | _ => (false, rest)
      if !rest.isEmpty then
        .error ("invalid suffix in input ".toList ++ Quoting.value text ++ ": ".toList ++
          Quoting.value rest)
      else pure (a.scaled (Quantity.power (if binary then 1024 else 1000) (i + 1)) 1, 0)

/-- A number with a letter for a factor. -/
def Plan.written (plan : Plan) (a : Quantity) (places : Nat) : Octets :=
  let padded (text : Octets) : Octets :=
    let space := plan.zeros - text.length
    if text.head? == some '-' then '-' :: List.replicate space '0' ++ text.tail
    else List.replicate space '0' ++ text
  match plan.target with
  | .none | .auto =>
    let whole := (a.scaled (Quantity.power 10 places) 1).rounded plan.rounding
    padded ((whole.scaled 1 (Quantity.power 10 places)).digits places)
  | target =>
    let base := if target = .decimal then 1000 else 1024
    let (a, power) := a.reduced base 40
    let adjusted := match plan.places with
      | some places => min (power * 3) places
      | none => if a.reaches 10 then 0 else 1
    let factor := Quantity.power 10 adjusted
    let a := ((a.scaled factor 1).rounded plan.rounding).scaled 1 factor
    let (a, power) := if a.reaches base then (a.scaled 1 base, power + 1) else (a, power)
    let shows := a.top ≠ 0 && !a.reaches 10 && power ≠ 0
    let places := plan.places.getD (if shows then 1 else 0)
    let letter : Octets :=
      if power = 0 then []
      else (letters[power - 1]?).toList ++ if target = .marked then ['i'] else []
    padded (a.digits places) ++ letter

/-- What a field becomes, or why it is no number. -/
def Plan.convert (plan : Plan) (place : Nat) (text : Octets) : Except Octets Octets := do
  let own :=
    if !plan.suffix.isEmpty && plan.suffix.length < text.length &&
        plan.suffix.isSuffixOf text then
      text.take (text.length - plan.suffix.length)
    else text
  let bare := own.dropWhile fun c => c == ' ' || c == '\t'
  let width :=
    if plan.width.1 = 0 && plan.delimiter.isNone && (bare.length < own.length || 1 < place) then
      own.length
    else plan.width.1
  let (a, places) ← plan.read bare
  let a := a.scaled plan.sourceUnit plan.targetUnit
  let places := plan.places.getD places
  let size := (a.reduced 10 100).2
  let shown : Octets :=
    (Printer.program.page "%g".toList [a.digits 40]).text
  if plan.target = .none && 18 < size + places then
    if places ≠ 0 then
      throw ("value/precision too large to be printed: '".toList ++ shown ++
        '/' :: decimal places ++
        "' (consider using --to)".toList)
    else
      throw ("value too large to be printed: '".toList ++ shown ++ "' (consider using --to)".toList)
  if 32 < size then
    throw ("value too large to be printed: '".toList ++ shown ++
      "' (cannot handle values > 999Q)".toList)
  let result := plan.written a places ++ plan.suffix
  let space := List.replicate (width - result.length) ' '
  let result := if plan.width.2 then result ++ space else space ++ result
  pure (plan.around.1 ++ result ++ plan.around.2)

/-- The fields of a line, at most the given number. -/
def Plan.fields (plan : Plan) : Nat → Octets → List Octets
  | 0, text => [text]
  | n + 1, text =>
    let own := match plan.delimiter with
      | some c => text.takeWhile (· ≠ c)
      | none =>
        let blank := text.takeWhile isBlank
        blank ++ (text.drop blank.length).takeWhile fun c => !isBlank c
    match text.drop own.length with
    | [] => [own]
    | _ :: rest => own :: fields plan n rest
where
  /-- Whether a character stands between fields. -/
  isBlank (c : Char) : Bool := c == ' ' || c == '\t' || c == '\n'

/-- Prints the fields of a line; gives whether all were numbers, or nothing if that ends the work.
-/
def Plan.line (plan : Plan) : Nat → List Octets → StateM Process (Option Bool)
  | _, [] => pure (some true)
  | place, text :: rest => do
    let print (shown : Octets) : StateM Process Unit :=
      say (shown ++ if rest.isEmpty then [] else [plan.delimiter.getD ' '])
    if !plan.spans.any (·.has place) then
      print text
      line plan (place + 1) rest
    else
      match plan.convert place text with
      | .ok shown => do
        print shown
        line plan (place + 1) rest
      | .error message => do
        if plan.strictness ≠ .ignore then fault message
        if plan.strictness = .abort then return none
        print text
        return (← line plan (place + 1) rest).map fun _ => false

/-- Prints lines; those that are part of the header stay as they are. -/
def Plan.lines (plan : Plan) : Nat → List Octets → StateM Process (Option Bool)
  | _, [] => pure (some true)
  | header, text :: rest => do
    let ended := text.getLast? == some plan.mark
    let own := if ended then text.dropLast else text
    let good ← match header with
      | _ + 1 => do
        say own
        pure (some true)
      | 0 => plan.line 1 (plan.fields (own.length + 1) own)
    match good with
    | none => pure none
    | some good => do
      if ended then say [plan.mark]
      return (← lines plan (header - 1) rest).map (good && ·)

/-! ## Options -/

/-- The parts of a format for numbers. -/
structure Shape : Type where
  before : Octets := []
  after : Octets := []
  zero : Bool := false
  grouped : Bool := false
  width : Int := 0
  places : Option Nat := none

/-- The text in front of a directive, and the rest. -/
def plainStart : Octets → Option (Octets × Octets)
  | '%' :: '%' :: rest => (plainStart rest).map fun (a, b) => ('%' :: a, b)
  | '%' :: rest => some ([], rest)
  | c :: rest => (plainStart rest).map fun (a, b) => (c :: a, b)
  | [] => none

/-- Whether there is another directive. -/
def hasDirective : Octets → Bool
  | '%' :: '%' :: rest => hasDirective rest
  | '%' :: _ => true
  | _ :: rest => hasDirective rest
  | [] => false

/-- Reads a format. -/
def shapeOf (format : Octets) : Except Octets Shape := do
  let about (after : String) : Octets := "format ".toList ++ Quoting.value format ++ after.toList
  match plainStart format with
  | none => throw (about " has no % directive")
  | some (before, rest) =>
    let flags := rest.takeWhile " '0".toList.contains
    let rest := rest.drop flags.length
    let negative := rest.head? == some '-'
    let digits := (if negative then rest.tail else rest).takeWhile Char.isDigit
    let rest := if digits.isEmpty then rest
      else rest.drop (digits.length + if negative then 1 else 0)
    if rest.isEmpty then throw (about " ends in %")
    let (places, rest) ← match rest with
      | '.' :: more =>
        let digits := more.takeWhile Char.isDigit
        if digits.isEmpty && more.head?.any fun c => c == '-' || c == '+' || c == ' ' then
          throw ("invalid precision in ".toList ++ about "")
        else pure (some (number digits), more.drop digits.length)
      | rest => pure (none, rest)
    match rest with
    | 'f' :: after =>
      if hasDirective after then throw (about " has too many % directives")
      let width : Int := if negative then -(number digits : Int) else number digits
      pure
        { before, after, width, places
          zero := flags.contains '0'
          grouped := flags.contains '\'' }
    | _ =>
      throw ("invalid ".toList ++ about ", directive must be %[0]['][-][N][.][N]f")

/-- The scale that a word names. -/
def scaleOf (word : String) : Scale :=
  if word = "auto" then .auto
  else if word = "si" then .decimal
  else if word = "iec" then .binary
  else if word = "iec-i" then .marked
  else .none

/-- A factor, perhaps with a letter. -/
def unitOf (text : Octets) : Except Octets Nat :=
  let digits := text.takeWhile Char.isDigit
  let bad : Except Octets Nat := .error ("invalid unit size: ".toList ++ Quoting.value text)
  let n := number digits
  if digits.isEmpty || n = 0 then bad
  else
    match text.drop digits.length with
    | [] => .ok n
    | [c] =>
      match letters.idxOf? c with
      | some i => .ok (n * Quantity.power 1000 (i + 1))
      | none => bad
    | [c, 'i'] =>
      match letters.idxOf? c with
      | some i => .ok (n * Quantity.power 1024 (i + 1))
      | none => bad
    | _ => bad

/-- How numbers are read and written, by the options; whether a mistake is a misuse is said with
it. -/
def planOf (g : Given) : Except (Octets × Bool) Plan := do
  let misused {α : Type} (value : Except Octets α) : Except (Octets × Bool) α :=
    value.mapError (·, true)
  let wrong {α : Type} (value : Except Octets α) : Except (Octets × Bool) α :=
    value.mapError (·, false)
  let word (key : Char) (option : String) (words : List String) : Except (Octets × Bool) String :=
    match g.value? key with
    | none => pure (words.headD "")
    | some text => misused (choiceOf option (words.map ([·])) text)
  let source ← word 'F' "from" ["none", "auto", "si", "iec", "iec-i"]
  let target ← word 'T' "to" ["none", "si", "iec", "iec-i"]
  let method ← match g.value? 'R' with
    | none => pure "from-zero"
    | some text =>
      misused (choiceOf "round"
        [["up"], ["down"], ["from-zero"], ["towards-zero"], ["nearest"]] text)
  let strictness ← word 'I' "invalid" ["abort", "fail", "warn", "ignore"]
  let amount (key : Char) : Except (Octets × Bool) Nat :=
    match g.value? key with
    | none => pure 1
    | some text => wrong (unitOf text)
  let sourceUnit ← amount 'f'
  let targetUnit ← amount 't'
  let padding ← match g.value? 'P' with
    | none => pure 0
    | some text =>
      let digits := if text.head? == some '-' then text.tail else text
      if digits.isEmpty || !digits.all Char.isDigit || number digits = 0 then
        throw ("invalid padding value ".toList ++ Quoting.value text, false)
      else pure (if text.head? == some '-' then -(number digits : Int) else number digits)
  let header ← match (g.options.find? fun (key, _) => key == 'H').map Prod.snd with
    | none => pure 0
    | some none => pure 1
    | some (some text) =>
      if text.isEmpty || !text.all Char.isDigit || number text = 0 then
        throw ("invalid header value ".toList ++ Quoting.value text, false)
      else pure (number text)
  let delimiter ← match g.value? 'd' with
    | none => pure none
    | some [c] => pure (some c)
    | some [] => pure (some '\x00')
    | some _ => throw ("the delimiter must be a single character".toList, false)
  let shape ← match g.value? 'O' with
    | none => pure ({} : Shape)
    | some format => wrong (shapeOf format)
  if g.has 'G' && g.has 'O' then
    throw ("--grouping cannot be combined with --format".toList, false)
  if (g.has 'G' || shape.grouped) && scaleOf target ≠ .none then
    throw ("grouping cannot be combined with --to".toList, false)
  let spans ← match g.value? 'L' with
    | none => pure [⟨1, some 1⟩]
    | some list =>
      if list = ['-'] then pure [⟨1, none⟩]
      else misused ((Fields.spans {} list).mapError (Fields.Fault.message true))
  let width := if shape.width ≠ 0 && !(shape.zero && 0 < shape.width) then shape.width else padding
  pure
    { source := scaleOf source
      target := scaleOf target
      sourceUnit, targetUnit, delimiter, spans, header
      rounding :=
        if method = "up" then .up
        else if method = "down" then .down
        else if method = "towards-zero" then .towardsZero
        else if method = "nearest" then .nearest
        else .fromZero
      suffix := (g.value? 'S').getD []
      width := (width.natAbs, width < 0)
      zeros := if shape.zero && 0 < shape.width then shape.width.natAbs else 0
      places := shape.places
      around := (shape.before, shape.after)
      strictness :=
        if strictness = "fail" then .fail
        else if strictness = "warn" then .warn
        else if strictness = "ignore" then .ignore
        else .abort
      mark := lineMark g }

end Units

/-- Writes numbers with letters for large factors, or without. -/
def numfmt : Tool :=
  withOptions [valued 'd' ["delimiter"], named 'L' "field" .value, named 'O' "format" .value,
    named 'F' "from" .value, named 'f' "from-unit" .value, named 'G' "grouping",
    named 'H' "header" .perhaps, named 'I' "invalid" .value, named 'P' "padding" .value,
    named 'R' "round" .value, named 'S' "suffix" .value, named 'T' "to" .value,
    named 't' "to-unit" .value, flag 'z' ["zero-terminated"], named 'D' "debug"] fun g => do
  match Units.planOf g with
  | .error (message, true) => do
    misuse message
    pure 1
  | .error (message, false) => do
    fault message
    pure 1
  | .ok plan =>
    if g.has 'D' && plan.source = .none && plan.target = .none && (g.value? 'P').isNone then
      fault "no conversion option specified".toList
    let result ← if g.operands.isEmpty then do
        match ← readSource ['-'] with
        | .error u => do
          fault ("error reading input: ".toList ++ u.error.description.toList)
          pure (some true)
        | .ok text => plan.lines plan.header (keepEnds plan.mark text)
      else plan.lines 0 (g.operands.map (· ++ [plan.mark]))
    match result with
    | none => pure 2
    | some good => pure (if good || plan.strictness ≠ .fail then 0 else 2)

end Fleet.Tools
