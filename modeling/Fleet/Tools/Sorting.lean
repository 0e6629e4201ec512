import Fleet.Decimal.Binary
import Fleet.Text.Octets
import Fleet.Tools.Inputs

/-!
# Orders of lines

The order of names with numbers in them, and the tool that sorts by this and other orders.
-/

/-!
## Order of versions

An order of names with numbers in them: numbers within names are compared by their values, and the
endings of file names count only between names that are the same without them.
-/

namespace Fleet.Tools.Versions

/-- The rank of what stands at the start of a text that is no number: a tilde comes before the end,
the end before letters, and letters before everything else. -/
def rank : Octets → Int
  | [] => -1
  | c :: _ =>
    if c.isDigit then 0
    else if c.isAlpha then c.toNat
    else if c = '~' then -2
    else c.toNat + 256

/-- Whether a text starts with something that is no digit. -/
def startsPlain (text : Octets) : Bool :=
  text.head?.any fun c => !c.isDigit

/-- The digits that a text starts with, without zeros in front, and what follows. -/
def number (text : Octets) : Octets × Octets :=
  let text := text.dropWhile (· == '0')
  let digits := text.takeWhile Char.isDigit
  (digits, text.drop digits.length)

/-- Texts with numbers compared; at most the given number of steps is made. -/
def compareParts : Nat → Octets → Octets → Ordering
  | 0, _, _ => .eq
  | n + 1, a, b =>
    if a.isEmpty && b.isEmpty then .eq
    else if startsPlain a || startsPlain b then
      if rank a < rank b then .lt
      else if rank b < rank a then .gt
      else compareParts n a.tail b.tail
    else
      let (x, a) := number a
      let (y, b) := number b
      if x.length < y.length then .lt
      else if y.length < x.length then .gt
      else if x < y then .lt
      else if y < x then .gt
      else compareParts n a b

/-- Whether an ending of a file name starts here: a dot, a letter, and letters and digits. -/
def startsEnding : Octets → Bool
  | '.' :: c :: _ => c.isAlpha || c == '~'
  | _ => false

/-- Whether nothing but endings follows; at most the given number is looked at. -/
def isEndings : Nat → Octets → Bool
  | 0, text => text.isEmpty
  | n + 1, text =>
    text.isEmpty ||
      (startsEnding text &&
        isEndings n ((text.drop 2).dropWhile fun c => c.isAlphanum || c == '~'))

/-- A file name without its endings. It keeps at least one octet. -/
def stem (name : Octets) : Octets :=
  let lengths := (List.range name.length).map (· + 1)
  let cut := lengths.find? fun n => isEndings name.length (name.drop n)
  name.take (cut.getD name.length)

/-- The order of names: the empty one comes first, then those that start with a dot. -/
def compare (a b : Octets) : Ordering :=
  let rank (name : Octets) : Nat :=
    match name with
    | [] => 0
    | ['.'] => 1
    | ['.', '.'] => 2
    | '.' :: _ => 3
    | _ => 4
  let fuel := 2 * (a.length + b.length) + 2
  match Ord.compare (rank a) (rank b) with
  | .eq =>
    if rank a < 3 then .eq
    else (compareParts fuel (stem a) (stem b)).then (compareParts fuel a b)
  | unlike => unlike

end Fleet.Tools.Versions

/-!
## Sorting lines

The tool `sort`. Lines are compared by keys, parts of them that fields and offsets delimit; letters
say how the text of a key is compared. Lines whose keys are the same are compared as a whole, unless
they are to stay in the order of the input.
-/

namespace Fleet.Tools

open Shell

namespace Sorting

/-- The part of a line by which it is compared. -/
structure Key : Type where
  /-- How many fields there are in front of it; none means the start of the line, whatever blanks
  are skipped. -/
  fields : Option Nat := none
  /-- How many octets of its first field are left out. -/
  offset : Nat := 0
  /-- How many whole fields lie before its end, and how many octets of the next one belong to it;
  none means the end of the line. -/
  stop : Option (Nat × Nat) := none
  /-- Whether blanks in front of the first and the last field are skipped. -/
  startBlanks : Bool := false
  stopBlanks : Bool := false
  /-- How it is compared. -/
  letters : List Char := []
  deriving Repr

namespace Key

/-- Whether a letter was given. -/
def has (k : Key) (letter : Char) : Bool :=
  k.letters.contains letter

/-- Whether nothing is said about how the key is compared. -/
def isPlain (k : Key) : Bool :=
  k.letters.isEmpty && !k.startBlanks && !k.stopBlanks

end Key

/-- Whether an octet separates fields, if none is named. -/
def isBlank (c : Char) : Bool :=
  c == ' ' || c == '\t' || c == '\n'

/-- A line after some of its fields and, if there is one, the separator behind them. -/
def afterFields (separator : Option Char) : Nat → Octets → Octets
  | 0, line => line
  | n + 1, line =>
    match separator with
    | some c => afterFields separator n ((line.dropWhile (· != c)).drop 1)
    | none => afterFields separator n ((line.dropWhile isBlank).dropWhile (!isBlank ·))

/-- A line from the start of a key on. -/
def fromStart (separator : Option Char) (k : Key) (line : Octets) : Octets :=
  let rest := afterFields separator (k.fields.getD 0) line
  (if k.startBlanks then rest.dropWhile isBlank else rest).drop k.offset

/-- A line from the end of a key on, given the whole fields before it and the octets of the next
one. -/
def fromStop (separator : Option Char) (blanks : Bool) (fields octets : Nat) (line : Octets) :
    Octets :=
  match octets, separator with
  | 0, none => afterFields none (fields + 1) line
  | 0, some c => (afterFields separator fields line).dropWhile (· != c)
  | n, _ =>
    let rest := afterFields separator fields line
    (if blanks then rest.dropWhile isBlank else rest).drop n

/-- The text of a key. -/
def textOf (separator : Option Char) (k : Key) (line : Octets) : Octets :=
  let start := fromStart separator k line
  match k.stop with
  | none => start
  | some (fields, octets) =>
    start.take (start.length - (fromStop separator k.stopBlanks fields octets line).length)

/-- Two things compared by a test for less. -/
def comparing {α : Type} (less : α → α → Bool) (a b : α) : Ordering :=
  if less a b then .lt else if less b a then .gt else .eq

/-- Octet strings compared octet by octet. -/
def octets (a b : Octets) : Ordering :=
  comparing (fun a b => decide (a < b)) a b

/-- A decimal number. -/
structure Numeral : Type where
  negative : Bool
  whole : Nat
  /-- The digits behind the point, without zeros at their end. -/
  fraction : Octets
  /-- What follows. -/
  rest : Octets
  deriving Repr

/-- The number that a text starts with, perhaps after blanks; without one it is zero. -/
def Numeral.of (text : Octets) : Numeral :=
  let text := text.dropWhile isBlank
  let negative := text.head? == some '-'
  let text := if negative then text.tail else text
  let whole := text.takeWhile Char.isDigit
  let rest := text.drop whole.length
  let fraction :=
    match rest with
    | '.' :: rest => rest.takeWhile Char.isDigit
    | _ => []
  let rest := if rest.head? == some '.' then rest.drop (fraction.length + 1) else rest
  ⟨negative, number whole, (fraction.reverse.dropWhile (· == '0')).reverse, rest⟩

/-- Whether a number is zero. -/
def Numeral.isZero (d : Numeral) : Bool :=
  d.whole = 0 && d.fraction.isEmpty

/-- Numbers compared by their values. -/
def Numeral.compare (a b : Numeral) : Ordering :=
  let sizes (a b : Numeral) : Ordering :=
    (comparing (fun m n : Nat => m < n) a.whole b.whole).then (octets a.fraction b.fraction)
  match a.negative && !a.isZero, b.negative && !b.isZero with
  | true, true => sizes b a
  | true, false => .lt
  | false, true => .gt
  | false, false => sizes a b

/-- The rank of the letter behind a number, below zero if the number is. -/
def unitRank (d : Numeral) : Int :=
  let letters := "KMGTPEZYRQ".toList
  let rank : Nat :=
    match d.rest with
    | 'k' :: _ => 1
    | c :: _ => if letters.contains c then letters.idxOf c + 1 else 0
    | [] => 0
  if d.isZero then 0 else if d.negative then -(rank : Int) else rank

/-- The number of the month whose name a text starts with, perhaps after blanks; 0 if it starts with
none. -/
def month (text : Octets) : Nat :=
  let names := ["JAN", "FEB", "MAR", "APR", "MAY", "JUN", "JUL", "AUG", "SEP", "OCT", "NOV", "DEC"]
  let name := String.ofList (((text.dropWhile isBlank).take 3).map Char.toUpper)
  if names.contains name then names.idxOf name + 1 else 0

/-- Texts compared as any kind of number: those that are none come first, then what is no value. -/
def floats (a b : Octets) : Ordering :=
  let read (text : Octets) : Option Decimal.Real :=
    (Decimal.scan? .extended (text.dropWhile isBlank)).map (·.value)
  match read a, read b with
  | none, none => .eq
  | none, some _ => .lt
  | some _, none => .gt
  | some x, some y =>
    let rank (z : Decimal.Real) : Nat := if z.isUndefined then 0 else 1
    (comparing Decimal.Real.less x y).then (comparing (fun m n => m < n) (rank x) (rank y))

/-- The texts of two keys compared as the letters say. -/
def Key.compareTexts (k : Key) (a b : Octets) : Ordering :=
  let kept (c : Char) : Bool :=
    if k.has 'd' then c.isAlphanum || isBlank c
    else !k.has 'i' || Quoting.isPrintable c
  let change (text : Octets) : Octets :=
    let text := text.filter kept
    if k.has 'f' then text.map Char.toUpper else text
  let a := change a
  let b := change b
  if k.has 'n' then (Numeral.of a).compare (Numeral.of b)
  else if k.has 'g' then floats a b
  else if k.has 'h' then
    let x := Numeral.of a
    let y := Numeral.of b
    (comparing (fun m n : Int => m < n) (unitRank x) (unitRank y)).then (x.compare y)
  else if k.has 'M' then comparing (fun m n : Nat => m < n) (month a) (month b)
  else if k.has 'V' then Versions.compare a b
  else octets a b

/-- How lines are sorted. -/
structure Manner : Type where
  separator : Option Char := none
  keys : List Key := []
  reversed : Bool := false
  /-- Whether lines whose keys are the same are not compared any further. -/
  byKeysOnly : Bool := false

/-- Two lines compared. -/
def Manner.compare (m : Manner) (a b : Octets) : Ordering :=
  let byKeys := m.keys.foldl (fun (found : Ordering) k =>
    found.then
      (let own := k.compareTexts (textOf m.separator k a) (textOf m.separator k b)
      if k.has 'r' then own.swap else own)) .eq
  let whole := if m.reversed then octets b a else octets a b
  if m.keys.isEmpty then whole
  else if m.byKeysOnly then byKeys
  else byKeys.then whole

/-! ## Options -/

/-- The letters that say how a key is compared, and what follows them. -/
def keyLetters (text : Octets) : List Char × Octets :=
  let letters := text.takeWhile "bdfghiMnRrV".toList.contains
  (letters, text.drop letters.length)

/-- The number that a text starts with and what follows, or what is wrong. -/
def fieldNumber (problem : String) (text : Octets) : Except Octets (Nat × Octets) :=
  let digits := text.takeWhile Char.isDigit
  if digits.isEmpty then
    .error ((problem ++ ": invalid count at start of ").toList ++ Quoting.value text)
  else .ok (min (number digits) numberLimit, text.drop digits.length)

/-- The key that the value of an option describes: a place, letters, and after a comma the place
where it ends. -/
def keyOf (text : Octets) : Except Octets Key := do
  let wrong {α : Type} (problem : String) : Except Octets α :=
    .error ((problem ++ ": invalid field specification ").toList ++ Quoting.value text)
  let (field, rest) ← fieldNumber "invalid number at field start" text
  if field = 0 then wrong "field number is zero"
  let (offset, rest) ←
    match rest with
    | '.' :: rest => do
      let (offset, rest) ← fieldNumber "invalid number after '.'" rest
      if offset = 0 then wrong "character offset is zero"
      pure (offset - 1, rest)
    | rest => pure (0, rest)
  let (letters, rest) := keyLetters rest
  let key : Key :=
    { fields := some (field - 1), offset, startBlanks := letters.contains 'b'
      letters := letters.filter (· != 'b') }
  match rest with
  | [] => pure key
  | ',' :: rest => do
    let (field, rest) ← fieldNumber "invalid number after ','" rest
    if field = 0 then wrong "field number is zero"
    let (octets, rest) ←
      match rest with
      | '.' :: rest => fieldNumber "invalid number after '.'" rest
      | rest => pure (0, rest)
    let (letters, rest) := keyLetters rest
    if !rest.isEmpty then wrong "stray character in field spec"
    pure
      { key with
        stop := some (field - 1, octets)
        stopBlanks := letters.contains 'b'
        letters := key.letters ++ letters.filter (· != 'b') }
  | _ => wrong "stray character in field spec"

/-- The separator of fields that the value of an option names. -/
def separatorOf (text : Octets) : Except Octets Char :=
  match text with
  | [] => .error "empty tab".toList
  | [c] => .ok c
  | ['\\', '0'] => .ok '\x00'
  | text => .error ("multi-character tab ".toList ++ Quoting.value text)

/-- The options of the tool. -/
def known : List KnownOption :=
  [flag 'b' ["ignore-leading-blanks"], flag 'c', flag 'C', flag 'd' ["dictionary-order"],
    flag 'f' ["ignore-case"], flag 'g' ["general-numeric-sort"], flag 'h' ["human-numeric-sort"],
    flag 'i' ["ignore-nonprinting"], valued 'k' ["key"], flag 'm' ["merge"],
    flag 'M' ["month-sort"], flag 'n' ["numeric-sort"], valued 'o' ["output"],
    flag 'r' ["reverse"], flag 'R' ["random-sort"], flag 's' ["stable"],
    valued 'S' ["buffer-size"], valued 't' ["field-separator"], valued 'T' ["temporary-directory"],
    flag 'u' ["unique"], flag 'V' ["version-sort"], flag 'y', flag 'z' ["zero-terminated"],
    named 'K' "check" .perhaps, named 'W' "sort" .value, named 'B' "batch-size" .value,
    named 'P' "parallel" .value, named 'Z' "compress-program" .value,
    named 'D' "random-source" .value, named 'G' "debug"]

/-- The words for how lines are compared, and the letters that they stand for. -/
def kinds : List (String × Char) :=
  [("general-numeric", 'g'), ("human-numeric", 'h'), ("month", 'M'), ("numeric", 'n'),
    ("random", 'R'), ("version", 'V')]

/-- Options with words in them, by the letters that they stand for. -/
def lettersOf (g : Given) : Except Octets Given := do
  let options ← g.options.mapM fun (key, value) => do
    match key, value with
    | 'W', some word => do
      let word ← choiceOf "sort" (kinds.map fun (name, _) => [name]) word
      pure ((kinds.lookup word).getD 'n', none)
    | 'K', some word => do
      let word ← choiceOf "check" [["quiet", "silent"], ["diagnose-first"]] word
      pure (if word = "quiet" then 'C' else 'c', none)
    | 'K', none => pure ('c', none)
    | key, value => pure (key, value)
  pure { g with options }

/-- The letters of a key that cannot be together, in order, if there are any. -/
def incompatible (k : Key) : Option Octets :=
  let kinds := ['g', 'h', 'M', 'n'].filter k.has
  let other := k.has 'V' || k.has 'R' || k.has 'd' || k.has 'i'
  if 1 < kinds.length + (if other then 1 else 0) then
    let letters := "dfghiMnRV".toList.filter k.has
    some (letters.filter fun c => !(c == 'i' && k.has 'd'))
  else none

/-- How lines are sorted, as options say. -/
def mannerOf (g : Given) : Except Octets Manner := do
  let blanks := g.has 'b'
  let common : Key :=
    { startBlanks := blanks, stopBlanks := blanks
      letters := "dfghiMnRrV".toList.filter g.has }
  let separators ← (g.valuesOf 't').mapM separatorOf
  match separators with
  | c :: rest => if rest.any (· != c) then throw "incompatible tabs".toList
  | [] => pure ()
  let own ← (g.valuesOf 'k').mapM keyOf
  let keys := own.map fun k =>
    if k.isPlain then
      { k with startBlanks := blanks, stopBlanks := blanks, letters := common.letters }
    else k
  let isPlain := common.letters.all (· == 'r') && !blanks
  let keys := if keys.isEmpty && !isPlain then [common] else keys
  match keys.findSome? incompatible with
  | some letters => throw ("options '-".toList ++ letters ++ "' are incompatible".toList)
  | none => pure ()
  pure
    { separator := separators.head?, keys, reversed := g.has 'r'
      byKeysOnly := g.has 's' || g.has 'u' }

/-! ## Running -/

/-- Lines without those that are the same as the last one that is kept, which is given. -/
def distinct (m : Manner) : Option Octets → List Octets → List Octets
  | _, [] => []
  | kept, line :: rest =>
    if kept.any fun other => m.compare other line == .eq then distinct m kept rest
    else line :: distinct m (some line) rest

/-- The first line, with its number, that cannot stand after the one before it. -/
def disorder? (m : Manner) (strict : Bool) : Nat → List Octets → Option (Nat × Octets)
  | n, a :: b :: rest =>
    let order := m.compare a b
    if order == .gt || (strict && order == .eq) then some (n + 1, b)
    else disorder? m strict (n + 1) (b :: rest)
  | _, _ => none

/-- Reports that a file could not be dealt with, and ends. -/
def fileProblem (action : String) (path : Octets) (e : OsError) : StateM Process Nat := do
  fault (action.toList ++ ": ".toList ++ Quoting.lead path ++ ": ".toList ++
    e.description.toList)
  pure 2

/-- The contents of files, or the code after the first that cannot be read. -/
def readAll : List Octets → StateM Process (Except Nat (List Octets))
  | [] => pure (.ok [])
  | path :: rest => do
    match ← readSource path with
    | .ok text => return (← readAll rest).map (text :: ·)
    | .error u =>
      let action := if u.error = .badDescriptor then "stat failed" else "read failed"
      .error <$> fileProblem action path u.error

/-- Prints sorted lines, or writes them to a file. -/
def deliver (g : Given) (text : Octets) : StateM Process Nat := do
  match g.value? 'o' with
  | some path =>
    match (← get).save path text.toBytes with
    | .ok p =>
      set p
      pure 0
    | .error e => fileProblem "open failed" path e
  | none =>
    say text
    match (← get).refused with
    | none => pure 0
    | some e => do
      modify fun p => { p with refused := none }
      let _ ← fileProblem "fflush failed" "standard output".toList e
      fault "write error".toList
      pure 2

/-- Sorts, merges or checks the lines of files. -/
def runOn (g : Given) (m : Manner) : StateM Process Nat := do
  let paths := if g.operands.isEmpty then [['-']] else g.operands
  let mark := lineMark g
  let checks := g.has 'c' || g.has 'C'
  let p ← get
  let unreadable := paths.findSome? fun path =>
    match if isInput path then .ok (.sink) else entryOf p path with
    | .ok _ => none
    | .error e => some (path, e)
  match unreadable with
  | some (path, e) => fileProblem (if checks then "open failed" else "cannot read") path e
  | none =>
    let closed := p.inputFault? == some .badDescriptor && g.operands.isEmpty
    let output := (g.value? 'o').filter fun path => !(entryOf p path).isOk
    let opened := match output with
      | some path => p.save path []
      | none => .ok p
    match opened with
    | .error e => fileProblem "open failed" (output.getD []) e
    | .ok p => do
      if !closed then set p
      match ← readAll paths with
      | .error code => pure code
      | .ok texts =>
        let files := texts.map (recordsOf mark)
        if checks then
          match disorder? m (g.has 'u') 1 files.flatten with
          | none => pure 0
          | some (n, line) => do
            if !g.has 'C' then
              fault ((paths.headD []) ++ ':' :: decimal n ++ ": disorder: ".toList ++ line)
            pure 1
        else
          let before (a b : Octets) : Bool := m.compare a b != .gt
          let lines :=
            if g.has 'm' then files.foldl (fun merged lines => merged.merge lines before) []
            else files.flatten.mergeSort before
          deliver g (unrecords mark (if g.has 'u' then distinct m none lines else lines))

/-- Sorts as options say. -/
def run (g : Given) : StateM Process Nat :=
  orMisuse (lettersOf g) fun g =>
    orFault (mannerOf g) (fun m => do
      let outputs := g.valuesOf 'o'
      let letter := if g.has 'C' then "C" else "c"
      let checks := g.has 'c' || g.has 'C'
      let refuse (message : Octets) : StateM Process Nat := do
        fault message
        pure 2
      if outputs.any fun path => path != outputs.headD [] then
        refuse "multiple output files specified".toList
      else if g.has 'c' && g.has 'C' then refuse "options '-cC' are incompatible".toList
      else if checks && 1 < g.operands.length then
        refuse ("extra operand ".toList ++ Quoting.value (g.operands.getD 1 []) ++
          (" not allowed with -" ++ letter).toList)
      else if checks && !outputs.isEmpty then
        refuse ("options '-" ++ letter ++ "o' are incompatible").toList
      else runOn g m) 2

end Sorting

/-- Prints lines in order. -/
def sort : Tool :=
  withOptions Sorting.known Sorting.run 2

end Fleet.Tools
