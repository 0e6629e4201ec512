import Fleet.Awk.Tokens
import Fleet.Shell.Process
import Fleet.Tools.Layout
import Std.Data.HashMap

/-!
# Values and tables of programs

What variables of a program hold: single values, or tables of them.
-/

/-!
## Values of programs

A value is a number or a text, each of which can be taken for the other. Text that comes from
outside counts as a number if it looks like one.
-/

namespace Fleet.Awk

open Shell (decimal)
open Tools (Layout)

/-- A value. -/
inductive Value : Type where
  | unset
  | number (x : Float)
  | text (octets : Octets)
  /-- Text from outside. -/
  | input (octets : Octets)
  deriving Repr

/-- Whether an octet separates words. -/
def isBlank (c : Char) : Bool :=
  c == ' ' || c == '\t' || c == '\n'

/-- The number that a text starts with; 0 if it starts with none. -/
def leadingNumber (text : Octets) : Float :=
  match Decimal.scan? .double (text.dropWhile Char.isWhitespace) with
  | some found => found.value.toFloat
  | none => 0

/-- The number that a text is, apart from blanks around it. -/
def wholeNumber? (text : Octets) : Option Float :=
  match Decimal.scan? .double (text.dropWhile Char.isWhitespace) with
  | some found => if found.rest.all Char.isWhitespace then some found.value.toFloat else none
  | none => none

/-- The whole number nearest to 0 of those between a number and 0. -/
def truncated (x : Float) : Float :=
  if x < 0 then x.ceil else x.floor

/-- The bound of whole numbers. -/
def wholeLimit : Float :=
  Float.ofNat 0x8000000000000000

/-- A number as a whole number; those that are too great or too small become the nearest there is.
-/
def toInteger (x : Float) : Int :=
  if x ≥ wholeLimit then 0x7FFFFFFFFFFFFFFF
  else if x > -wholeLimit then
    if x < 0 then -((-x).toUInt64.toNat : Int) else x.toUInt64.toNat
  else -0x8000000000000000

/-- A whole number if a number is one that can be written as such. -/
def whole? (x : Float) : Option Int :=
  if x ≥ wholeLimit then
    let n := x.toUInt64.toNat
    if Float.ofNat n == x then some n else none
  else
    let n := toInteger x
    if Float.ofInt n == x then some n else none

/-- A number as it is written with fractions. -/
def real (x : Float) : Decimal.Real :=
  if x.isNaN then ⟨true, .undefined⟩ else .ofFloat x

namespace Value

/-- The number that a value is taken for. -/
def toNumber : Value → Float
  | unset => 0
  | number x => x
  | text octets | input octets => leadingNumber octets

/-- Whether a value holds as a condition. -/
def holds : Value → Bool
  | unset => false
  | number x => x != 0
  | text octets => !octets.isEmpty
  | input octets =>
    match wholeNumber? octets with
    | some x => x != 0
    | none => !octets.isEmpty

/-- The number that a value counts as in comparisons, unless it counts as a text. -/
def asNumber? : Value → Option Float
  | unset => some 0
  | number x => some x
  | text _ => none
  | input octets => wholeNumber? octets

/-- A value that is 1 or 0. -/
def ofBool (b : Bool) : Value :=
  number (if b then 1 else 0)

/-- A value that is a natural number. -/
def ofNat (n : Nat) : Value :=
  number (Float.ofNat n)

end Value

/-! ## Formats -/

/-- What is wrong with a format. -/
inductive FormatFault : Type where
  | tooFew
  | improper (number : Nat)
  deriving Repr, DecidableEq

/-- What is said about a format that is given to a function. -/
def FormatFault.message (function : String) (format : Octets) : FormatFault → Octets
  | .tooFew =>
    ("not enough arguments passed to " ++ function ++ "(\"").toList ++ format ++ "\")".toList
  | .improper number =>
    ("improper conversion(number " ++ toString number ++ ") in " ++ function ++ "(\"").toList ++
      format ++ "\")".toList

/-- A number by a layout and a letter. -/
def numeral (l : Layout) (conversion : Char) (x : Float) : Octets :=
  if conversion = 'd' || conversion = 'i' then
    let n : Int :=
      if x ≥ wholeLimit then x.toUInt64.toNat
      else if x < -wholeLimit then -0x7FFFFFFFFFFFFFFF
      else toInteger x
    l.integer (l.sign (n < 0)) (Nat.toDigits 10 n.natAbs)
  else if "eEgGf".toList.contains conversion then l.float .double conversion (real x)
  else
    let n := if x ≥ wholeLimit then x.toUInt64.toNat
      else ((toInteger x) % 0x10000000000000000).toNat
    let mark (text : String) : Octets := if l.has '#' && n ≠ 0 then text.toList else []
    match conversion with
    | 'o' => l.integer (mark "0") (Nat.toDigits 8 n)
    | 'x' => l.integer (mark "0x") (Nat.toDigits 16 n)
    | 'X' => l.integer (mark "0X") ((Nat.toDigits 16 n).map Char.toUpper)
    | _ => l.integer [] (Nat.toDigits 10 n)

/-- The octet that a value stands for. -/
def octetOf (v : Value) : Char :=
  let ofNumber (x : Float) : Char := Char.ofNat ((toInteger x) % 256).toNat
  match v with
  | .unset => '\x00'
  | .number x => ofNumber x
  | .text octets => octets.headD '\x00'
  | .input octets =>
    match wholeNumber? octets with
    | some x => ofNumber x
    | none => octets.headD '\x00'

/-- A width or a number of places in a format, or the next value in its place; with it the values
and the format that are left. -/
def measure (values : List Value) : Octets → Option Int × List Value × Octets
  | '*' :: rest => (values.head?.map fun v => toInteger v.toNumber, values.tail, rest)
  | text =>
    let digits := text.takeWhile Char.isDigit
    (if digits.isEmpty then none else some (Tools.ofDigits 10 digits), values,
      text.drop digits.length)

/-- What values are in a format, at most the given number of octets of it; `number` counts the
directives. What has been written before a fault comes with it. -/
def formatFrom (toText : Value → Octets) : Nat → Nat → List Value → Octets →
    Octets × Option FormatFault
  | 0, _, _, _ => ([], none)
  | _, _, _, [] => ([], none)
  | n + 1, number, values, '%' :: '%' :: rest =>
    let (text, fault) := formatFrom toText n number values rest
    ('%' :: text, fault)
  | n + 1, number, values, '%' :: rest =>
    let isFlag (c : Char) : Bool := "-+ #0".toList.contains c
    let flags := rest.takeWhile isFlag
    let (width, values, rest) := measure values (rest.drop flags.length)
    let (precision, values, rest) :=
      match rest with
      | '.' :: rest =>
        let (precision, values, rest) := measure values rest
        (some (precision.getD 0), values, rest)
      | rest => (none, values, rest)
    let width := width.getD 0
    let l : Layout :=
      ⟨if width < 0 then '-' :: flags else flags, width.natAbs,
        precision.bind fun n => if n < 0 then none else some n.toNat⟩
    let sizes := rest.takeWhile fun c => c == 'l' || c == 'h'
    match values, rest.drop sizes.length with
    | [], _ => ([], some .tooFew)
    | _, [] => ([], some (.improper number))
    | v :: values, c :: rest =>
      let cut (text : Octets) : Octets :=
        match l.precision with
        | some count => text.take count
        | none => text
      let written : Option Octets :=
        if "dioxXu".toList.contains c then some (numeral l c v.toNumber)
        else if !sizes.isEmpty then none
        else if "eEgGf".toList.contains c then some (numeral l c v.toNumber)
        else if c = 's' then some (l.pad (cut (toText v)))
        else if c = 'c' then some (l.pad [octetOf v])
        else none
      match written with
      | none => ([], some (.improper number))
      | some written =>
        let (text, fault) := formatFrom toText n (number + 1) values rest
        (written ++ text, fault)
  | n + 1, number, values, c :: rest =>
    let (text, fault) := formatFrom toText n number values rest
    (c :: text, fault)

/-- What values are in a format, and what is wrong with it. -/
def format (toText : Value → Octets) (pattern : Octets) (values : List Value) :
    Octets × Option FormatFault :=
  let pattern := pattern.takeWhile (· ≠ '\x00')
  formatFrom toText (pattern.length + 1) 1 values pattern

/-- A number as text; a format says how fractions are written. -/
def textOfNumber (pattern : Octets) (x : Float) : Octets :=
  match whole? x with
  | some n => if n < 0 then '-' :: decimal n.natAbs else decimal n.natAbs
  | none => (format (fun _ => []) pattern [.number x]).1

namespace Value

/-- The text that a value is taken for. -/
def toText (pattern : Octets) : Value → Octets
  | unset => []
  | number x => textOfNumber pattern x
  | text octets | input octets => octets

end Value

/-- Compares octets. -/
def compareOctets : Octets → Octets → Ordering
  | [], [] => .eq
  | [], _ => .lt
  | _, [] => .gt
  | a :: as, b :: bs => if a < b then .lt else if b < a then .gt else compareOctets as bs

/-- Compares values: as numbers if both count as such, otherwise as texts. -/
def compare (pattern : Octets) (a b : Value) : Ordering :=
  match a.asNumber?, b.asNumber? with
  | some x, some y =>
    match a, b with
    | .unset, .unset => .eq
    | _, _ => if x < y then .lt else if y < x then .gt else .eq
  | _, _ => compareOctets (a.toText pattern) (b.toText pattern)

/-- Whether values are in a relation. -/
def Relation.holds (pattern : Octets) (r : Relation) (a b : Value) : Bool :=
  match r, compare pattern a b with
  | .less, .lt | .atMost, .lt | .atMost, .eq | .equal, .eq | .unequal, .lt | .unequal, .gt
  | .greater, .gt | .atLeast, .gt | .atLeast, .eq => true
  | _, _ => false

/-- What is left of a number after it has been divided by another one as often as that goes. -/
def remainder (x y : Float) : Float :=
  match (Decimal.Real.ofFloat x).size, (Decimal.Real.ofFloat y).size with
  | .finite a, .finite b =>
    if b.isZero then 0.0 / 0.0
    else
      let left := (a.numerator * b.denominator) % (b.numerator * a.denominator)
      let r : Decimal.Real := ⟨x < 0, .finite ⟨left, a.denominator * b.denominator⟩⟩
      r.toFloat
  | .finite _, .infinite => x
  | _, _ => 0.0 / 0.0

/-- What an operation makes of two numbers. -/
def Operation.apply (x y : Float) : Operation → Float
  | .add => x + y
  | .subtract => x - y
  | .multiply => x * y
  | .divide => x / y
  | .remainder => Awk.remainder x y
  | .power => x.pow y

end Fleet.Awk

/-!
## Tables of programs

A table gives values to keys, and lists its keys in an order that programs can see. The keys stand
in lists, by a hash of their text and by the number that they are; the key that was used last comes
first in its list. There are more lists the more keys there are. What a text is split into is a
table without lists, until a key is used that is not the number of a part.
-/

namespace Fleet.Awk

/-- What an entry is looked up by. -/
inductive Key : Type where
  | text (octets : Octets)
  | number (n : Int)
  deriving Repr, DecidableEq

/-- A whole number as text. -/
def integerText (n : Int) : Octets :=
  if n < 0 then '-' :: Shell.decimal n.natAbs else Shell.decimal n.natAbs

/-- The text of a key. -/
def Key.toText : Key → Octets
  | text octets => octets
  | number n => integerText n

/-- The lists of keys of a table. -/
structure Lists : Type where
  /-- How many lists there are of either kind: a power of two. -/
  size : Nat
  /-- The keys by the hashes of their texts. -/
  texts : Array (List Octets)
  /-- The keys that have been used as numbers, by these. -/
  numbers : Array (List Int)
  /-- Whether all keys are listed by their texts. -/
  byText : Bool
  deriving Repr

/-- Octets are hashed as the characters they are. -/
instance hashableOctets : Hashable Octets :=
  @instHashableList Char instHashableChar

/-- A table. -/
structure Table : Type where
  cells : Std.HashMap Octets Value := {}
  /-- How many keys there are. -/
  count : Nat := 0
  /-- Nothing if the keys are the numbers from 1 to the count. -/
  lists : Option Lists := none
  deriving Inhabited

/-- The hash of a text. -/
def hash (text : Octets) : Nat :=
  text.foldl (fun h c => (Nat.xor h c.toNat * 16777619) % 0x100000000) 2166136261

/-- How many lists a table has at first. -/
def firstSize : Nat :=
  64

/-- How many keys lists have on average at most. -/
def loadLimit : Nat :=
  12

namespace Lists

/-- The list that a text belongs to. -/
def placeOfText (l : Lists) (text : Octets) : Nat :=
  hash text % l.size

/-- The list that a number belongs to. -/
def placeOfNumber (l : Lists) (n : Int) : Nat :=
  (n % l.size).toNat

/-- Lists without keys. -/
def ofSize (size : Nat) : Lists where
  size := size
  texts := Array.replicate size []
  numbers := Array.replicate size []
  byText := false

/-- Puts a text at the front of its list. -/
def pushText (l : Lists) (text : Octets) : Lists :=
  { l with texts := l.texts.modify (l.placeOfText text) fun all => text :: all.erase text }

/-- Puts a number at the front of its list. -/
def pushNumber (l : Lists) (n : Int) : Lists :=
  { l with numbers := l.numbers.modify (l.placeOfNumber n) fun all => n :: all.erase n }

/-- Whether a text is in its list. -/
def hasText (l : Lists) (text : Octets) : Bool :=
  ((l.texts[l.placeOfText text]?).getD []).contains text

/-- Whether a number is in its list. -/
def hasNumber (l : Lists) (n : Int) : Bool :=
  ((l.numbers[l.placeOfNumber n]?).getD []).contains n

/-- Lists all keys by their texts. -/
def withTexts (l : Lists) : Lists :=
  if l.byText then l
  else
    let all := l.numbers.toList.flatten
    all.foldl (fun l n => l.pushText (integerText n)) { l with byText := true }

/-- Twice as many lists with the same keys. -/
def doubled (l : Lists) : Lists :=
  let size := 2 * l.size
  let split {α : Type} (lists : Array (List α)) (place : α → Nat) : Array (List α) :=
    let low := lists.mapIdx fun i all => all.filter fun a => place a == i
    let high := lists.mapIdx fun i all => all.filter fun a => place a != i
    low ++ high
  { l with
    size
    texts := split l.texts fun text => hash text % size
    numbers := split l.numbers fun n => (n % size).toNat }

/-- The lists with room for some number of keys. -/
def roomFor (count : Nat) (l : Lists) : Lists :=
  if l.size * loadLimit < count then l.doubled else l

end Lists

namespace Table

/-- How many lists there are for some number of keys. -/
def sizeFor (count : Nat) : Nat → Nat → Nat
  | 0, size => size
  | n + 1, size => if size * loadLimit < count then sizeFor count n (2 * size) else size

/-- The lists of the keys. -/
def listed (t : Table) : Lists :=
  match t.lists with
  | some l => l
  | none =>
    (List.range t.count).foldl (fun l n => l.pushNumber (Int.ofNat (n + 1)))
      (Lists.ofSize (sizeFor t.count t.count firstSize))

/-- The table once a text has been looked up, and whether it is there; if it is to be made it is. -/
def lookText (t : Table) (makes : Bool) (text : Octets) : Bool × Table :=
  let l := t.listed.withTexts
  if l.hasText text then (true, { t with lists := some (l.pushText text) })
  else if makes then
    let l := l.roomFor (t.count + 1)
    (true, { t with count := t.count + 1, lists := some (l.pushText text) })
  else (false, { t with lists := some l })

/-- The table once a number has been looked up, and whether it is there; if it is to be made it is.
-/
def lookNumber (t : Table) (makes : Bool) (n : Int) : Bool × Table :=
  if t.lists.isNone && 1 ≤ n && n ≤ t.count then (true, t)
  else if t.lists.isNone && !makes then (false, t)
  else
    let l := t.listed
    if l.hasNumber n then (true, { t with lists := some (l.pushNumber n) })
    else if l.byText then
      let (found, t) := t.lookText makes (integerText n)
      if found then (true, { t with lists := t.lists.map (·.pushNumber n) }) else (false, t)
    else if makes then
      let l := l.roomFor (t.count + 1)
      (true, { t with count := t.count + 1, lists := some (l.pushNumber n) })
    else (false, { t with lists := some l })

/-- The table once a key has been looked up, and whether it is there; if it is to be made it is. -/
def look (t : Table) (makes : Bool) : Key → Bool × Table
  | .text text => if t.count = 0 && !makes then (false, t) else t.lookText makes text
  | .number n => if t.count = 0 && !makes then (false, t) else t.lookNumber makes n

/-- The value of a key, which is made if it is missing. -/
def get (t : Table) (key : Key) : Value × Table :=
  let (_, t) := t.look true key
  ((t.cells[key.toText]?).getD .unset, t)

/-- Gives a key a value. -/
def set (t : Table) (key : Key) (v : Value) : Table :=
  let (_, t) := t.look true key
  { t with cells := t.cells.insert key.toText v }

/-- The table without a key. -/
def erase (t : Table) (key : Key) : Table :=
  let (found, t) := t.look false key
  if !found then t
  else if t.count = 1 then {}
  else
    let text := key.toText
    let l := t.listed
    let l := { l with texts := l.texts.modify (l.placeOfText text) (·.erase text) }
    let numbers := l.numbers.map fun all => all.filter fun n => integerText n != text
    { cells := t.cells.erase text, count := t.count - 1, lists := some { l with numbers } }

/-- The keys in the order in which they are listed, and the table once they have been. -/
def keys (t : Table) : List Octets × Table :=
  if t.count = 0 then ([], t)
  else
    let l := t.listed.withTexts
    (l.texts.toList.flatten, { t with lists := some l })

/-- The table of the parts of a text. -/
def ofParts (parts : List Octets) : Table where
  cells := Std.HashMap.ofList (parts.zipIdx.map fun (text, n) =>
    (Shell.decimal (n + 1), .input text))
  count := parts.length
  lists := none

end Table

end Fleet.Awk
