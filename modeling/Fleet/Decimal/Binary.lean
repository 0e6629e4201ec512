/-!
# Binary numbers and their decimals

How binary numbers are rounded to decimals and to a precision, and floating-point numbers as a case
of them.
-/

/-!
## Decimals with a given number of places

A binary number rounded to a number of places after the point, or to a number of digits with an
exponent. What lies half way between two decimals goes to the one with an even last digit.
-/

namespace Fleet.Decimal

/-- The whole number nearest to a quotient; one half way between two goes to the even one. -/
def roundDiv (a b : Nat) : Nat :=
  let q := a / b
  let r := a % b
  if 2 * r < b then q else if b < 2 * r then q + 1 else q + q % 2

/-- A number that is not negative, as a quotient. -/
structure Ratio : Type where
  numerator : Nat
  denominator : Nat
  deriving Repr

namespace Ratio

/-- The whole number nearest to the number times a power of ten. -/
def scaledBy (r : Ratio) (power : Int) : Nat :=
  roundDiv (r.numerator * Nat.pow 10 power.toNat) (r.denominator * Nat.pow 10 (-power).toNat)

/-- The greatest power of ten that is not above a number other than 0, looked for from `p` down. -/
def magnitudeFrom (r : Ratio) : Nat → Int → Int
  | 0, p => p
  | steps + 1, p =>
    if r.denominator * Nat.pow 10 p.toNat ≤ r.numerator * Nat.pow 10 (-p).toNat then p
    else magnitudeFrom r steps (p - 1)

/-- The greatest power of ten that is not above a number; 0 for 0. -/
def magnitude (r : Ratio) : Int :=
  let digits (n : Nat) : Nat := (Nat.toDigits 10 n).length
  if r.numerator = 0 then 0
  else r.magnitudeFrom 2 ((digits r.numerator : Int) - digits r.denominator)

/-- The digits before the point and a number of them after it. -/
def places (r : Ratio) (count : Nat) : List Char × List Char :=
  let digits := Nat.toDigits 10 (r.scaledBy count)
  let digits := List.replicate (count + 1 - digits.length) '0' ++ digits
  (digits.take (digits.length - count), digits.drop (digits.length - count))

/-- The first digit, a number of digits after it, and the power of ten of the first one. -/
def scientific (r : Ratio) (count : Nat) : List Char × List Char × Int :=
  let power := r.magnitude
  let n := r.scaledBy (count - power)
  let (n, power) := if n < Nat.pow 10 (count + 1) then (n, power) else (n / 10, power + 1)
  let digits := Nat.toDigits 10 n
  let digits := digits ++ List.replicate (count + 1 - digits.length) '0'
  (digits.take 1, digits.drop 1, power)

end Ratio

/-!
## Binary numbers of a given precision

Numbers whose sizes are whole multiples of a power of two with a limited number of bits. What cannot
be held is rounded to the nearest, and to the even one of two; what is too great is infinite.
-/

/-- How exact numbers are. -/
structure Precision : Type where
  /-- How many bits a number has. -/
  bits : Nat
  /-- The least power of two that the last bit can stand for. -/
  lowest : Int
  /-- The power of two from which on numbers are infinite. -/
  limit : Int
  deriving Repr

/-- Numbers of 64 bits, 53 of them for the digits. -/
def Precision.double : Precision :=
  ⟨53, -1074, 1024⟩

/-- Numbers of 80 bits, 64 of them for the digits. -/
def Precision.extended : Precision :=
  ⟨64, -16445, 16384⟩

/-- The size of a number. -/
inductive Size : Type where
  | finite (r : Ratio)
  | infinite
  /-- What is no number. -/
  | undefined
  deriving Repr

/-- A number. -/
structure Real : Type where
  negative : Bool
  size : Size
  deriving Repr

namespace Ratio

/-- The number `n · 2 ^ power`. -/
def binary (n : Nat) (power : Int) : Ratio :=
  ⟨n * Nat.pow 2 power.toNat, Nat.pow 2 (-power).toNat⟩

/-- The number `n · 10 ^ power`. -/
def decimal (n : Nat) (power : Int) : Ratio :=
  ⟨n * Nat.pow 10 power.toNat, Nat.pow 10 (-power).toNat⟩

/-- Whether a number is less than another one. -/
def less (a b : Ratio) : Bool :=
  a.numerator * b.denominator < b.numerator * a.denominator

/-- Whether a number is 0. -/
def isZero (r : Ratio) : Bool :=
  r.numerator = 0

/-- The greatest power of two that is not above a number other than 0. -/
def binaryMagnitude (r : Ratio) : Int :=
  let guess : Int := (r.numerator.log2 : Int) - r.denominator.log2
  if less r (binary 1 guess) then guess - 1 else guess

/-- The nearest number that a precision can hold, as a multiple of a power of two. -/
def nearest (p : Precision) (r : Ratio) : Nat × Int :=
  let last := max (r.binaryMagnitude + 1 - p.bits) p.lowest
  (roundDiv (r.numerator * Nat.pow 2 (-last).toNat) (r.denominator * Nat.pow 2 last.toNat), last)

end Ratio

namespace Precision

/-- A size rounded to a precision. -/
def round (p : Precision) (r : Ratio) : Size :=
  if r.isZero then .finite r
  else
    let (n, last) := r.nearest p
    let rounded := Ratio.binary n last
    if rounded.less (Ratio.binary 1 p.limit) then .finite rounded else .infinite

/-- Whether rounding a number other than 0 to a precision leaves its range: it is too great, or so
small that digits are lost. -/
def isLeft (p : Precision) (r : Ratio) : Bool :=
  match p.round r with
  | .finite rounded =>
    let lost := r.less rounded || rounded.less r
    lost && !r.isZero && r.less (Ratio.binary 1 (p.lowest + p.bits - 1))
  | _ => true

end Precision

namespace Real

/-- A whole number. -/
def ofInt (n : Int) : Real :=
  ⟨n < 0, .finite ⟨n.natAbs, 1⟩⟩

/-- Whether a number is 0. -/
def isZero (x : Real) : Bool :=
  match x.size with
  | .finite r => r.isZero
  | _ => false

/-- Whether something is no number. -/
def isUndefined (x : Real) : Bool :=
  match x.size with
  | .undefined => true
  | _ => false

/-- Whether a number is less than another one. -/
def less (x y : Real) : Bool :=
  match x.size, y.size with
  | .undefined, _ | _, .undefined => false
  | .infinite, .infinite => x.negative && !y.negative
  | .infinite, _ => x.negative
  | _, .infinite => !y.negative
  | .finite a, .finite b =>
    match x.negative && !a.isZero, y.negative && !b.isZero with
    | true, true => b.less a
    | true, false => true
    | false, true => false
    | false, false => a.less b

/-- The sum of two numbers. -/
def add (p : Precision) (x y : Real) : Real :=
  match x.size, y.size with
  | .undefined, _ | _, .undefined => ⟨false, .undefined⟩
  | .infinite, .infinite => if x.negative = y.negative then x else ⟨true, .undefined⟩
  | .infinite, _ => x
  | _, .infinite => y
  | .finite a, .finite b =>
    let signed (negative : Bool) (n : Nat) : Int := if negative then -(n : Int) else n
    let whole := signed x.negative (a.numerator * b.denominator) +
      signed y.negative (b.numerator * a.denominator)
    let sum : Ratio := ⟨whole.natAbs, a.denominator * b.denominator⟩
    ⟨if whole = 0 then x.negative && y.negative else whole < 0, p.round sum⟩

/-- The product of two numbers. -/
def mul (p : Precision) (x y : Real) : Real :=
  let negative := x.negative != y.negative
  match x.size, y.size with
  | .finite a, .finite b =>
    ⟨negative, p.round ⟨a.numerator * b.numerator, a.denominator * b.denominator⟩⟩
  | .undefined, _ | _, .undefined => ⟨false, .undefined⟩
  | _, _ => if x.isZero || y.isZero then ⟨true, .undefined⟩ else ⟨negative, .infinite⟩

end Real

/-! ## Reading -/

/-- A digit in a base. -/
def digitOf? (base : Nat) (c : Char) : Option Nat :=
  let d := if c.isDigit then c.toNat - '0'.toNat else c.toLower.toNat - 'a'.toNat + 10
  if c.isAlphanum && d < base then some d else none

/-- What has been read: a number, what follows it, and whether it was out of range. -/
structure Scanned : Type where
  value : Real
  rest : List Char
  outOfRange : Bool := false
  deriving Repr

/-- The exponent after a mark, and what follows; 0 if there is none. -/
def scanExponent (mark : Char) (cs : List Char) : Int × List Char :=
  match cs with
  | c :: rest =>
    if c.toLower ≠ mark then (0, cs)
    else
      let (negative, digits) :=
        match rest with
        | '-' :: digits => (true, digits)
        | '+' :: digits => (false, digits)
        | digits => (false, digits)
      let own := digits.takeWhile Char.isDigit
      if own.isEmpty then (0, cs)
      else
        let n := own.foldl (fun n d => n * 10 + (d.toNat - '0'.toNat)) 0
        (if negative then -(n : Int) else n, digits.drop own.length)
  | [] => (0, [])

/-- The digits of a number before and after a point, and what follows them; none if there are
none. -/
def scanDigits (base : Nat) (cs : List Char) : Option (List Char × List Char × List Char) :=
  let isDigit (c : Char) : Bool := (digitOf? base c).isSome
  let whole := cs.takeWhile isDigit
  let (fraction, rest) :=
    match cs.drop whole.length with
    | '.' :: after => (after.takeWhile isDigit, after.dropWhile isDigit)
    | after => ([], after)
  if whole.isEmpty && fraction.isEmpty then none else some (whole, fraction, rest)

/-- The powers of ten and of two beyond which numbers of any precision here are out of range. -/
def exponentLimit : Int :=
  20000

/-- The unsigned number that a text starts with. -/
def scanUnsigned? (p : Precision) (cs : List Char) : Option (Size × List Char × Bool) :=
  let starts (word : String) : Bool :=
    String.ofList ((cs.take word.length).map Char.toLower) == word
  let ofDigits (base : Nat) (mark : Char) (cs : List Char) : Option (Size × List Char × Bool) :=
    (scanDigits base cs).map fun (whole, fraction, rest) =>
      let (exponent, rest) := scanExponent mark rest
      let n := (whole ++ fraction).foldl (fun n c => n * base + (digitOf? base c).getD 0) 0
      let steps : Int := if base = 16 then 4 * fraction.length else fraction.length
      let size : Int := exponent + whole.length
      if n = 0 then (.finite ⟨0, 1⟩, rest, false)
      else if exponentLimit < size then (.infinite, rest, true)
      else if size < -exponentLimit then (.finite ⟨0, 1⟩, rest, true)
      else
        let r := if base = 16 then Ratio.binary n (exponent - steps)
          else Ratio.decimal n (exponent - steps)
        (p.round r, rest, p.isLeft r)
  if starts "infinity" then some (.infinite, cs.drop 8, false)
  else if starts "inf" then some (.infinite, cs.drop 3, false)
  else if starts "nan" then
    let after := cs.drop 3
    let isName (c : Char) : Bool := c.isAlphanum || c == '_'
    match after with
    | '(' :: inner =>
      match inner.dropWhile isName with
      | ')' :: rest => some (.undefined, rest, false)
      | _ => some (.undefined, after, false)
    | _ => some (.undefined, after, false)
  else
    match cs with
    | '0' :: x :: rest =>
      if x.toLower = 'x' then
        match ofDigits 16 'p' rest with
        | some found => some found
        | none => some (.finite ⟨0, 1⟩, x :: rest, false)
      else ofDigits 10 'e' cs
    | _ => ofDigits 10 'e' cs

/-- The number that a text starts with. -/
def scan? (p : Precision) (cs : List Char) : Option Scanned :=
  let (negative, digits) :=
    match cs with
    | '-' :: rest => (true, rest)
    | '+' :: rest => (false, rest)
    | rest => (false, rest)
  (scanUnsigned? p digits).map fun (size, rest, outOfRange) =>
    ⟨⟨negative, size⟩, rest, outOfRange⟩

end Fleet.Decimal

/-!
## Floating-point numbers as exact ones

The bits of a floating-point number say exactly which number it is, so that it can be written with
as many digits as asked for, and a number of that precision is a floating-point number.
-/

namespace Fleet.Decimal.Real

/-- The number that a floating-point number is. -/
def ofFloat (x : Float) : Real :=
  let bits := x.toBits.toNat
  let negative := bits / 0x8000000000000000 = 1
  let exponent := bits / 0x10000000000000 % 2048
  let fraction := bits % 0x10000000000000
  if exponent = 2047 then ⟨negative, if fraction = 0 then .infinite else .undefined⟩
  else
    let mantissa := if exponent = 0 then fraction else 0x10000000000000 + fraction
    let power : Int := (if exponent = 0 then 1 else exponent : Nat) - 1075
    ⟨negative, .finite (Ratio.binary mantissa power)⟩

/-- The floating-point number nearest to a number. -/
def toFloat (x : Real) : Float :=
  let size : Float :=
    match x.size with
    | .infinite => 1.0 / 0.0
    | .undefined => 0.0 / 0.0
    | .finite r =>
      if r.isZero then 0.0
      else
        let (n, last) := r.nearest .double
        (Float.ofNat n).scaleB last
  if x.negative then -size else size

end Fleet.Decimal.Real
