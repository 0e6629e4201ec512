/-!
# Shortest decimals

The decimal with the fewest digits that reads back as a given binary number. A binary number
`m · 2^q` is what every real nearer to it than to its neighbours reads back as, the two points half
way included exactly if `m` is even. Of two decimals with equally few digits the nearer one is
taken, and of two that are equally near the greater.
-/

namespace Fleet.Decimal

/-- The reals that read back as a binary number: all of them are quarters of `2^exponent`. -/
structure Interval : Type where
  /-- The number itself, in quarters. -/
  value : Nat
  /-- The point half way to the number below, in quarters. -/
  low : Nat
  /-- The point half way to the number above, in quarters. -/
  high : Nat
  exponent : Int
  /-- Whether the two points belong to it. -/
  closed : Bool
  deriving Repr

/-- The interval of `mantissa · 2^exponent`. Below a power of two the neighbours are half as far
apart as above it, unless the power is the least one. -/
def Interval.of (mantissa : Nat) (exponent : Int) (narrowBelow : Bool) : Interval where
  value := 4 * mantissa
  low := 4 * mantissa - if narrowBelow then 1 else 2
  high := 4 * mantissa + 2
  exponent := exponent
  closed := mantissa % 2 == 0

/-- Compares `a · 2^(e-2)` with `c · 10^p`, in whole numbers. -/
def compareScaled (a : Nat) (e : Int) (c : Nat) (p : Int) : Ordering :=
  let left := a * Nat.pow 2 (e - 2).toNat * Nat.pow 10 (-p).toNat
  let right := c * Nat.pow 10 p.toNat * Nat.pow 2 (2 - e).toNat
  compare left right

/-- Whether `c · 10^p` lies in an interval. -/
def Interval.contains (i : Interval) (c : Nat) (p : Int) : Bool :=
  match compareScaled i.low i.exponent c p, compareScaled i.high i.exponent c p with
  | .lt, .gt => true
  | .eq, _ | _, .eq => i.closed
  | _, _ => false

/-- The greatest multiple of `10^p` that is not above an interval's number, as a factor. -/
def Interval.below (i : Interval) (p : Int) : Nat :=
  (i.value * Nat.pow 2 (i.exponent - 2).toNat * Nat.pow 10 (-p).toNat) /
    (Nat.pow 10 p.toNat * Nat.pow 2 (2 - i.exponent).toNat)

/-- The multiple of `10^p` in an interval that is nearest to its number, if there is one. -/
def Interval.nearest? (i : Interval) (p : Int) : Option Nat :=
  let c := i.below p
  match c ≠ 0 && i.contains c p, i.contains (c + 1) p with
  | true, true =>
    -- The distance to `c` is less than that to `c + 1` if the number is below their middle.
    if compareScaled (2 * i.value) i.exponent (2 * c + 1) p = .lt then some c else some (c + 1)
  | true, false => some c
  | false, true => some (c + 1)
  | false, false => none

/-- The first power of ten, downwards from `p`, of which a multiple lies in an interval. -/
def Interval.shortestFrom (i : Interval) : Nat → Int → Nat × Int
  | 0, p => (i.below p, p)
  | steps + 1, p =>
    match i.nearest? p with
    | some c => (c, p)
    | none => i.shortestFrom steps (p - 1)

/-- The digits, as a number, and the power of ten of the shortest decimal in an interval. No number
of 64 bits is as great as `10^309`, and none needs a digit below `10^-324`. -/
def Interval.shortest (i : Interval) : Nat × Int :=
  i.shortestFrom 640 309

/-- The decimal `c · 10^p`, written without an exponent. -/
def positional (c : Nat) (p : Int) : String :=
  let digits := Nat.toDigits 10 c
  let zeros (n : Nat) : List Char := List.replicate n '0'
  if 0 ≤ p then String.ofList (digits ++ zeros p.toNat)
  else
    let places := (-p).toNat
    if places < digits.length then
      let whole := digits.length - places
      String.ofList (digits.take whole ++ ['.'] ++ digits.drop whole)
    else String.ofList (['0', '.'] ++ zeros (places - digits.length) ++ digits)

/-- A number as text: the shortest decimal that reads back as it, never with an exponent, and
without a point if it is whole. Minus zero keeps its sign. -/
def ofFloat (x : Float) : String :=
  let bits := x.toBits.toNat
  let sign := if bits / 0x8000000000000000 = 1 then "-" else ""
  let exponent := bits / 0x10000000000000 % 2048
  let fraction := bits % 0x10000000000000
  if exponent = 2047 then if fraction = 0 then sign ++ "inf" else "NaN"
  else if exponent = 0 ∧ fraction = 0 then sign ++ "0"
  else
    let mantissa := if exponent = 0 then fraction else 0x10000000000000 + fraction
    let power : Int := (if exponent = 0 then 1 else exponent : Nat) - 1075
    let (c, p) := (Interval.of mantissa power (fraction = 0 && 1 < exponent)).shortest
    sign ++ positional c p

end Fleet.Decimal
