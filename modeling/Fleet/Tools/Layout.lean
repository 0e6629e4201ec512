import Fleet.Decimal.Binary
import Fleet.Text.Octets

/-!
# Numbers and texts in columns

How a number or a text is brought to a width: with blanks or zeros in front of it or blanks behind
it, with a sign, and with as many places as asked for.
-/

namespace Fleet.Tools

/-- How an argument is written: the flags, the width and the precision, all known. -/
structure Layout : Type where
  flags : Octets
  width : Nat
  precision : Option Nat
  deriving Repr

namespace Layout

/-- Whether a flag is there. -/
def has (l : Layout) (flag : Char) : Bool :=
  l.flags.contains flag

/-- Octets brought to the width. -/
def pad (l : Layout) (text : Octets) : Octets :=
  let fill := List.replicate (l.width - text.length) ' '
  if l.has '-' then text ++ fill else fill ++ text

/-- A sign and digits brought to the width, with zeros between them if asked for. -/
def padNumber (l : Layout) (zeros : Bool) (sign digits : Octets) : Octets :=
  if zeros && l.has '0' && !l.has '-' then
    sign ++ List.replicate (l.width - sign.length - digits.length) '0' ++ digits
  else l.pad (sign ++ digits)

/-- The sign of a number. -/
def sign (l : Layout) (negative : Bool) : Octets :=
  if negative then ['-'] else if l.has '+' then ['+'] else if l.has ' ' then [' '] else []

/-- An integer, by its sign and its digits. Without any places zero has no digits. -/
def integer (l : Layout) (sign digits : Octets) : Octets :=
  match l.precision with
  | some 0 => l.padNumber false sign (if digits = ['0'] then [] else digits)
  | some n => l.padNumber false sign (List.replicate (n - digits.length) '0' ++ digits)
  | none => l.padNumber true sign digits

/-- Digits before and after a point, which is left out if nothing follows it. -/
def point (l : Layout) (whole fraction : Octets) : Octets :=
  if fraction.isEmpty && !l.has '#' then whole else whole ++ '.' :: fraction

/-- A power of ten as an exponent of at least two digits. -/
def exponent (power : Int) : Octets :=
  let digits := Nat.toDigits 10 power.natAbs
  let mark := if power < 0 then '-' else '+'
  ['e', mark] ++ List.replicate (2 - digits.length) '0' ++ digits

/-- Digits without the zeros at their end, unless they are to be kept. -/
def trimZeros (l : Layout) (digits : Octets) : Octets :=
  if l.has '#' then digits else (digits.reverse.dropWhile (· == '0')).reverse

/-- A number as hexadecimal digits before and after a point, and a power of two. -/
def hexadecimal (l : Layout) (p : Decimal.Precision) (r : Decimal.Ratio) : Octets :=
  let (n, last) := if r.isZero then (0, 0) else r.nearest p
  let places := (p.bits - 1) / 4
  let kept := min (l.precision.getD places) places
  let n := Decimal.roundDiv n (Nat.pow 16 (places - kept))
  let digits := Nat.toDigits 16 n
  let digits := List.replicate (kept + 1 - digits.length) '0' ++ digits
  let fraction := digits.drop (digits.length - kept)
  let fraction := match l.precision with
    | some count => fraction ++ List.replicate (count - kept) '0'
    | none => (fraction.reverse.dropWhile (· == '0')).reverse
  let power : Int := if r.isZero then 0 else last + 4 * places
  let mark := if power < 0 then '-' else '+'
  l.point (digits.take (digits.length - kept)) fraction ++ ['p', mark] ++
    Nat.toDigits 10 power.natAbs

/-- A number in the way that a letter asks for. -/
def float (l : Layout) (p : Decimal.Precision) (conversion : Char) (x : Decimal.Real) : Octets :=
  let sign := l.sign x.negative
  let cased (text : Octets) : Octets :=
    if conversion.isUpper then text.map Char.toUpper else text
  match x.size with
  | .undefined => l.padNumber false sign (cased "nan".toList)
  | .infinite => l.padNumber false sign (cased "inf".toList)
  | .finite r =>
    let count := l.precision.getD 6
    let plain (count : Nat) (trim : Octets → Octets) : Octets :=
      let (whole, fraction) := r.places count
      l.point whole (trim fraction)
    let scientific (count : Nat) (trim : Octets → Octets) : Octets :=
      let (first, fraction, power) := r.scientific count
      l.point first (trim fraction) ++ exponent power
    let lead : Octets := if conversion.toLower = 'a' then ['0', 'x'] else []
    let digits :=
      match conversion.toLower with
      | 'a' => l.hexadecimal p r
      | 'f' => plain count id
      | 'e' => scientific count id
      | _ =>
        let count := max count 1
        let power := (r.scientific (count - 1)).2.2
        if -4 ≤ power ∧ power < count then plain ((count : Int) - 1 - power).toNat l.trimZeros
        else scientific (count - 1) l.trimZeros
    l.padNumber true (sign ++ cased lead) (cased digits)

end Layout

end Fleet.Tools
