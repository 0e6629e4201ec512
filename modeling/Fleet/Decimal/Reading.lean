/-!
# Reading decimals

A decimal is a sign, digits with at most one point among or beside them, and an exponent; all but
the digits may be missing. `inf`, `infinity` and `nan` are read in any case of their letters. The
number is the nearest that 64 bits can hold, infinite if it is too great.
-/

namespace Fleet.Decimal

/-- The value of decimal digits. -/
def digitsValue (digits : List Char) : Nat :=
  digits.foldl (fun n c => n * 10 + (c.toNat - '0'.toNat)) 0

/-- The nearest number to `mantissa · 10^exponent`. Beyond 400 digits on either side of the point
the outcome no longer depends on how many there are. -/
def scaled (mantissa : Nat) (exponent : Int) : Float :=
  if mantissa = 0 then 0.0
  else
    let magnitude : Int := (Nat.toDigits 10 mantissa).length + exponent
    if magnitude > 400 then Float.ofScientific 1 false 400
    else if magnitude < -400 then 0.0
    else if exponent < 0 then Float.ofScientific mantissa true (-exponent).toNat
    else Float.ofScientific mantissa false exponent.toNat

/-- The exponent that follows the digits; nothing stands for 0. -/
def readExponent? : List Char → Option Int
  | [] => some 0
  | mark :: rest =>
    let (negative, digits) :=
      match rest with
      | '-' :: digits => (true, digits)
      | '+' :: digits => (false, digits)
      | digits => (false, digits)
    if (mark = 'e' ∨ mark = 'E') ∧ digits ≠ [] ∧ digits.all Char.isDigit then
      some (if negative then -(digitsValue digits : Int) else digitsValue digits)
    else none

/-- An unsigned decimal. -/
def readUnsigned? (cs : List Char) : Option Float :=
  let name := String.ofList (cs.map Char.toLower)
  if name = "inf" ∨ name = "infinity" then some (1.0 / 0.0)
  else if name = "nan" then some (0.0 / 0.0)
  else
    let whole := cs.takeWhile Char.isDigit
    let (fraction, rest) :=
      match cs.dropWhile Char.isDigit with
      | '.' :: after => (after.takeWhile Char.isDigit, after.dropWhile Char.isDigit)
      | after => ([], after)
    if whole = [] ∧ fraction = [] then none
    else
      (readExponent? rest).map fun exponent =>
        scaled (digitsValue (whole ++ fraction)) (exponent - fraction.length)

/-- A decimal. -/
def read? (s : String) : Option Float :=
  match s.toList with
  | '-' :: rest => (readUnsigned? rest).map (- ·)
  | '+' :: rest => readUnsigned? rest
  | cs => readUnsigned? cs

end Fleet.Decimal
