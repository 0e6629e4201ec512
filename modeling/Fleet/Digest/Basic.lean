import Fleet.Text.Octets
import Fleet.Text.Utf8

/-!
# Digests and sums

Numbers that are worked out from a message: what all digests need, and the short ones.
-/

/-!
## Digests

A digest is worked out over blocks of a message that is made longer: by a mark, by zeros, and by its
own length. Here are the words that blocks are made of and what is added to a message.
-/

namespace Fleet.Digest

/-- A number in a row of octets, its lowest octet first. -/
def octetsLow : Nat → Nat → Bytes
  | 0, _ => []
  | count + 1, n => UInt8.ofNat n :: octetsLow count (n / 256)

/-- A number in a row of octets, its highest octet first. -/
def octetsHigh (count n : Nat) : Bytes :=
  (octetsLow count n).reverse

/-- The number that octets are, the lowest of them first. -/
def ofLow (octets : Bytes) : Nat :=
  octets.foldr (fun b n => b.toNat + 256 * n) 0

/-- The number that octets are, the highest of them first. -/
def ofHigh (octets : Bytes) : Nat :=
  octets.foldl (fun n b => n * 256 + b.toNat) 0

/-- A message with what makes it a row of whole blocks: a mark, zeros, and its length in bits in the
last octets of the last block. -/
def padded (block room : Nat) (high : Bool) (message : Bytes) : Bytes :=
  let zeros := (block - (message.length + 1 + room) % block) % block
  let length := 8 * message.length
  message ++ 0x80 :: List.replicate zeros 0 ++
    if high then octetsHigh room length else octetsLow room length

/-- The blocks of a message. -/
def blocks (block room : Nat) (high : Bool) (message : Bytes) : List Bytes :=
  groups block (padded block room high message)

/-- A number without its fractional part whose power is nearest below another one; the bits are
those of the answer. -/
def root (power n : Nat) : Nat → Nat → Nat
  | 0, found => found
  | bits + 1, found =>
    let next := found + Nat.pow 2 bits
    root power n bits (if Nat.pow next power ≤ n then next else found)

/-- The first bits after the point of a root of a number. -/
def fraction (power bits n : Nat) : Nat :=
  root power (n * Nat.pow 2 (power * bits)) (bits + 9) 0 % Nat.pow 2 bits

/-- The primes among the numbers below a bound. -/
def primesBelow (bound : Nat) : List Nat :=
  (List.range bound).filter fun n => 2 ≤ n && (List.range n).all fun d => d < 2 || n % d ≠ 0

/-!
## Sums of messages

Short numbers that show whether a message was changed: a remainder of polynomials, and two kinds of
sums.
-/

/-- The polynomial that remainders are taken by, without its highest bit. -/
def polynomial : UInt32 :=
  0x04C11DB7

/-- A remainder after eight more bits. -/
def remainderStep (remainder : UInt32) (octet : UInt8) : UInt32 :=
  (List.range 8).foldl (fun r _ =>
    if r &&& 0x80000000 ≠ 0 then (r <<< 1) ^^^ polynomial else r <<< 1)
    (remainder ^^^ (octet.toUInt32 <<< 24))

/-- The octets of the length of a message that count, the lowest first. -/
def lengthOctets : Nat → Nat → Bytes
  | 0, _ => []
  | fuel + 1, n => if n = 0 then [] else UInt8.ofNat n :: lengthOctets fuel (n / 256)

/-- The remainder of a message and its length. -/
def remainder (message : Bytes) : Nat :=
  let whole := message ++ lengthOctets 16 message.length
  (~~~(whole.foldl remainderStep 0)).toNat

/-- The sum of octets in which the sum is turned by a bit before each. -/
def turningSum (message : Bytes) : Nat :=
  message.foldl (fun n b => (n / 2 + (n % 2) * 0x8000 + b.toNat) % 0x10000) 0

/-- The sum of octets, folded into 16 bits. -/
def foldedSum (message : Bytes) : Nat :=
  let sum := (message.foldl (fun n b => n + b.toNat) 0) % 0x100000000
  let once := sum % 0x10000 + sum / 0x10000
  once % 0x10000 + once / 0x10000

end Fleet.Digest
