import Fleet.Digest.Basic

/-!
# Digests over blocks

The digests that change a few words by each block of a message: MD5, SHA and BLAKE2b.
-/

/-!
## The digest MD5

Four words are changed in 64 rounds by each block of 16 words.
-/

namespace Fleet.Digest.Md5

/-- What is added in each round: the sines of the numbers from one on, times 2^32. -/
def sines : Array UInt32 :=
  #[0xD76AA478, 0xE8C7B756, 0x242070DB, 0xC1BDCEEE, 0xF57C0FAF, 0x4787C62A, 0xA8304613,
    0xFD469501, 0x698098D8, 0x8B44F7AF, 0xFFFF5BB1, 0x895CD7BE, 0x6B901122, 0xFD987193,
    0xA679438E, 0x49B40821, 0xF61E2562, 0xC040B340, 0x265E5A51, 0xE9B6C7AA, 0xD62F105D,
    0x02441453, 0xD8A1E681, 0xE7D3FBC8, 0x21E1CDE6, 0xC33707D6, 0xF4D50D87, 0x455A14ED,
    0xA9E3E905, 0xFCEFA3F8, 0x676F02D9, 0x8D2A4C8A, 0xFFFA3942, 0x8771F681, 0x6D9D6122,
    0xFDE5380C, 0xA4BEEA44, 0x4BDECFA9, 0xF6BB4B60, 0xBEBFBC70, 0x289B7EC6, 0xEAA127FA,
    0xD4EF3085, 0x04881D05, 0xD9D4D039, 0xE6DB99E5, 0x1FA27CF8, 0xC4AC5665, 0xF4292244,
    0x432AFF97, 0xAB9423A7, 0xFC93A039, 0x655B59C3, 0x8F0CCC92, 0xFFEFF47D, 0x85845DD1,
    0x6FA87E4F, 0xFE2CE6E0, 0xA3014314, 0x4E0811A1, 0xF7537E82, 0xBD3AF235, 0x2AD7D2BB,
    0xEB86D391]

/-- How far a word is turned in the rounds of each quarter. -/
def turns : Array (Array UInt32) :=
  #[#[7, 12, 17, 22], #[5, 9, 14, 20], #[4, 11, 16, 23], #[6, 10, 15, 21]]

/-- The four words. -/
structure State : Type where
  a : UInt32 := 0x67452301
  b : UInt32 := 0xEFCDAB89
  c : UInt32 := 0x98BADCFE
  d : UInt32 := 0x10325476

/-- A word with its bits turned to the left. -/
def turn (word distance : UInt32) : UInt32 :=
  (word <<< distance) ||| (word >>> (32 - distance))

/-- The words after a round. -/
def State.round (words : Array UInt32) (s : State) (i : Nat) : State :=
  let (mixed, place) : UInt32 × Nat :=
    match i / 16 with
    | 0 => ((s.b &&& s.c) ||| (~~~s.b &&& s.d), i)
    | 1 => ((s.d &&& s.b) ||| (~~~s.d &&& s.c), (5 * i + 1) % 16)
    | 2 => (s.b ^^^ s.c ^^^ s.d, (3 * i + 5) % 16)
    | _ => (s.c ^^^ (s.b ||| ~~~s.d), 7 * i % 16)
  let sum := mixed + s.a + sines.getD i 0 + words.getD place 0
  let distance := (turns.getD (i / 16) #[]).getD (i % 4) 0
  { a := s.d, d := s.c, c := s.b, b := s.b + turn sum distance }

/-- The words after a block. -/
def State.block (s : State) (block : Bytes) : State :=
  let words := ((groups 4 block).map fun piece => UInt32.ofNat (ofLow piece)).toArray
  let t := (List.range 64).foldl (State.round words) s
  { a := s.a + t.a, b := s.b + t.b, c := s.c + t.c, d := s.d + t.d }

/-- The digest of a message. -/
def digest (message : Bytes) : Bytes :=
  let s := (blocks 64 8 false message).foldl State.block {}
  [s.a, s.b, s.c, s.d].flatMap fun word => octetsLow 4 word.toNat

end Fleet.Digest.Md5

/-!
## The digest SHA-1

Five words are changed in 80 rounds by each block of 16 words, which are made into 80.
-/

namespace Fleet.Digest.Sha1

/-- The five words. -/
structure State : Type where
  a : UInt32 := 0x67452301
  b : UInt32 := 0xEFCDAB89
  c : UInt32 := 0x98BADCFE
  d : UInt32 := 0x10325476
  e : UInt32 := 0xC3D2E1F0

/-- A word with its bits turned to the left. -/
def turn (word distance : UInt32) : UInt32 :=
  (word <<< distance) ||| (word >>> (32 - distance))

/-- The words of a block made into 80. -/
def schedule (block : Bytes) : Array UInt32 :=
  let start := ((groups 4 block).map fun piece => UInt32.ofNat (ofHigh piece)).toArray
  (List.range 64).foldl (fun words i =>
    let before (back : Nat) : UInt32 := words.getD (i + 16 - back) 0
    words.push (turn (before 3 ^^^ before 8 ^^^ before 14 ^^^ before 16) 1)) start

/-- The words after a round. -/
def State.round (words : Array UInt32) (s : State) (i : Nat) : State :=
  let (mixed, constant) : UInt32 × UInt32 :=
    match i / 20 with
    | 0 => ((s.b &&& s.c) ||| (~~~s.b &&& s.d), 0x5A827999)
    | 1 => (s.b ^^^ s.c ^^^ s.d, 0x6ED9EBA1)
    | 2 => ((s.b &&& s.c) ||| (s.b &&& s.d) ||| (s.c &&& s.d), 0x8F1BBCDC)
    | _ => (s.b ^^^ s.c ^^^ s.d, 0xCA62C1D6)
  { a := turn s.a 5 + mixed + s.e + constant + words.getD i 0
    b := s.a
    c := turn s.b 30
    d := s.c
    e := s.d }

/-- The words after a block. -/
def State.block (s : State) (block : Bytes) : State :=
  let t := (List.range 80).foldl (State.round (schedule block)) s
  { a := s.a + t.a, b := s.b + t.b, c := s.c + t.c, d := s.d + t.d, e := s.e + t.e }

/-- The digest of a message. -/
def digest (message : Bytes) : Bytes :=
  let s := (blocks 64 8 true message).foldl State.block {}
  [s.a, s.b, s.c, s.d, s.e].flatMap fun word => octetsHigh 4 word.toNat

end Fleet.Digest.Sha1

/-!
## The digests SHA-2

Eight words are changed in many rounds by each block of 16 words. The digests differ in the width of
the words, in the distances by which words are turned, and in where they start. What is added in
the rounds are fractions of the cube roots of primes.
-/

namespace Fleet.Digest.Sha2

/-- What the digests of one width have in common. -/
structure Family : Type where
  /-- The bits of a word. -/
  width : Nat
  rounds : Nat
  /-- By how much words are turned, or at last moved, for the words of a block and for the state. -/
  early : Nat × Nat × Nat
  late : Nat × Nat × Nat
  first : Nat × Nat × Nat
  fifth : Nat × Nat × Nat
  /-- What is added in each round. -/
  constants : Array Nat

/-- The primes that constants are made from. -/
def primes : List Nat :=
  primesBelow 410

/-- The family with words of 32 bits. -/
def narrow : Family where
  width := 32
  rounds := 64
  early := (7, 18, 3)
  late := (17, 19, 10)
  first := (2, 13, 22)
  fifth := (6, 11, 25)
  constants := ((primes.take 64).map (fraction 3 32)).toArray

/-- The family with words of 64 bits. -/
def wide : Family where
  width := 64
  rounds := 80
  early := (1, 8, 7)
  late := (19, 61, 6)
  first := (28, 34, 39)
  fifth := (14, 18, 41)
  constants := ((primes.take 80).map (fraction 3 64)).toArray

namespace Family

/-- A number as a word. -/
def word (f : Family) (n : Nat) : Nat :=
  n % Nat.pow 2 f.width

/-- A word with its bits turned to the right. -/
def turn (f : Family) (n distance : Nat) : Nat :=
  (n >>> distance) ||| f.word (n <<< (f.width - distance))

/-- A word turned by three distances, and mixed. -/
def turned (f : Family) (distances : Nat × Nat × Nat) (n : Nat) : Nat :=
  f.turn n distances.1 ^^^ f.turn n distances.2.1 ^^^ f.turn n distances.2.2

/-- A word turned by two distances and moved by a third, and mixed. -/
def moved (f : Family) (distances : Nat × Nat × Nat) (n : Nat) : Nat :=
  f.turn n distances.1 ^^^ f.turn n distances.2.1 ^^^ (n >>> distances.2.2)

/-- The words of a block made into one for each round. -/
def schedule (f : Family) (block : Bytes) : Array Nat :=
  let start := ((groups (f.width / 8) block).map ofHigh).toArray
  (List.range (f.rounds - 16)).foldl (fun words i =>
    let before (back : Nat) : Nat := words.getD (i + 16 - back) 0
    let mixed := f.moved f.late (before 2) + before 7 + f.moved f.early (before 15) + before 16
    words.push (f.word mixed))
    start

/-- The words after a round, given the one of the block. -/
def round (f : Family) (state : List Nat) (word constant : Nat) : List Nat :=
  match state with
  | [a, b, c, d, e, g, h, i] =>
    let choice := (e &&& g) ^^^ ((e ^^^ (Nat.pow 2 f.width - 1)) &&& h)
    let majority := (a &&& b) ^^^ (a &&& c) ^^^ (b &&& c)
    let one := i + f.turned f.fifth e + choice + constant + word
    let two := f.turned f.first a + majority
    [f.word (one + two), a, b, c, f.word (d + one), e, g, h]
  | other => other

/-- The words after a block. -/
def block (f : Family) (state : List Nat) (block : Bytes) : List Nat :=
  let words := f.schedule block
  let after := (List.range f.rounds).foldl (fun s i =>
    f.round s (words.getD i 0) (f.constants.getD i 0)) state
  List.zipWith (fun a b => f.word (a + b)) state after

/-- The digest of a message, of some octets, from a state on. -/
def digest (f : Family) (state : List Nat) (length : Nat) (message : Bytes) : Bytes :=
  let size := 2 * f.width
  let after := (blocks size (f.width / 4) true message).foldl f.block state
  (after.flatMap (octetsHigh (f.width / 8))).take length

end Family

/-- The state made of the square roots of eight primes. -/
def roots (bits : Nat) (start : Nat) : List Nat :=
  ((primes.drop start).take 8).map (fraction 2 bits)

/-- The digest of 224 bits. -/
def digest224 : Bytes → Bytes :=
  narrow.digest ((roots 64 8).map narrow.word) 28

/-- The digest of 256 bits. -/
def digest256 : Bytes → Bytes :=
  narrow.digest (roots 32 0) 32

/-- The digest of 384 bits. -/
def digest384 : Bytes → Bytes :=
  wide.digest (roots 64 8) 48

/-- The digest of 512 bits. -/
def digest512 : Bytes → Bytes :=
  wide.digest (roots 64 0) 64

end Fleet.Digest.Sha2

/-!
## The digest BLAKE2b

Eight words of 64 bits are changed by each block of 16 words. In each of twelve rounds the words of
the block are taken in another order, and columns and diagonals of a square of 16 words are mixed.
-/

namespace Fleet.Digest.Blake2

/-- The orders in which the words of a block are taken. -/
def orders : Array (Array Nat) :=
  #[#[0, 1, 2, 3, 4, 5, 6, 7, 8, 9, 10, 11, 12, 13, 14, 15],
    #[14, 10, 4, 8, 9, 15, 13, 6, 1, 12, 0, 2, 11, 7, 5, 3],
    #[11, 8, 12, 0, 5, 2, 15, 13, 10, 14, 3, 6, 7, 1, 9, 4],
    #[7, 9, 3, 1, 13, 12, 11, 14, 2, 6, 5, 10, 4, 0, 15, 8],
    #[9, 0, 5, 7, 2, 4, 10, 15, 14, 1, 11, 12, 6, 8, 3, 13],
    #[2, 12, 6, 10, 0, 11, 8, 3, 4, 13, 7, 5, 15, 14, 1, 9],
    #[12, 5, 1, 15, 14, 13, 4, 10, 0, 7, 6, 3, 9, 2, 8, 11],
    #[13, 11, 7, 14, 12, 1, 3, 9, 5, 0, 15, 4, 8, 6, 2, 10],
    #[6, 15, 14, 9, 11, 3, 0, 8, 12, 2, 13, 7, 1, 4, 10, 5],
    #[10, 2, 8, 4, 7, 6, 1, 5, 15, 11, 9, 14, 3, 12, 13, 0]]

/-- The places in the square that are mixed: its columns, and then its diagonals. -/
def lanes : List (Nat × Nat × Nat × Nat) :=
  [(0, 4, 8, 12), (1, 5, 9, 13), (2, 6, 10, 14), (3, 7, 11, 15),
    (0, 5, 10, 15), (1, 6, 11, 12), (2, 7, 8, 13), (3, 4, 9, 14)]

/-- A word with its bits turned to the right. -/
def turn (word distance : UInt64) : UInt64 :=
  (word >>> distance) ||| (word <<< (64 - distance))

/-- The square after four of its words are mixed with two words of the block. -/
def mix (square : Array UInt64) (lane : Nat × Nat × Nat × Nat) (x y : UInt64) : Array UInt64 :=
  let (i, j, k, l) := lane
  let (a, b, c, d) := (square.getD i 0, square.getD j 0, square.getD k 0, square.getD l 0)
  let a := a + b + x
  let d := turn (d ^^^ a) 32
  let c := c + d
  let b := turn (b ^^^ c) 24
  let a := a + b + y
  let d := turn (d ^^^ a) 16
  let c := c + d
  let b := turn (b ^^^ c) 63
  (((square.setIfInBounds i a).setIfInBounds j b).setIfInBounds k c).setIfInBounds l d

/-- The words that the state starts from. -/
def start : Array UInt64 :=
  ((Sha2.roots 64 0).map UInt64.ofNat).toArray

/-- The state after a block; how much of the message there was so far, and whether it is the last
block. -/
def block (state : Array UInt64) (words : Array UInt64) (count : Nat) (last : Bool) :
    Array UInt64 :=
  let low := (start.setIfInBounds 4 (start.getD 4 0 ^^^ UInt64.ofNat count))
  let low := if last then low.setIfInBounds 6 (~~~(low.getD 6 0)) else low
  let square := (List.range 12).foldl (fun square round =>
    let order := orders.getD (round % 10) #[]
    lanes.zipIdx.foldl (fun square (lane, i) =>
      let word (place : Nat) : UInt64 := words.getD (order.getD place 0) 0
      mix square lane (word (2 * i)) (word (2 * i + 1))) square) (state ++ low)
  ((List.range 8).map fun i =>
    state.getD i 0 ^^^ square.getD i 0 ^^^ square.getD (i + 8) 0).toArray

/-- The digest of a message, of some octets. -/
def digest (length : Nat) (message : Bytes) : Bytes :=
  let parameters : UInt64 := 0x01010000 ^^^ UInt64.ofNat length
  let state := start.setIfInBounds 0 (start.getD 0 0 ^^^ parameters)
  let all := groups 128 message
  let all := if all.isEmpty then [[]] else all
  let after := all.zipIdx.foldl (fun state (piece, i) =>
    let full := piece ++ List.replicate (128 - piece.length) 0
    let words := ((groups 8 full).map fun p => UInt64.ofNat (ofLow p)).toArray
    block state words (128 * i + piece.length) (i + 1 = all.length)) state
  (after.toList.flatMap fun word => octetsLow 8 word.toNat).take length

end Fleet.Digest.Blake2
