import Fleet.Text.Octets
import Fleet.Tools.Inputs

/-!
# Octets as letters

The tools `base64`, `base32` and `basenc`: they write octets with few letters, each of which stands
for some bits, and read them again.
-/

namespace Fleet.Tools

open Shell

/-- A way to write octets with letters. -/
structure Encoding : Type where
  letters : Octets
  /-- How many bits a letter stands for. -/
  bits : Nat
  /-- How many letters make a group, which stands for whole octets. -/
  group : Nat
  /-- Whether the last group is filled up. -/
  fills : Bool := true
  /-- Whether the lowest bits stand first. -/
  lowFirst : Bool := false
  /-- Whether a group that ends too early counts as far as it goes. -/
  partly : Bool := false
  /-- Whether small letters count as capital ones. -/
  folds : Bool := false

namespace Encoding

/-- The usual letters and digits. -/
def letterDigits : Octets :=
  "ABCDEFGHIJKLMNOPQRSTUVWXYZabcdefghijklmnopqrstuvwxyz0123456789".toList

/-- Six bits to a letter. -/
def base64 : Encoding where
  letters := letterDigits ++ ['+', '/']
  bits := 6
  group := 4
  partly := true

/-- Six bits to a letter, all of which may stand in addresses. -/
def base64url : Encoding :=
  { base64 with letters := letterDigits ++ ['-', '_'] }

/-- Five bits to a letter. -/
def base32 : Encoding where
  letters := "ABCDEFGHIJKLMNOPQRSTUVWXYZ234567".toList
  bits := 5
  group := 8

/-- Five bits to a letter, which are in their order. -/
def base32hex : Encoding :=
  { base32 with letters := "0123456789ABCDEFGHIJKLMNOPQRSTUV".toList }

/-- Four bits to a digit. -/
def base16 : Encoding where
  letters := "0123456789ABCDEF".toList
  bits := 4
  group := 2
  fills := false

/-- One bit to a digit. -/
def base2 (lowFirst : Bool) : Encoding where
  letters := ['0', '1']
  bits := 1
  group := 8
  fills := false
  lowFirst := lowFirst

/-- The bits of a number, the highest first. -/
def bitsOf (count n : Nat) : List Bool :=
  ((List.range count).map fun i => n.testBit i).reverse

/-- The number that bits are, the highest first. -/
def ofBits (bits : List Bool) : Nat :=
  bits.foldl (fun n b => 2 * n + b.toNat) 0

/-- The bits of an octet in the order in which they are written. -/
def octetBits (e : Encoding) (n : Nat) : List Bool :=
  if e.lowFirst then (bitsOf 8 n).reverse else bitsOf 8 n

/-- The letters for the octets of a group. -/
def encodeGroup (e : Encoding) (octets : Octets) : Octets :=
  let bits := octets.flatMap fun c => e.octetBits c.toNat
  let pieces := Fleet.groups e.bits bits
  let text := pieces.map fun piece =>
    e.letters.getD (ofBits (piece ++ List.replicate (e.bits - piece.length) false)) ' '
  text ++ if e.fills then List.replicate (e.group - text.length) '=' else []

/-- The letters for octets. -/
def encode (e : Encoding) (octets : Octets) : Octets :=
  (Fleet.groups (e.group * e.bits / 8) octets).flatMap e.encodeGroup

/-- The number that a letter stands for. -/
def value? (e : Encoding) (c : Char) : Option Nat :=
  e.letters.idxOf? (if e.folds then c.toUpper else c)

/-- The octets that a group of letters stands for, as far as it goes, and whether it is right. -/
def decodeGroup (e : Encoding) (group : Octets) : Octets × Bool :=
  let own := group.takeWhile fun c => (e.value? c).isSome
  let bits := (own.filterMap e.value?).flatMap (bitsOf e.bits)
  let octets := (Fleet.groups 8 bits).filter (·.length = 8)
  let isWhole := group.length = e.group
  let rest := group.drop own.length
  let filled := e.fills && rest.all (· == '=') && own.length * e.bits % 8 < e.bits &&
    !own.isEmpty
  let isRight := isWhole && (rest.isEmpty || filled)
  let text := octets.map fun bits =>
    Char.ofNat (ofBits (if e.lowFirst then bits.reverse else bits))
  (if isWhole || e.partly then text else [], isRight)

/-- The octets that groups of letters stand for, up to the first that is not right; and whether all
are. -/
def decodeGroups (e : Encoding) : List Octets → Octets × Bool
  | [] => ([], true)
  | group :: rest =>
    let (octets, isRight) := e.decodeGroup group
    if isRight then
      let (more, all) := decodeGroups e rest
      (octets ++ more, all)
    else (octets, false)

/-- The octets that a text of letters stands for, and whether it is right. Line ends do not count;
perhaps nothing else does that is no letter. -/
def decode (e : Encoding) (tolerant : Bool) (text : Octets) : Octets × Bool :=
  let counts (c : Char) : Bool :=
    c != '\n' && (!tolerant || c == '=' || (e.value? c).isSome)
  e.decodeGroups (Fleet.groups e.group (text.filter counts))

/-- A text in lines of some width; without a width in one line without an end. -/
def inLines (width : Nat) (text : Octets) : Octets :=
  if width = 0 then text else ((Fleet.groups width text).map (· ++ ['\n'])).flatten

/-- Writes the input with letters, or reads it. -/
def run (e : Encoding) (g : Given) : StateM Process Nat := do
  let widthText := (g.value? 'w').getD "76".toList
  let isNumber := !widthText.isEmpty && widthText.all Char.isDigit
  if !isNumber then
    fault ("invalid wrap size: ".toList ++ Quoting.value widthText)
    pure 1
  else
    match g.operands.drop 1 with
    | extra :: _ => do
      misuse ("extra operand ".toList ++ Quoting.value extra)
      pure 1
    | [] => do
      match ← readSource (g.operands.headD ['-']) with
      | .error u => do
        if u.opened then fault ("read error: ".toList ++ u.error.description.toList)
        else fault u.report
        pure 1
      | .ok text =>
        if g.has 'd' then
          let (octets, isRight) := e.decode (g.has 'i') text
          say octets
          if isRight then pure 0
          else do
            fault "invalid input".toList
            pure 1
        else do
          say (inLines (number widthText) (e.encode text))
          pure 0

/-- The options that all encodings know. -/
def options : List KnownOption :=
  [flag 'd' ["decode"], flag 'i' ["ignore-garbage"], valued 'w' ["wrap"]]

end Encoding

/-- Writes octets with 64 letters. -/
def base64 : Tool :=
  withOptions Encoding.options Encoding.base64.run

/-- Writes octets with 32 letters. -/
def base32 : Tool :=
  withOptions Encoding.options Encoding.base32.run

/-- Writes octets with letters as an option says. -/
def basenc : Tool :=
  withOptions (Encoding.options ++ [named '0' "base64", named '1' "base64url", named '2' "base32",
    named '3' "base32hex", named '4' "base16", named '5' "base2msbf", named '6' "base2lsbf"])
    fun g =>
  let encoding? : Option Encoding :=
    match g.lastOf "0123456".toList with
    | some '0' => some .base64
    | some '1' => some .base64url
    | some '2' => some .base32
    | some '3' => some .base32hex
    | some '4' => some .base16
    | some '5' => some (.base2 false)
    | some _ => some (.base2 true)
    | none => none
  match encoding? with
  | some e => e.run g
  | none => do
    misuse "missing encoding type".toList
    pure 1

end Fleet.Tools
