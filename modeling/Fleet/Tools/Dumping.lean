import Fleet.Digest.Basic
import Fleet.Tools.Inputs

/-!
# Showing octets

The tool `od`: it prints the octets of files in blocks, each in one or several forms, as numbers of
several sizes or as characters, behind the place where a block starts.
-/

namespace Fleet.Tools

open Shell

namespace Dumping

/-- What an item is shown as. -/
inductive Kind : Type where
  | named
  | character
  | signed
  | unsigned
  | octal
  | hexadecimal
  deriving Repr, DecidableEq

/-- A form in which blocks are shown. -/
structure Form : Type where
  kind : Kind
  /-- How many octets are an item. -/
  size : Nat
  /-- Whether the octets are shown as text as well. -/
  withText : Bool := false
  deriving Repr

/-- How wide an item is. -/
def Form.width (f : Form) : Nat :=
  let ofSize (sizes : List Nat) : Nat :=
    sizes.getD (match f.size with | 1 => 0 | 2 => 1 | 4 => 2 | _ => 3) 0
  match f.kind with
  | .named | .character => 3
  | .signed => ofSize [4, 6, 11, 20]
  | .unsigned => ofSize [3, 5, 10, 20]
  | .octal => ofSize [3, 6, 11, 22]
  | .hexadecimal => ofSize [2, 4, 8, 16]

/-- The names of the first octets. -/
def names : List String :=
  ["nul", "soh", "stx", "etx", "eot", "enq", "ack", "bel", "bs", "ht", "nl", "vt", "ff", "cr",
    "so", "si", "dle", "dc1", "dc2", "dc3", "dc4", "nak", "syn", "etb", "can", "em", "sub", "esc",
    "fs", "gs", "rs", "us", "sp"]

/-- An octet as a character, an escape or three octal digits. -/
def character (c : Char) : Octets :=
  match c with
  | '\x00' => ['\\', '0']
  | _ =>
    match Quoting.letter? c with
    | some letter => ['\\', letter]
    | none => if Quoting.isPrintable c then [c] else (Quoting.octal c).tail

/-- Digits of a number, filled up with zeros. -/
def digits (base width n : Nat) : Octets :=
  let text := Nat.toDigits base n
  List.replicate (width - text.length) '0' ++ text

/-- An item as it is shown. -/
def Form.item (f : Form) (octets : Octets) : Octets :=
  let n := Digest.ofLow (octets.map fun c => UInt8.ofNat c.toNat)
  match f.kind with
  | .named =>
    let low := n % 128
    if low = 127 then "del".toList
    else (names[low]?.map String.toList).getD [Char.ofNat low]
  | .character => character (octets.headD ' ')
  | .signed =>
    let bound := Nat.pow 256 f.size
    (toString (if 2 * n < bound then (n : Int) else n - bound)).toList
  | .unsigned => decimal n
  | .octal => digits 8 f.width n
  | .hexadecimal => digits 16 f.width n

/-- How blocks are shown. -/
structure Plan : Type where
  forms : List Form
  /-- How many octets are a block. -/
  block : Nat
  /-- The base of places, if they are shown. -/
  base : Option Nat
  /-- Whether blocks that are like the one before are shown. -/
  all : Bool

/-- A place as it is shown. -/
def Plan.place (plan : Plan) (n : Nat) : Octets :=
  match plan.base with
  | some 16 => digits 16 6 n
  | some base => digits base 7 n
  | none => []

/-- How much room the items of a block take in all forms. -/
def Plan.room (plan : Plan) : Nat :=
  (plan.forms.map fun f => (f.width + 1) * (plan.block / f.size)).foldl max 0

/-- A block in a form. -/
def Plan.row (plan : Plan) (f : Form) (octets : Octets) : Octets :=
  let count := plan.block / f.size
  let spare := plan.room - f.width * count
  let rest (i : Nat) : Nat := spare * (count - i) / count
  let items := (Fleet.groups f.size octets).zipIdx.map fun (item, i) =>
    rightAligned (f.width + rest i - rest (i + 1))
      (f.item (item ++ List.replicate (f.size - item.length) '\x00'))
  let shown := items.flatten
  if f.withText then
    let filled := shown ++ List.replicate (plan.room - shown.length) ' '
    filled ++ "  >".toList ++ octets.map (fun c => if Quoting.isPrintable c then c else '.') ++
      ['<']
  else shown

/-- A block in all forms. -/
def Plan.rows (plan : Plan) (start : Nat) (octets : Octets) : Octets :=
  let place := plan.place start
  (plan.forms.zipIdx.map fun (f, i) =>
    (if i = 0 then place else List.replicate place.length ' ') ++ plan.row f octets ++
      ['\n']).flatten

/-- Blocks from a place on. One that is like the one before is left out, which a mark shows. -/
def Plan.blocks (plan : Plan) : Nat → Option Octets → Bool → List Octets → Octets
  | _, _, _, [] => []
  | start, before, marked, octets :: rest =>
    let next := start + octets.length
    if some octets == before && octets.length = plan.block && !plan.all then
      (if marked then [] else ['*', '\n']) ++ plan.blocks next before true rest
    else plan.rows start octets ++ plan.blocks next (some octets) false rest

/-- The size that a letter or a number behind a kind stands for, and what follows. -/
def sizeOf (usual : Nat) (cs : Octets) : Nat × Octets :=
  match cs with
  | 'C' :: rest => (1, rest)
  | 'S' :: rest => (2, rest)
  | 'I' :: rest => (4, rest)
  | 'L' :: rest => (8, rest)
  | _ =>
    let digits := cs.takeWhile Char.isDigit
    (if digits.isEmpty then usual else number digits, cs.drop digits.length)

/-- The forms that a text describes. -/
def formsOf (whole : Octets) : Nat → Octets → Except Octets (List Form)
  | 0, _ => .ok []
  | _, [] => .ok []
  | n + 1, c :: rest => do
    let kind? : Option Kind :=
      [('a', .named), ('c', .character), ('d', .signed), ('u', .unsigned), ('o', .octal),
        ('x', .hexadecimal)].lookup c
    match kind? with
    | none =>
      throw ("invalid character '".toList ++ [c] ++ "' in type string ".toList ++
        Quoting.value whole)
    | some kind =>
      let (size, rest) :=
        if kind = .named || kind = .character then (1, rest) else sizeOf 4 rest
      if !([1, 2, 4, 8].contains size) then
        throw ("invalid type string ".toList ++ Quoting.value whole ++
          ";\nthis system doesn't provide a ".toList ++ decimal size ++
          "-byte integral type".toList)
      let withText := rest.head? == some 'z'
      let more ← formsOf whole n (if withText then rest.tail else rest)
      pure ({ kind, size, withText } :: more)

/-- The forms that letters alone stand for. -/
def letterForms : List (Char × Form) :=
  [('a', ⟨.named, 1, false⟩), ('b', ⟨.octal, 1, false⟩), ('B', ⟨.octal, 2, false⟩),
    ('c', ⟨.character, 1, false⟩), ('d', ⟨.unsigned, 2, false⟩), ('D', ⟨.unsigned, 4, false⟩),
    ('h', ⟨.hexadecimal, 2, false⟩), ('H', ⟨.hexadecimal, 4, false⟩), ('i', ⟨.signed, 4, false⟩),
    ('I', ⟨.signed, 8, false⟩), ('l', ⟨.signed, 8, false⟩), ('L', ⟨.signed, 8, false⟩),
    ('o', ⟨.octal, 2, false⟩), ('O', ⟨.octal, 4, false⟩), ('s', ⟨.signed, 2, false⟩),
    ('x', ⟨.hexadecimal, 2, false⟩), ('X', ⟨.hexadecimal, 4, false⟩)]

/-- A number of octets: decimal, octal after a zero, or hexadecimal after `0x`, perhaps with a
unit. -/
def amount? (text : Octets) : Option Nat :=
  let (base, body) := match text with
    | '0' :: 'x' :: rest | '0' :: 'X' :: rest => (16, rest)
    | '0' :: rest => (8, '0' :: rest)
    | text => (10, text)
  let isDigit (c : Char) : Bool :=
    match base with
    | 16 => c.isDigit || ('a' ≤ c.toLower && c.toLower ≤ 'f')
    | 8 => '0' ≤ c && c ≤ '7'
    | _ => c.isDigit
  let own := body.takeWhile isDigit
  let value (c : Char) : Nat := if c.isDigit then c.toNat - '0'.toNat else c.toLower.toNat - 87
  if own.isEmpty then none
  else
    (unitOf? (body.drop own.length)).map fun unit =>
      own.foldl (fun n c => n * base + value c) 0 * unit

/-- The place that the last operand gives, in octal digits after a plus. -/
def offset? (operands : List Octets) : Option Nat :=
  match operands.getLast? with
  | some ('+' :: digits) =>
    let body := if digits.getLast? == some '.' then digits.dropLast else digits
    let base := if body.length < digits.length then 10 else 8
    if !body.isEmpty && operands.length ≤ 2 && body.all Char.isDigit then
      some (body.foldl (fun n c => n * base + (c.toNat - '0'.toNat)) 0)
    else none
  | _ => none

/-- The number that an option gives. -/
def amountOf (g : Given) (key : Char) : Except Octets (Option Nat) :=
  match g.value? key with
  | none => .ok none
  | some text =>
    match amount? text with
    | some n => .ok (some n)
    | none => .error (['i', 'n', 'v', 'a', 'l', 'i', 'd', ' ', '-', key] ++ " argument ".toList ++
      Quoting.value text)

/-- The base of places. -/
def baseOf (g : Given) : Except Octets (Option Nat) :=
  match (g.value? 'A').getD ['o'] with
  | 'o' :: _ => .ok (some 8)
  | 'd' :: _ => .ok (some 10)
  | 'x' :: _ => .ok (some 16)
  | 'n' :: _ => .ok none
  | other =>
    .error ("invalid output address radix '".toList ++ other.take 1 ++
      "'; it must be one character from [doxn]".toList)

/-- Prints the octets of files. -/
def run (g : Given) : StateM Process Nat := do
  let forms : Except Octets (List Form) := do
    pure (← g.options.mapM fun (key, value) =>
      match key, value with
      | 't', some text => formsOf text (text.length + 1) text
      | key, _ => .ok (letterForms.lookup key).toList).flatten
  let plan : Except Octets (Plan × Nat × Option Nat × Option Nat) := do
    let base ← baseOf g
    let skipped ← amountOf g 'j'
    let limit ← amountOf g 'N'
    let forms ← forms
    let forms := if forms.isEmpty then [⟨.octal, 2, false⟩] else forms
    let least := (forms.map Form.size).foldl max 1
    let wished ← if g.has 'w' && (g.value? 'w').isNone then pure (some 32) else amountOf g 'w'
    let (block, refused) := match wished with
      | none => (least * (16 / least), none)
      | some n => if n ≠ 0 && n % least = 0 then (n, none) else (least, some n)
    pure ({ forms, block, base, all := g.has 'v' }, skipped.getD 0, limit, refused)
  orFault plan fun (plan, skipped, limit, refused) => do
    let offset := offset? g.operands
    let paths := if offset.isSome then g.operands.dropLast else g.operands
    let skipped := offset.getD skipped
    let (texts, good) ← sources paths
    let whole := (texts.map Prod.snd).flatten
    match refused with
    | some n =>
      fault ("warning: invalid width ".toList ++ decimal n ++ "; using ".toList ++
        decimal plan.block ++ " instead".toList)
    | none => pure ()
    if whole.length < skipped then
      fault "cannot skip past end of combined input".toList
      pure 1
    else
      let text := whole.drop skipped
      let text := match limit with
        | some n => text.take n
        | none => text
      let last := plan.place (skipped + text.length)
      -- Without any file that can be read there is nothing to end.
      let close := if last.isEmpty || (texts.isEmpty && !good) then [] else last ++ ['\n']
      say (plan.blocks skipped none false (Fleet.groups plan.block text) ++ close)
      pure (codeOf good)

end Dumping

/-- Shows octets. -/
def od : Tool :=
  withOptions ([valued 'A' ["address-radix"], valued 'j' ["skip-bytes"],
    valued 'N' ["read-bytes"], valued 't' ["format"], flag 'v' ["output-duplicates"],
    perhapsValued 'w' ["width"]] ++ Dumping.letterForms.map fun (letter, _) => flag letter)
    Dumping.run

end Fleet.Tools
