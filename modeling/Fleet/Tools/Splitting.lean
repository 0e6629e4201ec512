import Fleet.Tools.Inputs

/-!
# Files in pieces

A tool that writes the parts of a file to files of their own: as many lines or octets each as are
wanted, or as many parts as are wanted.
-/

namespace Fleet.Tools

open Shell

namespace Splitting

/-- What the parts are. -/
inductive Manner : Type where
  | lines (count : Nat)
  | octets (count : Nat)
  /-- As many whole lines as there is room for. -/
  | room (size : Nat)
  /-- As many parts as are wanted; perhaps only one of them is printed. -/
  | parts (only : Option Nat) (count : Nat)
  /-- As many parts as are wanted, which consist of whole lines. -/
  | lineParts (only : Option Nat) (count : Nat)
  /-- As many parts as are wanted, to which lines go in turn. -/
  | turns (only : Option Nat) (count : Nat)
  deriving Repr

/-! ## Parts -/

/-- Parts of a sequence of as many elements each as are wanted; at most the given number. -/
def chunks {α : Type} (count : Nat) : Nat → List α → List (List α)
  | 0, items => [items]
  | n + 1, items =>
    if items.isEmpty then [] else items.take count :: chunks count n (items.drop count)

/-- Parts that lines fit into; `own` is the part that is being filled. Lines that are too long are
cut; at most the given number of steps is made. -/
def fitted (size : Nat) : Nat → Octets → List Octets → List Octets
  | 0, own, lines => [own ++ lines.flatten]
  | _, own, [] => if own.isEmpty then [] else [own]
  | n + 1, own, line :: rest =>
    if own.length + line.length ≤ size then fitted size n (own ++ line) rest
    else if !own.isEmpty then own :: fitted size n [] (line :: rest)
    else line.take size :: fitted size n [] (line.drop size :: rest)

/-- Where each of several parts ends, if the first ones take up what is left over. -/
def bounds (length count : Nat) : List Nat :=
  (List.range count).map fun i => (i + 1) * (length / count) + min (i + 1) (length % count)

/-- Parts of a text that end at given places. -/
def cutAtPlaces : Nat → List Nat → Octets → List Octets
  | _, [], _ => []
  | start, stop :: rest, text =>
    text.take (stop - start) :: cutAtPlaces stop rest (text.drop (stop - start))

/-- Parts of whole lines, one for each place where a part would end; lines belong to the part in
which they start. The number of octets before is given. -/
def wholeParts : Nat → List Nat → List Octets → List Octets
  | _, [], _ => []
  | start, stop :: rest, lines =>
    let ends := (lines.foldl (fun (all : List Nat × Nat) line =>
      (all.1 ++ [all.2], all.2 + line.length)) ([], start)).1
    let count := ends.countP (· < stop)
    let own := (lines.take count).flatten
    own :: wholeParts (start + own.length) rest (lines.drop count)

/-- Every so-many-th line, from one on. -/
def everyNth (count place : Nat) (lines : List Octets) : Octets :=
  (lines.zipIdx.filterMap fun (line, i) => if i % count = place then some line else none).flatten

/-- The parts of a text. -/
def Manner.pieces (manner : Manner) (mark : Char) (text : Octets) : List Octets :=
  let lines := keepEnds mark text
  match manner with
  | .lines count => (chunks count (lines.length + 1) lines).map List.flatten
  | .octets count => chunks count (text.length + 1) text
  | .room size => fitted size (2 * text.length + 2) [] lines
  | .parts _ count => cutAtPlaces 0 (bounds text.length count) text
  | .lineParts _ count => wholeParts 0 (bounds text.length count) lines
  | .turns _ count => (List.range count).map fun i => everyNth count i lines

/-- The number of the part that is printed, if only one is. -/
def Manner.only? : Manner → Option Nat
  | .parts only _ | .lineParts only _ | .turns only _ => only
  | _ => none

/-- How many parts there are, if that is known. -/
def Manner.count? : Manner → Option Nat
  | .parts _ count | .lineParts _ count | .turns _ count => some count
  | _ => none

/-! ## Names -/

/-- How parts are named. -/
structure Naming : Type where
  start : Octets
  digits : Octets
  length : Nat
  /-- Whether names get longer when there are no more. -/
  grows : Bool
  /-- The number of the first part. -/
  first : Nat
  suffix : Octets
  deriving Repr

/-- A power. -/
def power (base : Nat) : Nat → Nat
  | 0 => 1
  | n + 1 => base * power base n

/-- A number in given digits, as many as wanted. -/
def inDigits (digits : Octets) : Nat → Nat → Octets
  | 0, _ => []
  | n + 1, i =>
    inDigits digits n (i / digits.length) ++ [digits.getD (i % digits.length) '0']

/-- The distinguishing part of a name. Names that start with the last digit are set aside for longer
names; at most the given number of times. -/
def growing (digits : Octets) : Nat → Nat → Nat → Octets
  | 0, length, i => inDigits digits length i
  | n + 1, length, i =>
    let room := (digits.length - 1) * power digits.length (length - 1)
    if i < room then inDigits digits length i
    else (digits.getLast?).toList ++ growing digits n (length + 1) (i - room)

/-- The name of a part, if there is one. -/
def Naming.name? (naming : Naming) (i : Nat) : Option Octets :=
  let wrapped (word : Octets) : Octets := naming.start ++ word ++ naming.suffix
  if naming.grows then some (wrapped (growing naming.digits 20 naming.length i))
  else if naming.first + i < power naming.digits.length naming.length then
    some (wrapped (inDigits naming.digits naming.length (naming.first + i)))
  else none

/-- Writes parts to files; those that are empty may be left out. -/
def write (naming : Naming) (verbose : Bool) : Nat → List Octets → StateM Process Nat
  | _, [] => pure 0
  | i, part :: rest => do
    match naming.name? i with
    | none => do
      fault "output file suffixes exhausted".toList
      pure 1
    | some path => do
      if verbose then say ("creating file ".toList ++ Quoting.name path ++ ['\n'])
      match (← get).save path part.toBytes with
      | .error e => do
        fault (Quoting.lead path ++ ": ".toList ++ e.description.toList)
        pure 1
      | .ok p => do
        set p
        write naming verbose (i + 1) rest

/-! ## Options -/

/-- A number that is not 0. -/
def positive? (text : Octets) : Option Nat :=
  if !text.isEmpty && text.all Char.isDigit && number text ≠ 0 then some (number text) else none

/-- How many parts there are, and which of them is wanted. -/
def countsOf (text : Octets) : Except Octets (Option Nat × Nat) :=
  let wrong (part : Octets) : Except Octets (Option Nat × Nat) :=
    .error ("invalid number of chunks: ".toList ++ Quoting.value part)
  match text.splitOn '/' with
  | [count] =>
    match positive? count with
    | some n => .ok (none, n)
    | none => wrong count
  | [own, count] =>
    match positive? count, positive? own with
    | some n, some k =>
      if k ≤ n then .ok (some k, n)
      else .error ("invalid chunk number: ".toList ++ Quoting.value own)
    | some _, none => .error ("invalid chunk number: ".toList ++ Quoting.value own)
    | none, _ => wrong count
  | _ => wrong text

/-- What the parts are, by one option. -/
def mannerOf (key : Char) (text : Octets) : Except Octets Manner :=
  let sized (what : String) (make : Nat → Manner) : Except Octets Manner :=
    match countOf what text with
    | .ok 0 => .error (("invalid " ++ what ++ ": ").toList ++ Quoting.value text)
    | .ok n => .ok (make n)
    | .error e => .error e
  if key = 'b' then sized "number of bytes" .octets
  else if key = 'C' then sized "number of lines" .room
  else if key = 'n' then
    match text with
    | 'l' :: '/' :: rest => (countsOf rest).map fun (only, n) => .lineParts only n
    | 'r' :: '/' :: rest => (countsOf rest).map fun (only, n) => .turns only n
    | _ => (countsOf text).map fun (only, n) => .parts only n
  else
    match positive? text with
    | some n => .ok (.lines n)
    | none => .error ("invalid number of lines: ".toList ++ Quoting.value text)

/-- The octets of a number in digits, if it is one. -/
def startOf? (digits : Octets) (text : Octets) : Option Nat :=
  if text.isEmpty then none
  else text.foldlM (fun n c => (digits.idxOf? c).map fun d => n * digits.length + d) 0

end Splitting

/-- Writes the parts of a file to files of their own. -/
def split : Tool :=
  withOptions
    (("0123456789".toList.map fun c => flag c) ++
    [valued 'a' ["suffix-length"], valued 'b' ["bytes"], valued 'C' ["line-bytes"], flag 'd',
      flag 'e' ["elide-empty-files"], valued 'l' ["lines"], valued 'n' ["number"],
      valued 't' ["separator"], flag 'u' ["unbuffered"], flag 'x',
      named 'A' "additional-suffix" .value, named 'D' "numeric-suffixes" .perhaps,
      named 'X' "hex-suffixes" .perhaps, named 'V' "verbose"]) fun g => do
  let digits := (g.options.map Prod.fst).filter Char.isDigit
  let ways := g.options.filter fun (key, _) => "bCln".toList.contains key
  let manner : Except (Octets × Bool) Splitting.Manner :=
    match ways, digits with
    | [], [] => .ok (.lines 1000)
    | [], digits => (Splitting.mannerOf 'l' digits).mapError (·, false)
    | [(key, text)], [] => (Splitting.mannerOf key (text.getD [])).mapError (·, false)
    | _, _ => .error ("cannot split in more than one way".toList, true)
  let hexadecimal := g.lastOf ['x', 'X', 'd', 'D']
  let isHexadecimal := hexadecimal = some 'x' || hexadecimal = some 'X'
  let alphabet := match hexadecimal with
    | none => "abcdefghijklmnopqrstuvwxyz".toList
    | some _ => if isHexadecimal then "0123456789abcdef".toList else "0123456789".toList
  let plan : Except (Octets × Bool) (Splitting.Manner × Splitting.Naming × Char) := do
    let manner ← manner
    let suffix := (g.value? 'A').getD []
    if suffix.contains '/' then
      throw ("invalid suffix ".toList ++ Quoting.value suffix ++
        ", contains directory separator".toList, true)
    let mark ← match (g.value? 't').getD ['\n'] with
      | [c] => pure c
      | ['\\', '0'] => pure '\x00'
      | [] => throw ("empty record separator".toList, false)
      | text => throw ("multi-character separator ".toList ++ Quoting.value text, false)
    let given := if isHexadecimal then g.value? 'X' else g.value? 'D'
    let first ← match given with
      | none => pure 0
      | some text =>
        match Splitting.startOf? alphabet text with
        | some n => pure n
        | none =>
          let kind := if isHexadecimal then "hexadecimal" else "numerical"
          throw (Quoting.value text ++ (": invalid start value for " ++ kind ++ " suffix").toList,
            true)
    let wished ← match g.value? 'a' with
      | none => pure none
      | some text =>
        if !text.isEmpty && text.all Char.isDigit then
          pure (if number text = 0 then none else some (number text))
        else throw ("invalid suffix length: ".toList ++ Quoting.value text, false)
    let needed := match manner.count? with
      | none => 0
      | some n =>
        let lengths := (List.range 20).map (· + 1)
        let fits := lengths.find? fun k => n ≤ Splitting.power alphabet.length k
        fits.getD 20
    if wished.any (· < needed) then
      throw ("the suffix length needs to be at least ".toList ++ decimal needed, false)
    let naming : Splitting.Naming :=
      { start := (g.operands[1]?).getD ['x']
        digits := alphabet
        length := wished.getD (max 2 needed)
        grows := wished.isNone && manner.count?.isNone && given.isNone
        first
        suffix }
    pure (manner, naming, mark)
  match plan, g.operands with
  | .error (message, true), _ => do
    misuse message
    pure 1
  | .error (message, false), _ => do
    fault message
    pure 1
  | .ok _, _ :: _ :: extra :: _ => do
    misuse ("extra operand ".toList ++ Quoting.value extra)
    pure 1
  | .ok (manner, naming, mark), operands => do
    let path := operands.headD ['-']
    match ← readSource path with
    | .error u => do
      if u.opened then fault (Quoting.lead path ++ ": ".toList ++ u.error.description.toList)
      else
        fault ("cannot open ".toList ++ Quoting.name path ++ " for reading: ".toList ++
          u.error.description.toList)
      pure 1
    | .ok text =>
      let parts := manner.pieces mark text
      match manner.only? with
      | some k => do
        say (parts.getD (k - 1) [])
        pure 0
      | none =>
        let parts := if g.has 'e' then parts.filter (!·.isEmpty) else parts
        Splitting.write naming (g.has 'V') 0 parts

end Fleet.Tools
