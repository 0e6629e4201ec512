import Fleet.Tools.Inputs

/-!
# Parts of lines

The tool `cut`: it prints some of the octets or fields of each line, which a list of numbers and
ranges names.
-/

namespace Fleet.Tools

open Shell

namespace Fields

/-- Numbers from a first to a last one; without a last one there is no end. -/
structure Span : Type where
  first : Nat
  last : Option Nat
  deriving Repr

/-- Whether a number is in a span. -/
def Span.has (s : Span) (n : Nat) : Bool :=
  s.first ≤ n && s.last.all (n ≤ ·)

/-- What is wrong with a list. -/
inductive Fault : Type where
  | twoHyphens
  | zero
  | noEnds
  | decreasing
  | tooLarge (digits : Octets)
  | unknown (rest : Octets)
  deriving Repr

/-- What is said about a list, of fields or of octets. -/
def Fault.message (ofFields : Bool) : Fault → Octets
  | twoHyphens =>
    (if ofFields then "invalid field range" else "invalid byte or character range").toList
  | zero =>
    (if ofFields then "fields are numbered from 1"
      else "byte/character positions are numbered from 1").toList
  | noEnds => "invalid range with no endpoint: -".toList
  | decreasing => "invalid decreasing range".toList
  | tooLarge digits =>
    (if ofFields then "field number " else "byte/character offset ").toList ++
      Quoting.value digits ++ " is too large".toList
  | unknown rest =>
    (if ofFields then "invalid field value " else "invalid byte/character position ").toList ++
      Quoting.value rest

/-- What has been read of an item of a list. -/
structure Item : Type where
  /-- The digits in front of the hyphen. -/
  low : Octets := []
  hyphen : Bool := false
  /-- The digits behind the hyphen. -/
  high : Octets := []
  deriving Repr

/-- The span that an item is. -/
def Item.span (i : Item) : Except Fault Span := do
  let first := if i.low.isEmpty then 1 else number i.low
  if !i.hyphen then
    if number i.low = 0 then throw .zero
    return ⟨first, some first⟩
  if i.low.isEmpty && i.high.isEmpty then throw .noEnds
  if i.high.isEmpty then return ⟨first, none⟩
  if number i.high < first then throw .decreasing
  return ⟨first, some (number i.high)⟩

/-- The spans of a list, of which an item has been begun; commas and blanks end items. -/
def spans (i : Item) : Octets → Except Fault (List Span)
  | [] => i.span.map fun s => [s]
  | c :: rest => do
    if c = '-' then
      if i.hyphen then throw .twoHyphens
      if !i.low.isEmpty && number i.low = 0 then throw .zero
      spans { i with hyphen := true } rest
    else if c = ',' || c = ' ' || c = '\t' then
      let s ← i.span
      return s :: (← spans {} rest)
    else if c.isDigit then
      let digits := (if i.hyphen then i.high else i.low) ++ [c]
      if numberLimit ≤ number digits then
        throw (.tooLarge (digits ++ rest.takeWhile Char.isDigit))
      spans (if i.hyphen then { i with high := digits } else { i with low := digits }) rest
    else throw (.unknown (c :: rest))

/-- Spans in order, overlapping ones together. -/
def merged (all : List Span) : List Span :=
  let ordered := all.mergeSort fun a b => a.first ≤ b.first
  (ordered.foldl (fun (done : List Span) s =>
    match done with
    | last :: before =>
      if last.last.all (s.first ≤ ·) then
        let stop := match last.last, s.last with
          | some a, some b => some (max a b)
          | _, _ => none
        ⟨last.first, stop⟩ :: before
      else s :: last :: before
    | [] => [s]) []).reverse

/-- The numbers from the given one on that spans in order leave out. -/
def gaps : Nat → List Span → List Span
  | n, [] => [⟨n, none⟩]
  | n, s :: rest =>
    let own : List Span := if n < s.first then [⟨n, some (s.first - 1)⟩] else []
    match s.last with
    | some last => own ++ gaps (last + 1) rest
    | none => own

/-- What is printed of lines. -/
structure Selection : Type where
  spans : List Span
  /-- What separates fields, if fields are selected. -/
  delimiter : Option Char
  /-- What is printed between the parts. -/
  between : Option Octets
  /-- Whether lines without any delimiter are left out. -/
  onlyDelimited : Bool
  mark : Char
  deriving Repr

/-- The items of a list that spans name. -/
def pick {α : Type} (all : List Span) (items : List α) : List α :=
  (items.zipIdx 1).filterMap fun (x, n) => if all.any (·.has n) then some x else none

/-- The selected octets of a line, those of each span by themselves. -/
def pieces (all : List Span) (line : Octets) : List Octets :=
  (all.map fun s => pick [s] line).filter (!·.isEmpty)

/-- What is printed of a text. -/
def Selection.of (s : Selection) (text : Octets) : Octets :=
  let lines := recordsOf s.mark text
  match s.delimiter with
  | none =>
    unrecords s.mark (lines.map fun line => joined (s.between.getD []) (pieces s.spans line))
  | some delimiter =>
    let between := s.between.getD [delimiter]
    if delimiter = s.mark then
      if lines.isEmpty then [] else joined between (pick s.spans lines) ++ [s.mark]
    else
      unrecords s.mark (lines.filterMap fun line =>
        if line.contains delimiter then
          some (joined between (pick s.spans (line.splitOn delimiter)))
        else if s.onlyDelimited then none
        else some line)

/-- What options ask for. -/
def selectionOf (g : Given) : Except Octets Selection := do
  let lists := g.options.filter fun (key, _) => key == 'b' || key == 'c' || key == 'f'
  if (g.valuesOf 'd').any (1 < ·.length) then
    throw "the delimiter must be a single character".toList
  match lists with
  | [] => throw "you must specify a list of bytes, characters, or fields".toList
  | [(key, list)] =>
    let ofFields := key == 'f'
    if !ofFields && g.has 'd' then
      throw "an input delimiter may be specified only when operating on fields".toList
    if !ofFields && g.has 's' then
      throw
        ("suppressing non-delimited lines makes sense\n" ++
          "\tonly when operating on fields").toList
    let all ← (spans {} (list.getD [])).mapError (Fault.message ofFields)
    let all := merged all
    let delimiter := match g.value? 'd' with
      | some text => text.headD '\x00'
      | none => '\t'
    pure
      { spans := if g.has 'C' then gaps 1 all else all
        delimiter := if ofFields then some delimiter else none
        between := (g.value? 'O').map fun text => if text.isEmpty then ['\x00'] else text
        onlyDelimited := g.has 's'
        mark := lineMark g }
  | _ => throw "only one list may be specified".toList

end Fields

/-- Prints parts of lines. -/
def cut : Tool :=
  withOptions [valued 'b' ["bytes"], valued 'c' ["characters"], valued 'd' ["delimiter"],
    valued 'f' ["fields"], flag 'n', flag 's' ["only-delimited"], flag 'z' ["zero-terminated"],
    named 'C' "complement", named 'O' "output-delimiter" .value] fun g =>
  orMisuse (Fields.selectionOf g) fun selection => filterEach g.operands selection.of

end Fleet.Tools
