import Fleet.Shell.Pattern
import Fleet.Tools.Escapes
import Fleet.Tools.Inputs

/-!
# Replacing octets

The tool `tr`: it replaces the octets of one set by those of another, removes them, or removes their
repetitions. Sets are written with ranges, with names of classes and with repetitions.
-/

namespace Fleet.Tools

open Shell

namespace Characters

/-- A part of a set. -/
inductive Element : Type where
  | octet (c : Char)
  | range (low high : Char)
  | named (name : String)
  /-- What counts as the same as an octet, which is the octet alone. -/
  | alike (c : Char)
  /-- An octet several times; without a number as often as the other set needs it. -/
  | repeated (c : Char) (count : Option Nat)
  deriving Repr, DecidableEq

/-- Octets of a set as it is written, each with whether a backslash takes its meaning from it. -/
abbrev Source : Type :=
  List (Char × Bool)

/-- A set as it is written once its escapes are read, and warnings about them. -/
def unescaped : Nat → Octets → Source × List Octets
  | 0, _ => ([], [])
  | _, [] => ([], [])
  | _, ['\\'] =>
    ([('\\', false)],
      ["warning: an unescaped backslash at end of string is not portable".toList])
  | n + 1, '\\' :: c :: rest =>
    let digits := ((c :: rest).take 3).takeWhile isOctal
    let tooLarge := 255 < ofDigits 8 digits
    let used := if tooLarge then digits.take 2 else digits
    let (own, after) :=
      if digits.isEmpty then (((if c = 'e' then none else escape? c).getD c), rest)
      else (Char.ofNat (ofDigits 8 used), (c :: rest).drop used.length)
    let warning : List Octets :=
      if tooLarge then
        ["warning: the ambiguous octal escape \\".toList ++ digits ++
          " is being\n\tinterpreted as the 2-byte sequence \\0".toList ++ used ++
          ", ".toList ++ digits.drop 2]
      else []
    let (others, warnings) := unescaped n after
    ((own, true) :: others, warning ++ warnings)
  | n + 1, c :: rest =>
    let (others, warnings) := unescaped n rest
    ((c, false) :: others, warnings)

/-- An octet as it is shown in a message. -/
def shown (c : Char) : Octets :=
  if Quoting.isPrintable c then [c] else Quoting.octal c

/-- What stands between the opening of a bracket such as `[:` and its closing, and what follows. -/
def bracketed? (mark : Char) : Source → Option (Octets × Source)
  | (c, false) :: (']', false) :: rest =>
    if c = mark then some ([], rest)
    else (bracketed? mark ((']', false) :: rest)).map fun (text, rest) => (c :: text, rest)
  | (c, _) :: rest => (bracketed? mark rest).map fun (text, rest) => (c :: text, rest)
  | [] => none

/-- Whether an asterisk, digits and a closing bracket follow. -/
def isCounted : Source → Bool
  | ('*', false) :: rest =>
    (rest.dropWhile fun (c, escaped) => c.isDigit && !escaped).head? == some (']', false)
  | _ => false

/-- The repetition that starts after an opening bracket, and what follows; none if there is none. -/
def repetition? : Source → Except Octets (Option (Element × Source))
  | (c, _) :: ('*', false) :: rest =>
    let inner := rest.takeWhile fun (d, escaped) => d != ']' && !escaped
    let digits := inner.map Prod.fst
    match rest.drop inner.length with
    | (']', false) :: after =>
      let isOctalNumber := digits.head? == some '0'
      let isValid := digits.all fun d => if isOctalNumber then isOctal d else d.isDigit
      if digits.isEmpty then .ok (some (.repeated c none, after))
      else if !isValid then
        .error ("invalid repeat count ".toList ++ Quoting.value digits ++
          " in [c*n] construct".toList)
      else
        let base := if isOctalNumber then 8 else 10
        let count := digits.foldl (fun n d => n * base + (d.toNat - '0'.toNat)) 0
        .ok (some (.repeated c (if count = 0 then none else some count), after))
    | _ => .ok none
  | _ => .ok none

/-- The names of the classes of octets. -/
def classNames : List String :=
  ["alnum", "alpha", "blank", "cntrl", "digit", "graph", "lower", "print", "punct", "space",
    "upper", "xdigit"]

/-- What starts after an opening bracket, and what follows; none if the bracket is an octet. -/
def construct? (rest : Source) : Except Octets (Option (Element × Source)) :=
  let found : Option (Char × Octets × Source) :=
    match rest with
    | (':', false) :: inner => (bracketed? ':' inner).map fun (name, after) => (':', name, after)
    | ('=', false) :: inner => (bracketed? '=' inner).map fun (name, after) => ('=', name, after)
    | _ => none
  let counted := isCounted (rest.drop 1)
  match found with
  | some (':', [], _) => .error "missing character class name '[::]'".toList
  | some ('=', [], _) => .error "missing equivalence class character '[==]'".toList
  | some (':', name, after) =>
    if classNames.contains (String.ofList name) then
      .ok (some (.named (String.ofList name), after))
    else if counted then repetition? rest
    else .error ("invalid character class ".toList ++ Quoting.value (name.flatMap shown))
  | some (_, [c], after) => .ok (some (.alike c, after))
  | some (_, text, _) =>
    if counted then repetition? rest
    else
      .error (text.flatMap shown ++
        ": equivalence class operand must be a single character".toList)
  | none => repetition? rest

/-- The elements of a set. -/
def elements : Nat → Source → Except Octets (List Element)
  | 0, _ => .ok []
  | _, [] => .ok []
  | n + 1, (c, escaped) :: rest => do
    let construct ←
      if c = '[' && !escaped && 2 ≤ rest.length then construct? rest else pure none
    match construct, rest with
    | some (element, after), _ => return element :: (← elements n after)
    | none, ('-', false) :: (high, _) :: after =>
      if high < c then
        throw ("range-endpoints of '".toList ++ shown c ++ ['-'] ++ shown high ++
          "' are in reverse collating sequence order".toList)
      return .range c high :: (← elements n after)
    | none, rest => return .octet c :: (← elements n rest)

/-- The octets from one to another. -/
def between (low high : Char) : Octets :=
  (List.range (high.toNat + 1 - low.toNat)).map fun i => Char.ofNat (low.toNat + i)

/-- All octets. -/
def all : Octets :=
  between '\x00' 'ÿ'

/-- The octets of an element. -/
def Element.octets : Element → Octets
  | octet c | alike c => [c]
  | range low high => between low high
  | named name =>
    let ranges := Pattern.classRanges name
    all.filter fun c => ranges.any fun (low, high) => low ≤ c && c ≤ high
  | repeated c count => List.replicate (count.getD 0) c

/-- Whether an element is the class of upper or lower letters. -/
def Element.isCase : Element → Bool
  | named name => name == "upper" || name == "lower"
  | _ => false

/-- The octets of elements. -/
def octetsOf (es : List Element) : Octets :=
  es.flatMap Element.octets

/-- The set that is meant: the octets of elements, or all others. -/
def meant (others : Bool) (es : List Element) : Octets :=
  let own := octetsOf es
  if others then all.filter (!own.contains ·) else own

/-- Whether an element may be there several times over, as often as it is needed. -/
def Element.fills : Element → Bool
  | repeated _ none => true
  | _ => false

/-- The elements of the second set with a repetition filled so that it is as long as the first. -/
def filled (length : Nat) (es : List Element) : List Element :=
  let own := (octetsOf es).length
  es.map fun e =>
    match e with
    | .repeated c none => .repeated c (some (length - own))
    | e => e

/-- A piece of both sets: octets, or a class of letters that is changed into another one. -/
inductive Pair : Type where
  | octets (source image : Char)
  | letters (source image : String)
  deriving Repr

/-- A set as a list of octets and of classes of letters, which are kept if the other set may have
some. -/
def units (es : List Element) : List (Char ⊕ String) :=
  es.flatMap fun e =>
    match e with
    | .named name => if e.isCase then [.inr name] else e.octets.map .inl
    | e => e.octets.map .inl

/-- Two sets side by side; classes of letters in the second must stand beside such in the first.
What is left of the first set, and of the second, is given too. -/
def paired : Nat → List (Char ⊕ String) → List (Char ⊕ String) →
    Except Octets (List Pair × List (Char ⊕ String) × List (Char ⊕ String))
  | 0, xs, ys => .ok ([], xs, ys)
  | n + 1, xs, ys =>
    let misaligned {α : Type} : Except Octets α :=
      .error "misaligned [:upper:] and/or [:lower:] construct".toList
    match xs, ys with
    | .inr name :: xs, .inr image :: ys => do
      let (pairs, rest) ← paired n xs ys
      pure (.letters name image :: pairs, rest)
    | _, .inr _ :: _ => misaligned
    | .inl c :: xs, .inl d :: ys => do
      let (pairs, rest) ← paired n xs ys
      pure (.octets c d :: pairs, rest)
    | .inr name :: xs, ys =>
      if ys.isEmpty then .ok ([], .inr name :: xs, [])
      else paired n ((Element.named name).octets.map .inl ++ xs) ys
    | xs, ys => .ok ([], xs, ys)

/-- The last octet of a set, with which it is made longer. -/
def lastOctet (es : List Element) : Except Octets Char :=
  match es.getLast? with
  | some (.named _) =>
    .error ("when translating with string1 longer than string2,\n" ++
      "the latter string must not end with a character class").toList
  | some (.octet c) | some (.alike c) | some (.range _ c) | some (.repeated c _) => .ok c
  | none => .error "when not truncating set1, string2 must be non-empty".toList

/-- What becomes of octets, step by step: later steps undo earlier ones. -/
abbrev Mapping : Type :=
  List (Char × Char)

/-- The image of an octet. -/
def Mapping.image (m : Mapping) (c : Char) : Char :=
  (m.lookup c).getD c

/-- The steps of a pair. -/
def Pair.steps : Pair → Mapping
  | octets source image => [(source, image)]
  | letters source image =>
    if source = image then []
    else
      let change := if image = "upper" then Char.toUpper else Char.toLower
      ((Element.named source).octets).map fun c => (c, change c)

/-- The mapping from one set to another. -/
def mapping (others truncates : Bool) (first second : List Element) : Except Octets Mapping := do
  let source := meant others first
  let second := filled source.length second
  if second.any fun e => match e with | .alike _ => true | _ => false then
    throw "[=c=] expressions may not appear in string2 when translating".toList
  if second.any fun e => match e with | .named _ => !e.isCase | _ => false then
    throw
      ("when translating, the only character classes that may appear in\n" ++
        "string2 are 'upper' and 'lower'").toList
  let hasCase := second.any Element.isCase
  let (pairs, left, _) ←
    if others || !hasCase then
      paired (source.length + 1) (source.map .inl) ((octetsOf second).map .inl)
    else paired (source.length + second.length + 1) (units first) (units second)
  let left := left.flatMap fun u =>
    match u with
    | .inl c => [c]
    | .inr name => (Element.named name).octets
  let ending ←
    if left.isEmpty || truncates then pure []
    else do
      let c ← lastOctet second
      pure (left.map fun x => (x, c))
  let isOne := (octetsOf second).all fun c => some c == (octetsOf second).head?
  let hasClass := first.any fun e => match e with | .named _ => true | _ => false
  if others && hasClass && !(isOne && (ending.isEmpty || !truncates)) then
    throw
      ("when translating with complemented character classes,\n" ++
        "string2 must map all characters in the domain to one").toList
  pure (pairs.flatMap Pair.steps ++ ending).reverse

/-- A text without repetitions of some octets. -/
def squeezed (inSet : Char → Bool) (text : Octets) : Octets :=
  (text.foldl (fun (kept : Octets) c =>
    if inSet c && kept.head? == some c then kept else c :: kept) []).reverse

/-- What is done with the input. -/
def effect (g : Given) (first : List Element) (second : Option (List Element)) :
    Except Octets (Octets → Octets) := do
  let others := g.has 'c' || g.has 'C'
  if first.any Element.fills then
    throw "the [c*] repeat construct may not appear in string1".toList
  if 1 < (second.getD []).countP Element.fills then
    throw "only one [c*] repeat construct may appear in string2".toList
  let own := meant others first
  let image := second.map (filled own.length)
  let inSecond (c : Char) : Bool := (octetsOf (image.getD [])).contains c
  match g.has 'd', g.has 's', second with
  | true, false, _ => pure fun text => text.filter (!own.contains ·)
  | true, true, _ =>
    if (second.getD []).any Element.fills then
      throw "the [c*] construct may appear in string2 only when translating".toList
    pure fun text => squeezed inSecond (text.filter (!own.contains ·))
  | false, _, none => pure (squeezed own.contains)
  | false, squeezes, some second => do
    let steps ← mapping others (g.has 't') first second
    let images := all.map fun c => (c, steps.image c)
    let change (text : Octets) : Octets := text.map (Mapping.image images)
    pure fun text => if squeezes then squeezed inSecond (change text) else change text

/-- What is wrong with the number of operands, and what is said about it. -/
def operandFault? (g : Given) : Option Octets :=
  let deletes := g.has 'd'
  let squeezes := g.has 's'
  let least := if deletes == squeezes then 2 else 1
  let most := if deletes && !squeezes then 1 else 2
  if g.operands.length < least then
    match g.operands.getLast? with
    | none => some "missing operand".toList
    | some last =>
      some ("missing operand after ".toList ++ Quoting.value last ++
        (if squeezes then
          "\nTwo strings must be given when both deleting and squeezing repeats.".toList
        else "\nTwo strings must be given when translating.".toList))
  else if most < g.operands.length then
    some ("extra operand ".toList ++ Quoting.value (g.operands.getD most []) ++
      (if g.operands.length = 2 then
        "\nOnly one string may be given when deleting without squeezing repeats.".toList
      else []))
  else none

/-- Replaces or removes octets of the input. -/
def run (g : Given) : StateM Process Nat := do
  match operandFault? g with
  | some message => do
    misuse message
    pure 1
  | none =>
    let sources := g.operands.map fun text => unescaped (text.length + 1) text
    let read (source : Source × List Octets) : StateM Process (Except Octets (List Element)) := do
      source.2.forM fault
      pure (elements (source.1.length + 1) source.1)
    let sets ← sources.mapM read
    let change : Except Octets (Octets → Octets) := do
      let first ← sets.headD (.ok [])
      let second ← match sets[1]? with
        | some set => set.map some
        | none => pure none
      effect g first second
    orFault change fun change => do
      let p ← get
      match p.inputFault? with
      | some e => do
        fault ("read error: ".toList ++ e.description.toList)
        pure 1
      | none => do
        let (text, p) := p.readAll 0
        set p
        say (change text)
        pure 0

end Characters

/-- Replaces or removes octets of the input. -/
def tr : Tool :=
  withOptions [flag 'A', flag 'c' ["complement"], flag 'C', flag 'd' ["delete"],
    flag 's' ["squeeze-repeats"], flag 't' ["truncate-set1"]] Characters.run 1 true

end Fleet.Tools
