import Fleet.Shell.Arithmetic.Plain
import Fleet.Shell.Expansion.Rich
import Fleet.Shell.Syntax

/-!
# From words to fields

Braces stand for several words; each of them is then expanded on its own.
-/

/-!
## Braces

In the rich dialect a word with braces stands for several words: one for each of the pieces between
commas, or for each number or letter between two others. What the pieces are is a matter of how the
word is written only.
-/

namespace Fleet.Shell.Braces

/-- An octet that stands in a word without quotes. -/
def bare? : Part → Option Char
  | .text [c] false => some c
  | _ => none

/-- The pieces between the commas of a brace, the opening one of which has been passed over, and
what follows it; none if it is not closed. -/
def pieces (depth : Nat) (current : Word) : Word → Option (List Word × Word)
  | [] => none
  | part :: rest =>
    match bare? part with
    | some '\x7b' => pieces (depth + 1) (part :: current) rest
    | some '\x7d' =>
      if depth = 0 then some ([current.reverse], rest)
      else pieces (depth - 1) (part :: current) rest
    | some ',' =>
      if depth = 0 then
        (pieces 0 [] rest).map fun (more, after) => (current.reverse :: more, after)
      else pieces depth (part :: current) rest
    | _ => pieces depth (part :: current) rest

/-- The integer that a text is. -/
def integer? (text : Octets) : Option Int :=
  let (sign, digits) : Int × Octets := match text with
    | '-' :: rest => (-1, rest)
    | '+' :: rest => (1, rest)
    | rest => (1, rest)
  if digits.isEmpty || !digits.all Char.isDigit || 18 < digits.length then none
  else some (sign * digits.foldl (fun n d => n * 10 + (d.toNat - '0'.toNat)) 0)

/-- The texts on both sides of each pair of dots. -/
def atDots : Octets → List Octets
  | '.' :: '.' :: rest => [] :: atDots rest
  | c :: rest =>
    match atDots rest with
    | first :: more => (c :: first) :: more
    | [] => [[c]]
  | [] => [[]]

/-- How many words a sequence may stand for. -/
def limit : Nat :=
  100000

/-- Integers from one to another in steps. -/
def steps (first last : Int) (step : Nat) : List Int :=
  let step := max step 1
  let count := min limit ((last - first).natAbs / step)
  (List.range (count + 1)).map fun (i : Nat) =>
    if first ≤ last then first + (i * step : Nat) else first - (i * step : Nat)

/-- Whether an integer is written with zeros in front of it. -/
def isPadded (text : Octets) : Bool :=
  match text.dropWhile (· == '-') with
  | '0' :: _ :: _ => true
  | _ => false

/-- An integer in at least so many characters. -/
def padded (width : Nat) (n : Int) : Octets :=
  let digits := Nat.toDigits 10 n.natAbs
  let sign : Octets := if n < 0 then ['-'] else []
  sign ++ List.replicate (width - digits.length - sign.length) '0' ++ digits

/-- The texts that a sequence such as `1..5` stands for. -/
def sequence? (text : Octets) : Option (List Octets) :=
  let make (first last : Octets) (step : Nat) : Option (List Octets) :=
    match integer? first, integer? last, first, last with
    | some a, some b, _, _ =>
      let width := if isPadded first || isPadded last then max first.length last.length else 0
      some ((steps a b step).map (padded width))
    | none, none, [a], [b] =>
      if a.isAlpha && b.isAlpha then
        some ((steps a.toNat b.toNat step).map fun n => [Char.ofNat n.toNat])
      else none
    | _, _, _, _ => none
  match atDots text with
  | [first, last] => make first last 1
  | [first, last, step] => (integer? step).bind fun step => make first last step.natAbs
  | _ => none

/-- The words that a word stands for. -/
def expanded : Nat → Word → List Word
  | 0, word => [word]
  | _, [] => [[]]
  | n + 1, part :: rest =>
    let usual : List Word := (expanded n rest).map (part :: ·)
    match bare? part with
    | some '\x7b' =>
      match pieces 0 [] rest with
      | some ([only], after) =>
        match (plainOctets? only).bind sequence? with
        | some texts =>
          let ends := expanded n after
          texts.flatMap fun text => ends.map (.text text false :: ·)
        | none => usual
      | some (several, after) =>
        let ends := expanded n after
        (several.flatMap (expanded n)).flatMap fun start => ends.map (start ++ ·)
      | none => usual
    | _ => usual

/-- The words that a word stands for. -/
def words (word : Word) : List Word :=
  if word.any fun part => bare? part == some '\x7b' then expanded (2 * word.length + 2) word
  else [word]

end Fleet.Shell.Braces

/-!
## Expanding words

A word becomes octets, its parameters, commands and arithmetic worked out; then it may be cut into
fields.
-/

namespace Fleet.Shell

/-- The cells of an arithmetic expression. -/
def expandArithmetic (text : Octets) (quoted : Bool) : Exec (List Cell) := do
  match (← get).dialect with
  | .rich => do pure (Cell.ofExpansion quoted (Arithmetic.render (← computed text)))
  | .plain =>
    match Arithmetic.Plain.evaluate text (← get) with
    | .error .overflow => throw (.killed 8)
    | .error e => fail (Arithmetic.Plain.message text e)
    | .ok (value, p) =>
      set p
      pure (Cell.ofExpansion quoted (Arithmetic.render value))

/-- Opens what a script prints, or what it is to read, as a file, and gives its path. -/
def openChannel (run : List Command → Exec Octets) (reads : Bool) (script : List Command) :
    Exec Octets := do
  let before := (← get).substituted
  let text ← if reads then run script else pure []
  let p ← get
  let isFree (n : Nat) : Bool := (p.descriptors.lookup n).isNone
  let descriptor := ((List.range 64).reverse.find? isFree).getD 63
  let channels := if reads then p.channels else p.channels ++
    [{ stream := p.streams.length, script, descriptors := p.descriptors }]
  let p := p.openStream descriptor (if reads then .input text else .output [])
  set { p with channels, substituted := before }
  pure ("/dev/fd/".toList ++ decimal descriptor)

/-- The cells of a word. The scripts in it are run by the given function; the fuel bounds how deep
words lie within words. -/
def expand (run : List Command → Exec Octets) : Nat → Expander
  | 0, _, _ => fail "expansion too deep".toList
  | n + 1, manner, word => do
    let p ← get
    let word := withHomes p manner.homes (manner.homes != .nowhere) word
    let cells ← word.mapM fun part =>
      match part with
      | .text [] true => pure [Cell.anchor]
      | .text octets quoted => pure (octets.map (.octet · quoted false))
      | .output script quoted => do
        pure (Cell.ofExpansion quoted (substituted (← run script)))
      | .arithmetic expression quoted => do
        expandArithmetic (Cell.octets (← expand run n {} expression)) quoted
      | .parameter subject use quoted =>
        match p.dialect, subject with
        | .rich, _ => Expansion.Rich.parameter (expand run n) manner subject use quoted
        | .plain, .named name => Expansion.Plain.parameter (expand run n) manner name use quoted
        | .plain, _ => fail "Bad substitution".toList
      | .channel reads script => do
        pure (Cell.ofExpansion true (← openChannel run reads script))
      | .elements _ => pure []
    pure cells.flatten

/-- The fields of a word without braces. -/
def expandWhole (run : List Command → Exec Octets) (fuel : Nat) (word : Word) :
    Exec (List Octets) := do
  let cells ← expand run fuel { homes := .start, splits := true } word
  let separators := separatorsOf (← get)
  pure (← (splitFields separators .closed [] cells).mapM filesOrSelf).flatten

/-- The fields of a word. -/
def expandFields (run : List Command → Exec Octets) (fuel : Nat) (word : Word) :
    Exec (List Octets) := do
  if (← get).isOn 'B' then
    pure (← (Braces.words word).mapM (expandWhole run fuel)).flatten
  else expandWhole run fuel word

/-- The octets of a word that is not split. -/
def expandText (run : List Command → Exec Octets) (fuel : Nat) (homes : Homes) (word : Word) :
    Exec Octets := do
  pure (Cell.octets (← expand run fuel { homes } word))

/-- The pattern that a word stands for. -/
def expandPattern (run : List Command → Exec Octets) (fuel : Nat) (word : Word) : Exec Pattern := do
  let cells ← expand run fuel { homes := .start } word
  let p ← get
  pure (Pattern.ofOctets (Cell.pattern cells) p.patternStyle)

/-- The elements of an array that is assigned. -/
def expandItems (run : List Command → Exec Octets) (fuel : Nat) (items : List Item) :
    Exec (List Given) := do
  let given ← items.mapM fun (.item subscript adds value) =>
    match subscript with
    | some subscript => do
      let subscript ← expandText run fuel .nowhere subscript
      pure [(some subscript, adds, ← expandText run fuel .start value)]
    | none => do
      pure ((← expandFields run fuel value).map fun field => (none, false, field))
  pure given.flatten

/-- The part of a word that is an assignment up to its equals sign; in the rich dialect a subscript
or a plus sign may stand in front of that. -/
def assignedHead? (dialect : Dialect) (word : Word) : Option Octets := do
  let plain := plainStart word
  if !Reader.isAssignment dialect plain then none
  else
    let name := plain.takeWhile isNameRest
    let after := plain.drop name.length
    let after ← match after with
      | '[' :: inner => Reader.afterSubscript? 0 none inner
      | _ => some after
    let (_, length) ← Reader.assignmentSign? after
    some (plain.take (plain.length - after.length + length))

/-- The octets of a word that is an assignment with the given head: what follows that is not split.
-/
def expandAssignment (run : List Command → Exec Octets) (fuel : Nat) (head : Octets)
    (word : Word) : Exec Octets := do
  pure (head ++ (← expandText run fuel .colons (word.drop head.length)))

/-- An argument of a builtin that declares variables. -/
inductive Argument : Type where
  | word (text : Octets)
  /-- An array that is assigned, given what stands in front of its elements. -/
  | array (head : Octets) (items : List Given)
  deriving Repr

/-- The octets of an argument as far as it is no array. -/
def Argument.octets : Argument → Octets
  | word text => text
  | array head _ => head

/-- The arguments that a word of a builtin that declares variables stands for. -/
def expandArgument (run : List Command → Exec Octets) (fuel : Nat) (word : Word) :
    Exec (List Argument) := do
  match word.getLast?, assignedHead? (← get).dialect word with
  | some (.elements items), _ => do
    let head ← expandText run fuel .nowhere word.dropLast
    pure [.array head (← expandItems run fuel items)]
  | _, some head => do pure [.word (← expandAssignment run fuel head word)]
  | _, none => do pure ((← expandFields run fuel word).map .word)

end Fleet.Shell
