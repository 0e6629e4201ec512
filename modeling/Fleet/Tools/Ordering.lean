import Fleet.Tools.Linking

/-!
# Orders

Tools that bring words into an order that fits what is said about pairs of them, and lines into any
order.
-/

namespace Fleet.Tools

open Shell

/-! ## Orders that fit -/

namespace Precedence

/-- A word, what is known about its place, and whether it has been printed. -/
structure Node : Type where
  word : Octets
  /-- How many notes there are of words that have to come before it. -/
  before : Nat := 0
  /-- The numbers of the words that have to come after it, the latest first. -/
  after : List Nat := []
  printed : Bool := false
  /-- While a cycle is looked for, the word that comes after it on the way. -/
  next : Option Nat := none
  deriving Repr, Inhabited

/-- Words with what is known about their order, in the order of the alphabet. -/
abbrev Graph : Type :=
  List Node

namespace Graph

/-- The number of a word. -/
def indexOf (g : Graph) (word : Octets) : Nat :=
  g.findIdx fun n => n.word == word

/-- The graph of words about whose order nothing is known. -/
def ofWords (words : List Octets) : Graph :=
  (sorted words).eraseReps.map fun word => { word }

/-- The graph with a note that one word has to come before another. -/
def record (g : Graph) (first second : Octets) : Graph :=
  if first = second then g
  else
    let target := g.indexOf second
    g.map fun n =>
      let n := if n.word = second then { n with before := n.before + 1 } else n
      if n.word = first then { n with after := target :: n.after } else n

/-- The graph with notes about pairs. -/
def recordAll (g : Graph) : List Octets → Graph
  | first :: second :: rest => (g.record first second).recordAll rest
  | _ => g

/-- The numbers of the words that can be printed. -/
def ready (g : Graph) : List Nat :=
  (List.range g.length).filter fun i => g[i]?.any fun n => n.before == 0 && !n.printed

/-- The words that are printed from a queue on, and the graph after that; at most the given number
is printed. -/
def drain : Nat → Graph → List Nat → List Octets × Graph
  | 0, g, _ => ([], g)
  | _, g, [] => ([], g)
  | n + 1, g, i :: queue =>
    let node := g.getD i default
    let g := g.modify i fun n => { n with printed := true }
    let release (state : Graph × List Nat) (j : Nat) : Graph × List Nat :=
      let g := state.1.modify j fun n => { n with before := n.before - 1 }
      (g, if (g[j]?).any fun n => n.before == 0 then state.2 ++ [j] else state.2)
    let (g, queue) := node.after.foldl release (g, queue)
    let (words, g) := drain n g queue
    (node.word :: words, g)

/-- The words on the way from one word to another; at most the given number. -/
def way (g : Graph) (last : Nat) : Nat → Nat → List Nat
  | 0, _ => []
  | n + 1, i =>
    if i = last then [i]
    else i :: (((g[i]?).bind Node.next).map (way g last n)).getD []

/-- Looks for a cycle among the words with the given numbers, going backwards from a word. Gives the
graph, the word that was reached, and the cycle, if there is one. -/
def sweep (g : Graph) (start : Option Nat) : List Nat → Graph × Option Nat × Option (List Nat)
  | [] => (g, start, none)
  | i :: rest =>
    let node := g.getD i default
    if node.before = 0 then sweep g start rest
    else
      match start with
      | none => sweep g (some i) rest
      | some target =>
        if !node.after.contains target then sweep g start rest
        else if node.next.isNone then
          sweep (g.modify i fun n => { n with next := some target }) (some i) rest
        else
          let cycle := g.way i (g.length + 1) target
          let g := g.map fun n => { n with next := none }
          let g := g.modify i fun n => { n with after := n.after.erase target }
          let g := g.modify target fun n => { n with before := n.before - 1 }
          (g, none, some cycle)

/-- Looks for a cycle until one is found; at most the given number of times. -/
def breakCycle : Nat → Graph → Option Nat → Graph × List Nat
  | 0, g, _ => (g, [])
  | n + 1, g, start =>
    match sweep g start (List.range g.length) with
    | (g, _, some cycle) => (g, cycle)
    | (g, none, none) => (g, [])
    | (g, start, none) => breakCycle n g start

end Graph

/-- Prints words in an order, and reports what keeps it from fitting; at most the given number of
cycles is broken. -/
def print (source : Octets) : Nat → Graph → StateM Process Nat
  | 0, _ => pure 1
  | n + 1, g => do
    let (words, g) := g.drain (g.length + 1) g.ready
    say (unlines words)
    if g.all Node.printed then pure 0
    else
      let (g, cycle) := g.breakCycle (2 * g.length + 2) none
      fault (Quoting.lead source ++ ": input contains a loop:".toList)
      cycle.forM fun i => fault (g.getD i default).word
      let _ ← print source n g
      pure 1

end Precedence

/-- The words of a text. -/
def wordsOf (text : Octets) : List Octets :=
  (text.splitBy fun a b => isBlank a == isBlank b).filter fun word => !word.any isBlank
where
  /-- Whether a character stands between words. -/
  isBlank (c : Char) : Bool :=
    c == ' ' || c == '\t' || c == '\n'

/-- Prints words in an order that fits what is said about pairs of them. -/
def tsort : Tool :=
  withOptions [] fun g =>
    match g.operands with
    | _ :: extra :: _ => extraOperand extra
    | operands => do
      let source := operands.headD ['-']
      match ← readSource source with
      | .error u => do
        fault (Quoting.lead source ++ ": ".toList ++
          (if u.opened then "read error: ".toList else []) ++ u.error.description.toList)
        pure 1
      | .ok text =>
        let words := wordsOf text
        if words.length % 2 = 1 then
          fault (Quoting.lead source ++ ": input contains an odd number of tokens".toList)
          pure 1
        else
          let graph := (Precedence.Graph.ofWords words).recordAll words
          Precedence.print source (words.length + 1) graph

/-! ## Any order -/

namespace Shuffling

/-- The bounds of a range. -/
def range? (text : Octets) : Option (Nat × Nat) :=
  let low := text.takeWhile (· ≠ '-')
  let high := text.drop (low.length + 1)
  let isNumber (digits : Octets) : Bool := !digits.isEmpty && digits.all Char.isDigit
  if low.length < text.length && isNumber low && isNumber high then
    let (a, b) := (number low, number high)
    if a ≤ b + 1 then some (a, b) else none
  else none

/-- What is brought into an order: the arguments, the numbers of a range, or the lines of a file. -/
def lines (g : Given) : StateM Process (Except Nat (List Octets)) := do
  let extra (text : Octets) : StateM Process (Except Nat (List Octets)) := do
    pure (.error (← extraOperand text))
  if g.has 'e' && g.has 'i' then
    return .error (← refuse "cannot combine -e and -i options")
  match g.value? 'i' with
  | some text =>
    match range? text, g.operands with
    | none, _ => do
      fault ("invalid input range: ".toList ++ Quoting.value text)
      pure (.error 1)
    | some _, operand :: _ => extra operand
    | some (low, high), [] =>
      pure (.ok ((List.range (high + 1 - low)).map fun i => decimal (low + i)))
  | none =>
    if g.has 'e' then pure (.ok g.operands)
    else
      match g.operands with
      | _ :: operand :: _ => extra operand
      | operands =>
        match ← readSource (operands.headD ['-']) with
        | .ok text => pure (.ok (recordsOf (lineMark g) text))
        | .error u => do
          fault ((if u.opened then "read error: ".toList else Quoting.lead u.path ++ ": ".toList) ++
            u.error.description.toList)
          pure (.error 1)

end Shuffling

/-- Prints lines in any order. -/
def shuf : Tool :=
  withOptions [flag 'e' ["echo"], valued 'i' ["input-range"], valued 'n' ["head-count"],
    valued 'o' ["output"], named 's' "random-source" .value, flag 'r' ["repeat"],
    flag 'z' ["zero-terminated"]] fun g => do
  let isCount (text : Octets) : Bool := !text.isEmpty && text.all Char.isDigit
  match (g.valuesOf 'n').find? fun text => !isCount text with
  | some text => do
    fault ("invalid line count: ".toList ++ Quoting.value text)
    pure 1
  | none =>
    match ← Shuffling.lines g with
    | .error code => pure code
    | .ok lines =>
      let count := ((g.valuesOf 'n').map number).foldl min numberLimit
      if g.has 'r' && lines.isEmpty && count ≠ 0 then
        fault "no lines to repeat".toList
        return 1
      let chosen :=
        if g.has 'r' then (List.range (min count 65536)).map fun i =>
          lines.getD (i % lines.length) []
        else lines.take count
      let text := unrecords (lineMark g) chosen
      match g.value? 'o' with
      | none => do
        say text
        pure 0
      | some path =>
        match (← get).save path text.toBytes with
        | .ok p => do
          set p
          pure 0
        | .error e => do
          fault (Quoting.lead path ++ ": ".toList ++ e.description.toList)
          pure 1

end Fleet.Tools
