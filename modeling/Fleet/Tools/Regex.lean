import Fleet.Text.Octets

/-!
# Regular expressions

What regular expressions over octets match. From a position a regular expression leads to several
ends; of several ways to the same end one is kept. Usually a match is the longest one from the
leftmost position where there is any; in one form of expressions it is the one that is found first,
where repetition takes as much as it can, or as little, and alternatives are tried in their order.
-/

namespace Fleet.Tools

/-- A place between octets. -/
inductive Edge : Type where
  | textStart
  | textEnd
  | lineStart
  | lineEnd
  | wordStart
  | wordEnd
  /-- The start or the end of a word. -/
  | wordSide
  /-- Any place that is neither. -/
  | noWordSide
  deriving Repr, DecidableEq

/-- A regular expression. -/
inductive Regex : Type where
  | nothing
  | octet (c : Char)
  | anyOctet
  | oneOf (outside : Bool) (ranges : List (Char × Char))
  | edge (e : Edge)
  | group (index : Nat) (inner : Regex)
  | both (first second : Regex)
  | either (first second : Regex)
  | repeated (low : Nat) (high : Option Nat) (greedy : Bool) (inner : Regex)
  /-- What a group has matched. -/
  | again (index : Nat)
  /-- Whether an expression matches here, of which nothing is taken. -/
  | ahead (holds : Bool) (inner : Regex)
  /-- Whether an expression matches up to here. -/
  | behind (holds : Bool) (inner : Regex)
  /-- The match starts here. -/
  | keep
  deriving Repr

/-- The start and the end of what groups have matched; group 0 is the whole. -/
abbrev Captures : Type :=
  List (Nat × Nat × Nat)

namespace Regex

/-- How regular expressions are written. -/
inductive Form : Type where
  /-- Operators have a backslash in front of them. -/
  | basic
  | extended
  /-- Extended expressions in which the match that is found first counts. -/
  | ordered
  deriving Repr, DecidableEq

/-- How regular expressions are written and what they match. -/
structure Dialect : Type where
  form : Form
  ignoreCase : Bool := false
  /-- Whether lines within the text have starts and ends. -/
  multiline : Bool := false
  /-- Whether what is no operator, though it looks like one, is refused rather than taken as text.
  -/
  strict : Bool := false
  deriving Repr

/-- The ends that a position leads to, with what groups have matched, in the order in which they
are preferred. -/
abbrev Ends : Type :=
  List (Nat × Captures)

/-- The ends of two lists in which the greatest ends come first, those of the first list being
preferred. -/
def mergeLongest : Ends → Ends → Ends
  | [], b => b
  | a, [] => a
  | (i, c) :: a, (j, e) :: b =>
    if j < i then (i, c) :: mergeLongest a ((j, e) :: b)
    else if i < j then (j, e) :: mergeLongest ((i, c) :: a) b
    else (i, c) :: mergeLongest a b
termination_by a b => a.length + b.length

/-- The ends of two lists, those of the first being preferred. -/
def merge (longest : Bool) (a b : Ends) : Ends :=
  if longest then mergeLongest a b
  else a ++ b.filter fun (i, _) => !a.any fun (j, _) => i == j

/-- The ends that all of some ends lead to. -/
def onward (longest : Bool) (f : Nat → Captures → Ends) (ends : Ends) : Ends :=
  ends.foldr (fun (i, c) rest => merge longest (f i c) rest) []

/-- The ends that are reached by any number of steps; each is visited once. -/
def reach (f : Nat → Captures → Ends) : Nat → Ends → Ends → Ends
  | 0, _, seen => seen
  | _, [], seen => seen
  | n + 1, (i, c) :: rest, seen =>
    if seen.any (·.1 == i) then reach f n rest seen
    else reach f n ((f i c).filter (·.1 != i) ++ rest) ((i, c) :: seen)

/-- The ends that are reached by at most some number of steps, those by many steps first or last. -/
def chain (f : Nat → Captures → Ends) (greedy : Bool) : Nat → Nat → Captures → Ends
  | 0, i, c => [(i, c)]
  | n + 1, i, c =>
    let more := onward false (chain f greedy n) ((f i c).filter (·.1 != i))
    if greedy then merge false more [(i, c)] else merge false [(i, c)] more

/-- The ends that some ends and at most some number of steps from them lead to. -/
def layers (f : Nat → Captures → Ends) : Nat → Ends → Ends
  | 0, ends => ends
  | n + 1, ends => mergeLongest ends (layers f n (onward true f ends))

/-- The ends after some number of steps. -/
def times (longest : Bool) (f : Nat → Captures → Ends) : Nat → Ends → Ends
  | 0, ends => ends
  | n + 1, ends => times longest f n (onward longest f ends)

/-- How many octets from a position on satisfy a test, but at most the given number. -/
def spanLength (text : Array Char) (test : Char → Bool) : Nat → Nat → Nat
  | 0, _ => 0
  | n + 1, i =>
    match text[i]? with
    | some c => if test c then spanLength text test n (i + 1) + 1 else 0
    | none => 0

/-- Whether a character is part of a word. -/
def isWordOctet (c : Char) : Bool :=
  c.isAlphanum || c == '_'

/-- Whether a position is an edge. -/
def isEdge (d : Dialect) (text : Array Char) (i : Nat) (e : Edge) : Bool :=
  let before := i ≠ 0 && (text[i - 1]?).any isWordOctet
  let after := (text[i]?).any isWordOctet
  match e with
  | .textStart => i = 0
  | .textEnd => i = text.size
  | .lineStart => i = 0 || (d.multiline && text[i - 1]? == some '\n')
  | .lineEnd => i = text.size || (d.multiline && text[i]? == some '\n')
  | .wordStart => !before && after
  | .wordEnd => before && !after
  | .wordSide => before != after
  | .noWordSide => before == after

/-- Whether two octets are the same to a dialect. -/
def same (d : Dialect) (a b : Char) : Bool :=
  a == b || (d.ignoreCase && a.toLower == b.toLower)

/-- Whether an octet is in a set. -/
def isIn (d : Dialect) (outside : Bool) (ranges : List (Char × Char)) (c : Char) : Bool :=
  let inside (c : Char) : Bool := ranges.any fun (low, high) => low ≤ c && c ≤ high
  (inside c || (d.ignoreCase && (inside c.toLower || inside c.toUpper))) != outside

/-- The test of the single octet that an expression matches, if it matches just one. -/
def single? (d : Dialect) : Regex → Option (Char → Bool)
  | octet c => some (same d c)
  | anyOctet => some fun c => d.form != .ordered || c != '\n'
  | oneOf outside ranges => some (isIn d outside ranges)
  | _ => none

/-- The ends that an expression leads to from a position. -/
def ends (d : Dialect) (text : Array Char) : Regex → Nat → Captures → Ends
  | nothing, i, c => [(i, c)]
  | octet o, i, c => if (text[i]?).any (same d o) then [(i + 1, c)] else []
  | anyOctet, i, c =>
    if (text[i]?).any fun o => d.form != .ordered || o != '\n' then [(i + 1, c)] else []
  | oneOf outside ranges, i, c =>
    if (text[i]?).any (isIn d outside ranges) then [(i + 1, c)] else []
  | edge e, i, c => if isEdge d text i e then [(i, c)] else []
  | group index inner, i, c =>
    (ends d text inner i c).map fun (j, c) => (j, (index, i, j) :: c.filter (·.1 != index))
  | both first second, i, c =>
    onward (d.form != .ordered) (ends d text second) (ends d text first i c)
  | either first second, i, c =>
    merge (d.form != .ordered) (ends d text first i c) (ends d text second i c)
  | repeated low high greedy inner, i, c =>
    let longest := d.form != .ordered
    match single? d inner with
    | some test =>
      let most := spanLength text test (high.getD text.size) i
      if most < low then []
      else
        let all : Ends := (List.range (most + 1 - low)).map fun n => (i + low + n, c)
        if greedy then all.reverse else all
    | none =>
      let step := ends d text inner
      let start := times longest step low [(i, c)]
      match longest, high with
      | true, some high => layers step (high - low) start
      | true, none =>
        let all := reach step ((text.size + 2) * (text.size + 2)) start []
        all.mergeSort fun a b => b.1 ≤ a.1
      | false, high =>
        let most := match high with
          | some high => high - low
          | none => text.size + 1
        onward false (chain step greedy most) start
  | again index, i, c =>
    match c.lookup index with
    | none => []
    | some (start, stop) =>
      let length := stop - start
      let isSame (n : Nat) : Bool :=
        match text[start + n]?, text[i + n]? with
        | some a, some b => same d a b
        | _, _ => false
      if (List.range length).all isSame then [(i + length, c)] else []
  | ahead holds inner, i, c =>
    match ends d text inner i c with
    | [] => if holds then [] else [(i, c)]
    | (_, found) :: _ => if holds then [(i, found)] else []
  | behind holds inner, i, c =>
    let found := (List.range (i + 1)).any fun k => (ends d text inner k c).any (·.1 == i)
    if found == holds then [(i, c)] else []
  | keep, i, c => [(i, (0, i, i) :: c.filter (·.1 != 0))]

/-- The matches that start at a position, the one that counts first. -/
def matchesAt (d : Dialect) (r : Regex) (text : Array Char) (i : Nat) :
    List (Nat × Nat × Captures) :=
  (ends d text r i []).map fun (j, c) =>
    let start := ((c.lookup 0).map Prod.fst).getD i
    (start, j, (0, start, j) :: c.filter (·.1 != 0))

/-- The first match that satisfies a test and starts at or after a position. -/
def findWith? (d : Dialect) (r : Regex) (test : Nat → Nat → Bool) (text : Array Char)
    (start : Nat) :
    Option (Nat × Nat × Captures) :=
  (List.range (text.size + 1 - start)).findSome? fun n =>
    (matchesAt d r text (start + n)).find? fun (i, j, _) => test i j

/-- The match that counts, from a position on. -/
def find? (d : Dialect) (r : Regex) (text : Array Char) (start : Nat) :
    Option (Nat × Nat × Captures) :=
  findWith? d r (fun _ _ => true) text start

end Regex

end Fleet.Tools
