import Fleet.Tools.Inputs

/-!
# Counting

The tool `wc`: it prints how many lines, words and octets files have, and how long their longest
lines are.
-/

namespace Fleet.Tools

open Shell

namespace Counting

/-- Whether an octet separates words. -/
def separates (c : Char) : Bool :=
  c == ' ' || ('\t' ≤ c && c ≤ '\r')

/-- The number of words of a text: what has something to print in it. -/
def wordCount (text : Octets) : Nat :=
  let (count, _) := text.foldl (fun (count, inWord) c =>
    if separates c then (count, false)
    else if Quoting.isPrintable c then (if inWord then count else count + 1, true)
    else (count, inWord)) ((0 : Nat), false)
  count

/-- The length of the longest line of a text, as it is shown. -/
def longest (text : Octets) : Nat :=
  let (most, last) := text.foldl (fun (most, column) c =>
    if c = '\n' || c = '\r' || c = '\x0C' then (max most column, 0)
    else if c = '\t' then (most, column + (8 - column % 8))
    else if Quoting.isPrintable c then (most, column + 1)
    else (most, column)) ((0 : Nat), (0 : Nat))
  max most last

/-- What is counted, in the order in which it is printed. -/
structure Counts : Type where
  lines : Nat := 0
  words : Nat := 0
  octets : Nat := 0
  longest : Nat := 0
  deriving Repr

/-- The counts of a text. -/
def Counts.of (text : Octets) : Counts :=
  ⟨text.count '\n', wordCount text, text.length, Counting.longest text⟩

/-- The counts of two texts together. -/
def Counts.add (a b : Counts) : Counts :=
  ⟨a.lines + b.lines, a.words + b.words, a.octets + b.octets, max a.longest b.longest⟩

/-- The counts that are asked for. -/
def asked (g : Given) (c : Counts) : List Nat :=
  let usual := !(['l', 'w', 'm', 'c', 'L'].any g.has)
  let pick (wanted : Bool) (n : Nat) : List Nat := if wanted then [n] else []
  pick (usual || g.has 'l') c.lines ++ pick (usual || g.has 'w') c.words ++
    pick (g.has 'm') c.octets ++ pick (usual || g.has 'c') c.octets ++ pick (g.has 'L') c.longest

/-- The size of a file, if it is one with a size. -/
def sizeOf? (p : Process) (path : Octets) : Option (Option Nat) :=
  if isInput path then some p.inputSize?
  else
    match entryOf p path with
    | .ok (.file content _) => some (some content.length)
    | .ok _ => some none
    | .error _ => none

/-- The width of the numbers. -/
def width (g : Given) (sizes : List (Option (Option Nat))) : Nat :=
  let single := sizes.length = 1 && (asked g {}).length = 1
  match sizes with
  | [] => 1
  | none :: _ => if single || sizes.length = 1 then 1 else widthOf sizes
  | _ => if single then 1 else widthOf sizes
where
  /-- The width for files with sizes. -/
  widthOf (sizes : List (Option (Option Nat))) : Nat :=
    let known := sizes.filterMap id
    let total := (known.filterMap id).foldl (· + ·) 0
    max (decimal total).length (if known.any Option.isNone then 7 else 1)

/-- Prints the counts of files; a word says when there is a total. -/
def run (g : Given) (totals : String) : StateM Process Nat := do
  let paths := if g.operands.isEmpty then [['-']] else g.operands
  let p ← get
  let width := if totals = "only" then 1 else width g (paths.map (sizeOf? p))
  let shown (c : Counts) (label : Octets) : Octets :=
    let numbers := (asked g c).map fun n => rightAligned width (decimal n)
    joined [' '] numbers ++ (if label.isEmpty then [] else ' ' :: label) ++ ['\n']
  let step (state : Counts × Nat) (path : Octets) : StateM Process (Counts × Nat) := do
    let (total, code) := state
    let label := if g.operands.isEmpty then [] else path
    match ← readSource path with
    | .ok text =>
      let c := Counts.of text
      if totals ≠ "only" then say (shown c label)
      pure (total.add c, code)
    | .error u => do
      fault u.report
      if u.opened && totals ≠ "only" then say (shown {} label)
      pure (total, 1)
  let (total, code) ← paths.foldlM step ({}, 0)
  let isTotal := match totals with
    | "never" => false
    | "always" | "only" => true
    | _ => 1 < paths.length
  if isTotal then say (shown total (if totals = "only" then [] else "total".toList))
  pure code

end Counting

/-- Prints how many lines, words and octets files have. -/
def wc : Tool :=
  withOptions [flag 'c' ["bytes"], flag 'm' ["chars"], flag 'l' ["lines"], flag 'w' ["words"],
    flag 'L' ["max-line-length"], named 't' "total" .value, named 'f' "files0-from" .value]
    fun g =>
      let totals := match g.value? 't' with
        | some text => choiceOf "total" [["auto"], ["always"], ["only"], ["never"]] text
        | none => .ok "auto"
      orMisuse totals (Counting.run g)

end Fleet.Tools
