import Fleet.Tools.Escapes
import Fleet.Tools.Inputs

/-!
# Files side by side

Tools that go through the lines of several files at once: `comm` prints which lines of two sorted
files are in one of them or in both, `paste` puts lines next to each other.
-/

namespace Fleet.Tools

open Shell

/-! ## Common lines -/

namespace Common

/-- A sorted file that is gone through. -/
structure Side : Type where
  lines : List Octets
  /-- The line that was there before. -/
  before : Option Octets := none
  /-- Whether it was noticed that the file is not sorted. -/
  warned : Bool := false
  deriving Repr

/-- What is noticed on the way: a line, which is in the first file, in the second or in both, or
that a file is not sorted. -/
inductive Event : Type where
  | line (first second : Bool) (text : Octets)
  | disorder (file : Nat)
  deriving Repr

/-- A side after its first line, and whether it is noticed that it is not sorted: the line is
compared with the next one or, at the end, with the one before. -/
def Side.advance (s : Side) (checks : Bool) : Side × Bool :=
  match s.lines with
  | [] => (s, false)
  | line :: rest =>
    let isBad :=
      match rest, s.before with
      | next :: _, _ => decide (next < line)
      | [], some before => decide (line < before)
      | [], none => false
    let noticed := checks && isBad && !s.warned
    ({ lines := rest, before := some line, warned := s.warned || noticed }, noticed)

/-- What is noticed about two sides, at most the given number of lines long. Unless `always` says
so, the order is checked only once some line was not in both. -/
def events (always never : Bool) : Nat → Bool → Side → Side → List Event
  | 0, _, _, _ => []
  | n + 1, unpaired, a, b =>
    let go (first second : Bool) (text : Octets) : List Event :=
      let unpaired := unpaired || !(first && second)
      let checks := !never && (always || unpaired)
      let (a, badFirst) := if first then a.advance checks else (a, false)
      let (b, badSecond) := if second then b.advance checks else (b, false)
      .line first second text ::
        (if badFirst then [.disorder 1] else []) ++ (if badSecond then [.disorder 2] else []) ++
        events always never n unpaired a b
    match a.lines, b.lines with
    | [], [] => []
    | x :: _, [] => go true false x
    | [], y :: _ => go false true y
    | x :: _, y :: _ =>
      if x < y then go true false x else if y < x then go false true y else go true true x

/-- Prints what is noticed; if `strict` says so, nothing after a file was found not to be sorted. -/
def print (shown : Bool → Bool → Octets → Octets) (strict : Bool) :
    List Event → StateM Process Nat
  | [] => pure 0
  | .line first second text :: rest => do
    say (shown first second text)
    print shown strict rest
  | .disorder file :: rest => do
    fault ("file ".toList ++ decimal file ++ " is not in sorted order".toList)
    if !strict then
      let _ ← print shown strict rest
    pure 1

/-- The options of the tool. -/
def known : List KnownOption :=
  [flag '1', flag '2', flag '3', flag 'z' ["zero-terminated"], named 'C' "check-order",
    named 'N' "nocheck-order", named 'd' "output-delimiter" .value, named 'T' "total"]

/-- Prints the lines of two files in three columns. -/
def compare (g : Given) (first second : Octets) : StateM Process Nat := do
  let delimiters := g.valuesOf 'd'
  let delimiter := match delimiters.head? with
    | some [] => ['\x00']
    | some text => text
    | none => ['\t']
  let mark := lineMark g
  if delimiters.any fun d => d != delimiters.headD [] then
    fault "multiple output delimiters specified".toList
    pure 1
  else
    let report (u : Unread) : StateM Process Nat := do
      fault u.report
      pure 1
    match ← readSource first with
    | .error u => report u
    | .ok a =>
      match ← readSource second with
      | .error u => report u
      | .ok b =>
        let column (shown : Bool) : Octets := if shown then delimiter else []
        let shown (inFirst inSecond : Bool) (text : Octets) : Octets :=
          let line (key : Char) (lead : Octets) : Octets :=
            if g.has key then [] else lead ++ text ++ [mark]
          match inFirst, inSecond with
          | true, false => line '1' []
          | false, true => line '2' (column (!g.has '1'))
          | _, _ => line '3' (column (!g.has '1') ++ column (!g.has '2'))
        let a := recordsOf mark a
        let b := recordsOf mark b
        let strict := g.lastOf ['C', 'N'] = some 'C'
        let never := g.lastOf ['C', 'N'] = some 'N'
        let all := events strict never (a.length + b.length) false { lines := a } { lines := b }
        let code ← print shown strict all
        let count (inFirst inSecond : Bool) : Octets :=
          decimal (all.countP fun
            | .line x y _ => x == inFirst && y == inSecond
            | .disorder _ => false)
        if g.has 'T' && !(strict && code ≠ 0) then
          say (joined delimiter
            [count true false, count false true, count true true, "total".toList] ++ [mark])
        if code ≠ 0 && !strict then fault "input is not in sorted order".toList
        pure code

end Common

/-- Prints the lines of two sorted files in columns, by the files that they are in. -/
def comm : Tool :=
  withOptions Common.known fun g =>
    match g.operands with
    | [] => refuse "missing operand"
    | [only] => do
      misuse ("missing operand after ".toList ++ Quoting.value only)
      pure 1
    | [first, second] => Common.compare g first second
    | _ :: _ :: extra :: _ => do
      misuse ("extra operand ".toList ++ Quoting.value extra)
      pure 1

/-! ## Lines next to each other -/

namespace Paste

/-- The delimiters of a list, in which escapes are read; none at the end of a backslash. Some are
empty. -/
def delimiters : Octets → Option (List Octets)
  | [] => some []
  | ['\\'] => none
  | '\\' :: c :: rest =>
    let isEscape := "bfnrtv".toList.contains c
    let own : Octets :=
      if c = '0' then [] else if isEscape then (escape? c).toList else [c]
    (delimiters rest).map (own :: ·)
  | c :: rest => (delimiters rest).map ([c] :: ·)

/-- Texts with delimiters between them, taken from a list in turn. -/
def joinTexts (list : List Octets) : Nat → List Octets → Octets
  | _, [] => []
  | _, [text] => text
  | n, text :: rest =>
    text ++ list.getD (n % list.length) [] ++ joinTexts list (n + 1) rest

/-- What lines are taken from: a file, or the input, which may be there several times. -/
abbrev Source : Type :=
  Option (List Octets)

/-- The next line of each source, the sources after it, and what is left of the input. -/
def row : List Source → List Octets → List (Option Octets) × List Source × List Octets
  | [], input => ([], [], input)
  | some lines :: rest, input =>
    let (texts, rest, input) := row rest input
    (lines.head? :: texts, some lines.tail :: rest, input)
  | none :: rest, input =>
    let (texts, rest, left) := row rest input.tail
    (input.head? :: texts, none :: rest, left)

/-- The rows of several sources; at most the given number. -/
def rows (list : List Octets) : Nat → List Source → List Octets → List Octets
  | 0, _, _ => []
  | n + 1, sources, input =>
    let (texts, sources, input) := row sources input
    if texts.all Option.isNone then []
    else joinTexts list 0 (texts.map fun text => text.getD []) :: rows list n sources input

/-- Prints the lines of each file on one line. -/
def serial (list : List Octets) (mark : Char) (paths : List Octets) : StateM Process Nat :=
  overAll paths fun path => do
    match ← readSource path with
    | .ok text => do
      say (joinTexts list 0 (recordsOf mark text) ++ [mark])
      pure 0
    | .error u => do
      if u.opened then say [mark]
      fault u.report
      pure 1

/-- Reads the files for rows, or reports the first that is not there. -/
def readAll : List Octets → StateM Process (Except Nat (List (Option Octets)))
  | [] => pure (.ok [])
  | path :: rest => do
    if isInput path then return (← readAll rest).map (none :: ·)
    match ← readSource path with
    | .ok text => return (← readAll rest).map (some text :: ·)
    | .error u =>
      fault u.report
      if u.opened then return (← readAll rest).map (some [] :: ·)
      return .error 1

/-- Prints the lines of files next to each other. -/
def parallel (list : List Octets) (mark : Char) (paths : List Octets) : StateM Process Nat := do
  let p ← get
  match ← readAll paths with
  | .error code => pure code
  | .ok texts =>
    let now ← get
    let (input, now) := if paths.any isInput then now.readAll 0 else ([], now)
    set now
    let sources := texts.map fun text => text.map (recordsOf mark)
    let count := (texts.map fun text => (text.getD []).length).foldl (· + ·) (input.length + 1)
    say (unrecords mark (rows list count sources (recordsOf mark input)))
    pure (codeOf (paths.all fun path => isInput path || (p.readFile path).isOk))

end Paste

/-- Prints lines of files next to each other, or all lines of each file on one line. -/
def paste : Tool :=
  withOptions [valued 'd' ["delimiters"], flag 's' ["serial"], flag 'z' ["zero-terminated"]]
    fun g => do
  let text := (g.value? 'd').getD ['\t']
  let paths := if g.operands.isEmpty then [['-']] else g.operands
  match Paste.delimiters text with
  | none => do
    fault ("delimiter list ends with an unescaped backslash: ".toList ++ text)
    pure 1
  | some list =>
    let list := if list.isEmpty then [[]] else list
    if g.has 's' then Paste.serial list (lineMark g) paths
    else Paste.parallel list (lineMark g) paths

end Fleet.Tools
