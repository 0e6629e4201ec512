import Fleet.Tools.Differences
import Fleet.Tools.Passing

/-!
# Files octet by octet

A tool that says where two files differ first, or lists all octets that differ.
-/

namespace Fleet.Tools

open Shell

namespace Comparing

/-- How many octets at the start of two texts are the same. -/
def firstUnlike : Octets → Octets → Nat
  | a :: x, b :: y => if a = b then firstUnlike x y + 1 else 0
  | _, _ => 0

/-- An octet as three octal digits, with blanks for zeros at the start. -/
def octal (c : Char) : Octets :=
  rightAligned 3 (Nat.toDigits 8 c.toNat)

/-- An octet as it is shown. -/
def visible (c : Char) : Octets :=
  Showing.octet ⟨false, false, false, false, true, true⟩ c

/-- What is compared, and how. -/
structure Plan : Type where
  prints : Bool
  lists : Bool
  silent : Bool
  limit : Nat
  /-- How many octets at the start of each file are passed over. -/
  skips : Nat × Nat
  deriving Repr

/-- The octets of two texts that differ, each with its number. -/
def unlike (a b : Octets) : List (Nat × Char × Char) :=
  ((a.zip b).zipIdx 1).filterMap fun ((x, y), i) => if x = y then none else some (i, x, y)

/-- The line about octets that differ. -/
def Plan.entry (plan : Plan) (width : Nat) : Nat × Char × Char → Octets
  | (i, x, y) =>
    let second := octal y ++ if plan.prints then ' ' :: visible y else []
    let first := octal x ++ if plan.prints then ' ' :: leftAligned 4 (visible x) else []
    rightAligned width (decimal i) ++ ' ' :: first ++ ' ' :: second ++ ['\n']
where
  /-- A text brought to a width by blanks behind it. -/
  leftAligned (width : Nat) (text : Octets) : Octets :=
    text ++ List.replicate (width - text.length) ' '

/-- Says that a file has ended where the other goes on. -/
def Plan.reportEnd (plan : Plan) (path text : Octets) : StateM Process Unit :=
  if plan.silent then pure ()
  else
    let lines := text.count '\n'
    let place :=
      if text.isEmpty then " which is empty".toList
      else
        " after byte ".toList ++ decimal text.length ++
          if plan.lists then []
          else if text.getLast? == some '\n' then ", line ".toList ++ decimal lines
          else ", in line ".toList ++ decimal (lines + 1)
    fault ("EOF on ".toList ++ path ++ place)

/-- Compares two texts; the width of the numbers in a list is given. -/
def Plan.texts (plan : Plan) (width : Nat) (first second : Octets × Octets) :
    StateM Process Nat := do
  let (p, a) := first
  let (q, b) := second
  let same := firstUnlike a b
  if plan.lists then say ((unlike a b).flatMap (plan.entry width))
  match a.drop same, b.drop same with
  | [], [] => pure 0
  | x :: _, y :: _ => do
    if plan.lists then
      if a.length < b.length then plan.reportEnd p a
      else if b.length < a.length then plan.reportEnd q b
    else if !plan.silent then
      let word := if plan.prints then "byte " else "char "
      let shown := if plan.prints then
          " is ".toList ++ octal x ++ ' ' :: visible x ++ ' ' :: octal y ++ ' ' :: visible y
        else []
      say (p ++ ' ' :: q ++ " differ: ".toList ++ word.toList ++ decimal (same + 1) ++
        ", line ".toList ++ decimal ((a.take same).count '\n' + 1) ++ shown ++ ['\n'])
    pure 1
  | [], _ :: _ => do
    plan.reportEnd p a
    pure 1
  | _ :: _, [] => do
    plan.reportEnd q b
    pure 1

/-- Compares the files at two paths. -/
def Plan.paths (plan : Plan) (first second : Octets) : StateM Process Nat := do
  let text (path : Octets) : StateM Process (Option Octets) := do
    match ← readSource path with
    | .ok text => pure (some text)
    | .error u => do
      if !plan.silent then fault (path ++ ": ".toList ++ u.error.description.toList)
      pure none
  match ← text first with
  | none => pure 2
  | some a =>
    if first = second then return 0
    match ← text second with
    | none => pure 2
    | some b =>
      let part (text : Octets) (skip : Nat) : Octets := (text.drop skip).take plan.limit
      let a := part a plan.skips.1
      let b := part b plan.skips.2
      let sizes := [(first, a), (second, b)].filterMap fun (path, text) =>
        if isInput path then none else some text.length
      let most := sizes.foldl min (min plan.limit 0x7FFFFFFFFFFFFFFF)
      plan.texts (decimal most).length (first, a) (second, b)

/-- The two numbers that a text gives, which may be one. -/
def pairOf (text : Octets) : Except Octets (Nat × Nat) := do
  let first := text.takeWhile (· ≠ ':')
  let complaint : Octets := "invalid --ignore-initial value ".toList ++ Quoting.value text
  let read (text : Octets) : Except Octets Nat := (countOf "" text).mapError fun _ => complaint
  let a ← read first
  match text.drop first.length with
  | [] => pure (a, a)
  | _ :: rest => pure (a, ← read rest)

end Comparing

/-- Says where two files differ. -/
def cmp : Tool :=
  withOptionsTwice [flag 'b' ["print-bytes"], valued 'i' ["ignore-initial"], flag 'l' ["verbose"],
    valued 'n' ["bytes"], flag 's' ["quiet", "silent"]] fun arguments g => do
  let values : Except Octets (Nat × Nat × Nat) := do
    let limit ← match g.value? 'n' with
      | none => pure numberLimit
      | some text =>
        (countOf "" text).mapError fun _ => "invalid --bytes value ".toList ++ Quoting.value text
    let skips ← match g.value? 'i' with
      | none => pure (0, 0)
      | some text => Comparing.pairOf text
    let one (place : Nat) (usual : Nat) : Except Octets Nat :=
      match g.operands[place]? with
      | none => pure usual
      | some text => (Comparing.pairOf text).map Prod.fst
    pure (limit, ← one 2 skips.1, ← one 3 skips.2)
  if g.has 'l' && g.has 's' then misuseTwice "options -l and -s are incompatible".toList
  else
    match values, g.operands with
    | _, [] => onTwo arguments [] fun _ _ => pure 2
    | .error message, _ => misuseTwice message
    | .ok _, _ :: _ :: _ :: _ :: extra :: _ =>
      misuseTwice ("extra operand ".toList ++ Quoting.value extra)
    | .ok (limit, first, second), path :: rest =>
      let plan : Comparing.Plan :=
        { prints := g.has 'b', lists := g.has 'l', silent := g.has 's', limit
          skips := (first, second) }
      plan.paths path (rest.headD ['-'])

end Fleet.Tools
