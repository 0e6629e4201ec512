import Fleet.Shell.Expansion
import Fleet.Shell.Letters

/-!
# Reading a line

A line of the input is cut at separators and given to variables, the last of which takes all that is
left. A backslash takes the meaning from the octet after it, and joins lines.
-/

namespace Fleet.Shell.Reading

/-- A line from a text, each octet with whether it is escaped, what follows it, and whether it has
an end. -/
def takeLine (raw : Bool) : Octets → List PatternOctet → List PatternOctet × Octets × Bool
  | [], line => (line.reverse, [], false)
  | '\n' :: rest, line => (line.reverse, rest, true)
  | '\x00' :: rest, line => takeLine raw rest line
  | '\\' :: rest, line =>
    if raw then takeLine raw rest (('\\', false) :: line)
    else
      match rest with
      | [] => (line.reverse, [], false)
      | c :: rest => takeLine raw rest (if c = '\n' then line else (c, true) :: line)
  | c :: rest, line => takeLine raw rest ((c, false) :: line)

/-- How far a line has been cut. -/
structure Cutting : Type where
  /-- The fields that are complete, the latest first. -/
  fields : List Octets := []
  /-- The field that is being read, its last octet first. -/
  current : Octets := []
  /-- Whether a blank has just ended a field. -/
  spaced : Bool := false
  /-- How many variables are left for fields. -/
  left : Nat
  /-- In the last field, how many octets come before the separators at its end. -/
  kept : Option Nat := none

namespace Cutting

/-- The cutting after one more octet. -/
def step (separators : Octets) (s : Cutting) (o : PatternOctet) : Cutting :=
  let (c, escaped) := o
  if escaped then { s with current := c :: s.current, spaced := false }
  else
    let separates := separators.contains c
    let blank := separates && (c == ' ' || c == '\t' || c == '\n')
    if s.left = 0 then
      let kept :=
        if blank then s.kept.or (some s.current.length)
        else if separates && s.spaced then s.kept
        else none
      { s with current := c :: s.current, kept, spaced := s.spaced && blank }
    else if s.spaced then
      { s with current := if separates then [] else [c], spaced := blank }
    else if separates then
      if s.current.isEmpty && blank then s
      else if s.left = 1 then
        { s with
          left := 0, kept := some s.current.length, current := c :: s.current, spaced := blank }
      else
        { s with
          fields := s.current.reverse :: s.fields, current := [], spaced := blank
          left := s.left - 1 }
    else { s with current := c :: s.current }

/-- The fields at the end of the line. -/
def all (s : Cutting) : List Octets :=
  let last := s.current.reverse
  let last := match s.kept with
    | some n => last.take n
    | none => last
  s.fields.reverse ++ if last.isEmpty then [] else [last]

end Cutting

/-- Gives fields to variables; those that are left become empty. -/
def assignFields : List Octets → List Octets → Exec Unit
  | [], _ => pure ()
  | name :: rest, fields => do
    assignVariable name (fields.headD [])
    assignFields rest fields.tail

/-- Reads a line into variables. -/
def run (arguments : List Octets) : Exec Unit := do
  let (options, names) ← Letters.take ⟨['r'], ['p']⟩ arguments
  if names.isEmpty then fail "arg count".toList
  let (left, p) := (← get).readAll 0
  let (line, after, ended) := takeLine ((options.lookup 'r').isSome) left []
  set (p.giveBack 0 after)
  let start : Cutting := { left := names.length }
  assignFields names (line.foldl (Cutting.step (separatorsOf p)) start).all
  setStatus (if ended then 0 else 1)

end Fleet.Shell.Reading
