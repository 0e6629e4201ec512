import Fleet.Shell.Variables

/-!
# Arrays

The elements of an array are kept at numbers, in their order, or at keys. The order of keys is that
of their hashes; of keys with the same hash the latest comes first. A variable that is no array is
one with its value at zero.
-/

namespace Fleet.Shell

/-- Where an element of an array is. -/
inductive Key : Type where
  | number (n : Nat)
  | text (key : Octets)
  deriving Repr, DecidableEq

/-- The hash of a key: each octet is mixed in after a multiplication, in 32 bits. -/
def hashOf (key : Octets) : UInt32 :=
  key.foldl (fun (hash : UInt32) c => (hash * 16777619) ^^^ UInt32.ofNat c.toNat) 2166136261

/-- The place of a key among others; the lowest bits of its hash. -/
def bucketOf (key : Octets) : Nat :=
  (hashOf key).toNat % 1024

namespace Table

/-- Elements with one more at a number, in place of an older one. -/
def putAt (n : Nat) (value : Octets) : List (Nat × Octets) → List (Nat × Octets)
  | [] => [(n, value)]
  | (m, other) :: rest =>
    if n < m then (n, value) :: (m, other) :: rest
    else if n = m then (n, value) :: rest
    else (m, other) :: putAt n value rest

/-- Elements with one more at a key, in place of an older one. -/
def putUnder (key value : Octets) (elements : List (Octets × Octets)) : List (Octets × Octets) :=
  if elements.any (·.1 == key) then
    elements.map fun old => if old.1 == key then (key, value) else old
  else (key, value) :: elements

/-- The element at a key. -/
def get? : Table → Key → Option Octets
  | indexed elements, .number n => elements.lookup n
  | keyed elements, .text key => elements.lookup key
  | _, _ => none

/-- An array with one more element, in place of an older one. -/
def put : Table → Key → Octets → Table
  | indexed elements, .number n, value => indexed (putAt n value elements)
  | keyed elements, .text key, value => keyed (putUnder key value elements)
  | table, _, _ => table

/-- An array without the element at a key. -/
def drop : Table → Key → Table
  | indexed elements, .number n => indexed (elements.filter (·.1 != n))
  | keyed elements, .text key => keyed (elements.filter (·.1 != key))
  | table, _ => table

/-- The keys and the elements of an array, in their order. -/
def all : Table → List (Octets × Octets)
  | indexed elements => elements.map fun (n, value) => (decimal n, value)
  | keyed elements => elements.mergeSort fun a b => bucketOf a.1 ≤ bucketOf b.1

/-- The number behind the last element. -/
def next : Table → Nat
  | indexed elements => ((elements.getLast?).map (·.1 + 1)).getD 0
  | keyed _ => 0

/-- Whether the elements are kept at keys. -/
def isKeyed : Table → Bool
  | keyed _ => true
  | indexed _ => false

end Table

namespace Process

/-- The variable that a name stands for: a reference leads on to another name, a few times. -/
def referent (p : Process) : Nat → Octets → Octets
  | 0, name => name
  | n + 1, name =>
    match p.declared? name with
    | some v =>
      match v.value.filter fun value => v.reference && !value.isEmpty with
      | some other => p.referent n other
      | none => name
    | none => name

/-- The name that a name with its references followed stands for, and the subscript in it. -/
def resolved (p : Process) (name : Octets) : Octets × Option Octets :=
  let whole := p.referent 8 name
  let plain := whole.takeWhile (· ≠ '[')
  if plain.length < whole.length && whole.getLast? == some ']' &&
      plain.length + 2 ≤ whole.length then
    (plain, some ((whole.drop (plain.length + 1)).dropLast))
  else (whole, none)

/-- The elements of a variable; one that is no array has one, if it is set. -/
def tableOf? (p : Process) (name : Octets) : Option Table :=
  (p.declared? name).bind fun v =>
    match v.table, v.value with
    | some table, _ => some table
    | none, some value => some (.indexed [(0, value)])
    | none, none => none

/-- Whether the elements of a variable are kept at keys. -/
def isKeyed (p : Process) (name : Octets) : Bool :=
  ((p.declared? name).bind Variable.table).any Table.isKeyed

/-- The key for a number, which counts from behind if it is negative. -/
def keyAt? (p : Process) (name : Octets) (n : Int) : Option Key :=
  if 0 ≤ n then some (.number n.toNat)
  else
    let last : Int := ((p.tableOf? name).map Table.next).getD 0
    if 0 ≤ last + n then some (.number (last + n).toNat) else none

/-- The process after an element of a variable was set, which becomes an array if it is none. -/
def putElement (p : Process) (name : Octets) (key : Key) (value : Octets) : Process :=
  let old := (p.declared? name).getD { name, value := none }
  let table := (p.tableOf? name).getD (.indexed [])
  p.putVariable { old with value := none, table := some (table.put key value) }

/-- The process after the value of a variable was set; that of an array is its first element. -/
def putValue (p : Process) (name value : Octets) (exported : Bool := false) : Process :=
  match (p.declared? name).bind Variable.table with
  | some table =>
    p.putElement name (if table.isKeyed then .text ['0'] else .number 0) value
  | none => p.setVariable name value exported

/-- The process with an array in place of what a variable is. -/
def putTable (p : Process) (name : Octets) (values : List Octets) : Process :=
  let table := Table.indexed (values.zipIdx.map fun (value, n) => (n, value))
  let old := (p.declared? name).getD { name, value := none }
  p.putVariable { old with value := none, table := some table }

end Process

end Fleet.Shell
