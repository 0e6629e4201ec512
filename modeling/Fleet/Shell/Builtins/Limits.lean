import Fleet.Shell.Letters

/-!
# Limits and the mask

Two settings of a process that what it starts takes over.
-/

/-!
## Limits

What processes may use, as the builtin `ulimit` shows and changes it. Each limit has a lower bound,
which counts, and an upper bound for the lower one.
-/

namespace Fleet.Shell.Limits

/-- Something that is limited. -/
structure Kind : Type where
  letter : Char
  name : String
  /-- How many of what is counted are one of what is shown. -/
  unit : Nat
  /-- The bounds at the start, none being no bound. -/
  lower : Option Nat
  upper : Option Nat
  deriving Repr

/-- All that is limited, in the order in which it is shown. -/
def kinds : List Kind :=
  [⟨'t', "time(seconds)", 1, none, none⟩, ⟨'f', "file(blocks)", 512, none, none⟩,
    ⟨'d', "data(kbytes)", 1024, none, none⟩,
    ⟨'s', "stack(kbytes)", 1024, some 8388608, none⟩,
    ⟨'c', "coredump(blocks)", 512, some 0, none⟩, ⟨'m', "memory(kbytes)", 1024, none, none⟩,
    ⟨'l', "locked memory(kbytes)", 1024, some 8388608, some 8388608⟩,
    ⟨'p', "process", 1, some 128604, some 128604⟩,
    ⟨'n', "nofiles", 1, some 20000, some 20000⟩, ⟨'v', "vmemory(kbytes)", 1024, none, none⟩,
    ⟨'w', "locks", 1, none, none⟩, ⟨'r', "rtprio", 1, some 0, some 0⟩]

/-- The most files that a process may ever have open. -/
def fileBound : Nat :=
  1048576

/-- The bounds of a kind in a process. -/
def bounds (p : Process) (k : Kind) : Option Nat × Option Nat :=
  (p.limits.lookup k.letter).getD (k.lower, k.upper)

/-- Whether a bound is above another one. -/
def exceeds : Option Nat → Option Nat → Bool
  | some a, some b => b < a
  | none, some _ => true
  | _, none => false

/-- A bound as it is shown. -/
def shown (k : Kind) : Option Nat → Octets
  | none => "unlimited\n".toList
  | some n => decimal (n / k.unit) ++ ['\n']

/-- The bound that an argument gives. -/
def bound? (k : Kind) (argument : Octets) : Option (Option Nat) :=
  if argument = "unlimited".toList then some none
  else if argument.all Char.isDigit then
    some (some (argument.foldl (fun n d => n * 10 + (d.toNat - '0'.toNat)) 0 * k.unit))
  else none

/-- Shows a limit, or all, or changes one. -/
def run (arguments : List Octets) : Exec Unit := do
  let (options, rest) ← Letters.take ⟨['H', 'S', 'a'] ++ kinds.map Kind.letter, []⟩ arguments
  let letters := options.map Prod.fst
  let sides := letters.filter fun c => c == 'H' || c == 'S'
  let upper := sides.getLast? ≠ some 'S'
  let lower := sides.getLast? ≠ some 'H'
  let every := letters.contains 'a'
  let letter := ((letters.filter fun c => kinds.any (·.letter == c)).getLast?).getD 'f'
  let p ← get
  let side (k : Kind) : Option Nat :=
    let (low, high) := bounds p k
    if lower then low else high
  let kind := kinds.find? (·.letter == letter)
  setStatus 0
  match rest, kind with
  | value :: more, some k =>
    if every || !more.isEmpty then fail "too many arguments".toList
    match bound? k value with
    | none => fail "bad number".toList
    | some bound => do
      let (low, high) := bounds p k
      let low := if lower then bound else low
      let high := if upper then bound else high
      let refused (e : OsError) : Exec Unit :=
        fail ("error setting limit (".toList ++ e.description.toList ++ ")".toList)
      if exceeds low high then refused .invalidArgument
      if k.letter = 'n' && exceeds high (some fileBound) then refused .notPermitted
      modify fun p =>
        { p with limits := (letter, low, high) :: p.limits.filter (·.1 != letter) }
  | _, some k =>
    let padded (name : String) : Octets :=
      name.toList ++ List.replicate (20 - name.length) ' ' ++ [' ']
    let text :=
      if every then (kinds.map fun k => padded k.name ++ shown k (side k)).flatten
      else shown k (side k)
    (say text : StateM Process Unit)
  | _, none => pure ()

end Fleet.Shell.Limits

/-!
## The mask for new files

The permissions that new files lack, as an octal number or as the permissions that are left, for the
user, the group and others.
-/

namespace Fleet.Shell.Mask

/-- All permissions. -/
def all : Nat :=
  511

/-- The permissions that a mask leaves, or the mask that leaves some permissions. -/
def invert (bits : Nat) : Nat :=
  all - bits % 512

/-- The permissions of a kind for the user, the group and others. -/
def everyone (bits : Nat) : Nat :=
  bits * 73

/-- The permissions of the user, the group and others, the user's first. -/
def shares (mode : Nat) : List Nat :=
  [mode / 64 % 8, mode / 8 % 8, mode % 8]

/-- The letters of some permissions. -/
def letters (share : Nat) : Octets :=
  (if share / 4 % 2 = 1 then ['r'] else []) ++ (if share / 2 % 2 = 1 then ['w'] else []) ++
    if share % 2 = 1 then ['x'] else []

/-- What a mask leaves, in letters. -/
def symbolic (mask : Nat) : Octets :=
  List.intercalate [','] (List.zipWith (fun who share => who :: '=' :: letters share)
    ['u', 'g', 'o'] (shares (invert mask)))

/-- A mask in four octal digits. -/
def octal (mask : Nat) : Octets :=
  let digits := Nat.toDigits 8 mask
  List.replicate (4 - digits.length) '0' ++ digits

/-- The bits of those that a letter stands for. -/
def who? (c : Char) : Option Nat :=
  match c with
  | 'u' => some 448
  | 'g' => some 56
  | 'o' => some 7
  | 'a' => some all
  | _ => none

/-- The permissions that a letter stands for, given those before the change and those now. -/
def permissions? (before now : Nat) (c : Char) : Option Nat :=
  match c with
  | 'r' => some (everyone 4)
  | 'w' => some (everyone 2)
  | 'x' => some (everyone 1)
  | 'X' => some (if (shares before).any (· % 2 = 1) then everyone 1 else 0)
  | 's' => some 0
  | 'u' => some (everyone (now / 64 % 8))
  | 'g' => some (everyone (now / 8 % 8))
  | 'o' => some (everyone (now % 8))
  | _ => none

/-- A mode after the actions for some users, such as `+r-w`; there has to be one. -/
def act (before who : Nat) : Nat → Nat → Octets → Option Nat
  | 0, _, _ => none
  | n + 1, mode, cs =>
    match cs with
    | [] => none
    | op :: cs =>
      let isOperator (c : Char) : Bool := c == '+' || c == '-' || c == '='
      let given := cs.takeWhile (!isOperator ·)
      let rest := cs.drop given.length
      match isOperator op, given.mapM (permissions? before mode) with
      | true, some several =>
        let bits := several.foldl (fun a b => a ||| b) 0 &&& who
        let next :=
          match op with
          | '+' => mode ||| bits
          | '-' => mode - (mode &&& bits)
          | _ => (mode - (mode &&& who)) ||| bits
        if rest.isEmpty then some next else act before who n next rest
      | _, _ => none

/-- A mode after changes such as `u=rwx,go-w`. The last of them may say nothing. -/
def change (before : Nat) : Nat → List Octets → Option Nat
  | mode, [] => some mode
  | mode, clause :: rest => do
    let whos := clause.takeWhile fun c => (who? c).isSome
    if rest.isEmpty && whos.length = clause.length then return mode
    let who := (whos.filterMap who?).foldl (fun a b => a ||| b) 0
    let mode ←
      act before (if whos.isEmpty then all else who) clause.length mode (clause.drop whos.length)
    change before mode rest

/-- Shows the mask or changes it. -/
def run (arguments : List Octets) : Exec Unit := do
  let (options, rest) ← Letters.take ⟨['S'], []⟩ arguments
  let mask := (← get).mask
  setStatus 0
  match rest with
  | [] =>
    let text := if options.isEmpty then octal mask else symbolic mask
    (say (text ++ ['\n']) : StateM Process Unit)
  | mode :: _ =>
    if (mode.head?.map Char.isDigit).getD false then
      if mode.all fun c => '0' ≤ c && c ≤ '7' then
        let n := mode.foldl (fun n c => n * 8 + (c.toNat - '0'.toNat)) 0
        modify fun p => { p with mask := n % 512 }
      else fail ("Illegal number: ".toList ++ mode)
    else
      match change (invert mask) (invert mask) (mode.splitOn ',') with
      | some left => modify fun p => { p with mask := invert left }
      | none => fail ("Illegal mode: ".toList ++ mode)

end Fleet.Shell.Mask
