import Fleet.Tools.Inputs

/-!
# Copying blocks

The tools `dd`, which copies blocks of a file into another one, and `truncate`, which makes files
shorter or longer.
-/

namespace Fleet.Tools

open Shell

namespace Copying

/-- What is copied, and how. -/
structure Plan : Type where
  source : Option Octets := none
  target : Option Octets := none
  /-- How many octets are read, and written, at a time. -/
  read : Nat := 512
  write : Nat := 512
  /-- How many octets of the source are passed over, and of the target. -/
  skipped : Nat × Bool := (0, false)
  passed : Nat × Bool := (0, false)
  /-- How much is copied: blocks, or octets. -/
  count : Option (Nat × Bool) := none
  conversions : List String := []
  flags : List String := []
  status : String := ""

/-- A number of octets: digits with a unit, products of such, or such in hexadecimal digits. -/
def amount? (text : Octets) : Option (Nat × Bool) := do
  let factor (part : Octets) : Option Nat :=
    let digits := part.takeWhile Char.isDigit
    let unit := part.drop digits.length
    let plain : List (String × Nat) := [("c", 1), ("w", 2), ("b", 512)]
    if digits.isEmpty then none
    else
      ((plain.lookup (String.ofList unit)).or (unitOf? unit)).map (number digits * ·)
  let octets := text.getLast? == some 'B' && (text.dropLast.getLast?.any Char.isDigit)
  let factors ← ((if octets then text.dropLast else text).splitOn 'x').mapM factor
  some (factors.foldl (· * ·) 1, octets)

/-- What the conversions are called. -/
def conversionNames : List String :=
  ["ascii", "ebcdic", "ibm", "block", "unblock", "lcase", "ucase", "sparse", "swab", "sync",
    "excl", "nocreat", "notrunc", "noerror", "fdatasync", "fsync"]

/-- The plan after an operand, or what is wrong with that: a message, and whether it is a misuse. -/
def Plan.operand (plan : Plan) (operand : Octets) : Except (Octets × Bool) Plan := do
  let name := operand.takeWhile (· ≠ '=')
  let value := (operand.drop name.length).drop 1
  let unknown {α : Type} : Except (Octets × Bool) α :=
    throw ("unrecognized operand ".toList ++ Quoting.value operand, true)
  if name.length = operand.length then unknown
  let amount : Except (Octets × Bool) (Nat × Bool) :=
    match amount? value with
    | some n => .ok n
    | none => .error ("invalid number: ".toList ++ Quoting.value value, false)
  let size : Except (Octets × Bool) Nat := do
    match ← amount with
    | (0, _) => throw ("invalid number: ".toList ++ Quoting.value value, false)
    | (n, _) => pure n
  let words := (value.splitOn ',').map String.ofList
  match String.ofList name with
  | "if" => pure { plan with source := some value }
  | "of" => pure { plan with target := some value }
  | "bs" =>
    let n ← size
    pure { plan with read := n, write := n }
  | "ibs" => pure { plan with read := ← size }
  | "obs" => pure { plan with write := ← size }
  | "cbs" =>
    let _ ← size
    pure plan
  | "count" => pure { plan with count := some (← amount) }
  | "skip" | "iseek" => pure { plan with skipped := ← amount }
  | "seek" | "oseek" => pure { plan with passed := ← amount }
  | "conv" =>
    match words.find? (!conversionNames.contains ·) with
    | some word => throw ("invalid conversion: ".toList ++ Quoting.value word.toList, true)
    | none => pure { plan with conversions := plan.conversions ++ words }
  | "iflag" | "oflag" => pure { plan with flags := plan.flags ++ words }
  | "status" =>
    let word := String.ofList value
    if ["none", "noxfer", "progress"].contains word then pure { plan with status := word }
    else throw ("invalid status level: ".toList ++ Quoting.value value, true)
  | _ => unknown

/-- Octets of which each two have changed places. -/
def swapped : Octets → Octets
  | a :: b :: rest => b :: a :: swapped rest
  | rest => rest

/-- What becomes of the octets that are copied. -/
def Plan.converted (plan : Plan) (text : Octets) : Octets :=
  plan.conversions.foldl (fun text word =>
    match word with
    | "ucase" => text.map Char.toUpper
    | "lcase" => text.map Char.toLower
    | "swab" => swapped text
    | _ => text) text

/-- How many blocks there are, whole ones and perhaps one more. -/
def records (size length : Nat) : Octets :=
  decimal (length / size) ++ '+' :: decimal (if length % size = 0 then 0 else 1)

/-- Copies what is asked for. -/
def Plan.run (plan : Plan) : StateM Process Nat := do
  let p ← get
  let source ← match plan.source with
    | none => readSource ['-']
    | some path => readSource path
  match source with
  | .error u => do
    if u.opened then
      fault ("error reading ".toList ++
        Quoting.name (if isInput u.path then "standard input".toList else u.path) ++
        ": ".toList ++ u.error.description.toList)
    else fileFault "failed to open" u.path u.error
    pure 1
  | .ok whole =>
    let octets (flag : String) (unit : Nat) (amount : Nat × Bool) : Nat :=
      if amount.2 || plan.flags.contains flag then amount.1 else amount.1 * unit
    let rest := whole.drop (octets "skip_bytes" plan.read plan.skipped)
    let taken := match plan.count with
      | none => rest
      | some count => rest.take (octets "count_bytes" plan.read count)
    -- What is not taken from the input is left there.
    if plan.source.isNone then
      modify (·.giveBack 0 (rest.drop taken.length))
    let gap := (plan.read - taken.length % plan.read) % plan.read
    let filled :=
      if plan.conversions.contains "sync" then taken ++ List.replicate gap '\x00' else taken
    let text := plan.converted filled
    let place := octets "seek_bytes" plan.write plan.passed
    let written : Except OsError Unit ←
      match plan.target with
      | none => do
        say text
        pure (.ok ())
      | some path =>
        let old := ((p.readFile path).toOption.getD []).toBytes
        let isThere := (entryOf p path).isOk
        let kept :=
          if plan.conversions.contains "notrunc" then old else old.take place
        let content := Process.overwrite kept place text.toBytes
        if isThere && plan.conversions.contains "excl" then pure (.error .fileExists)
        else if !isThere && plan.conversions.contains "nocreat" then pure (.error .noSuchFile)
        else
          match (← get).save path content with
          | .ok p => do
            set p
            pure (.ok ())
          | .error e => pure (.error e)
    match written with
    | .error e => do
      fileFault "failed to open" (plan.target.getD []) e
      pure 1
    | .ok () => do
      if plan.status ≠ "none" then
        sayError (records plan.read taken.length ++ " records in\n".toList ++
          records plan.write text.length ++ " records out\n".toList)
        if plan.status ≠ "noxfer" then
          sayError (decimal text.length ++
            (if text.length = 1 then " byte" else " bytes").toList ++
            " copied, 0 s, Infinity B/s\n".toList)
      pure 0

end Copying

/-- Copies blocks. -/
def dd : Tool := fun arguments => do
  let arguments := if arguments.head? == some "--".toList then arguments.tail else arguments
  match arguments.foldlM Copying.Plan.operand {} with
  | .ok plan => plan.run
  | .error (message, isMisuse) => do
    if isMisuse then misuse message else fault message
    pure 1

namespace Copying

/-- How the size of a file changes. -/
inductive Resizing : Type where
  | exactly
  | longer
  | shorter
  | atMost
  | atLeast
  | downTo
  | upTo
  deriving Repr, DecidableEq

/-- What a size says: a sign, which may stand in front, and a number. -/
def resizing? (text : Octets) : Option (Resizing × Nat) :=
  let text := text.dropWhile (· == ' ')
  let signs : List (Char × Resizing) :=
    [('+', .longer), ('-', .shorter), ('<', .atMost), ('>', .atLeast), ('/', .downTo), ('%', .upTo)]
  let (kind, body) : Resizing × Octets := match text.head?.bind fun c => signs.lookup c with
    | some kind => (kind, text.tail)
    | none => (.exactly, text)
  let digits := body.takeWhile Char.isDigit
  if digits.isEmpty then none
  else (unitOf? (body.drop digits.length)).map fun unit => (kind, number digits * unit)

/-- The size of a file after it was changed. -/
def Resizing.apply (kind : Resizing) (old n : Nat) : Nat :=
  match kind with
  | exactly => n
  | longer => old + n
  | shorter => old - n
  | atMost => min old n
  | atLeast => max old n
  | downTo => if n = 0 then old else old / n * n
  | upTo => if n = 0 then old else (old + n - 1) / n * n

end Copying

/-- Makes files shorter or longer. -/
def truncate : Tool :=
  withOptions [flag 'c' ["no-create"], flag 'o' ["io-blocks"], valued 'r' ["reference"],
    valued 's' ["size"]] fun g => do
  let p ← get
  let size : Except (Octets × Bool) (Copying.Resizing × Nat) :=
    match g.value? 's', g.value? 'r' with
    | none, none => .error ("you must specify either '--size' or '--reference'".toList, true)
    | some text, reference =>
      match Copying.resizing? text with
      | none => .error ("Invalid number: ".toList ++ Quoting.value text, false)
      | some (kind, n) =>
        if reference.isSome && kind = .exactly then
          .error ("you must specify a relative '--size' with '--reference'".toList, true)
        else .ok (kind, n)
    | none, some path =>
      match p.readFile path with
      | .ok text => .ok (.exactly, text.length)
      | .error e =>
        .error ("cannot stat ".toList ++ Quoting.name path ++ ": ".toList ++ e.description.toList,
          false)
  match size with
  | .error (message, isMisuse) => do
    if isMisuse then misuse message else fault message
    pure 1
  | .ok (kind, n) =>
    overFiles "file operand" g.operands fun path => do
      let p ← get
      let isThere := (entryOf p path).isOk
      if !isThere && g.has 'c' then pure 0
      else
        let old := (p.readFile path).toOption.getD []
        let size := kind.apply old.length n
        let text : Octets := old.take size ++ List.replicate (size - old.length) '\x00'
        match p.edit fun t here => t.writeFile here path.toText text.toBytes p.fileMode with
        | .ok p => do
          set p
          pure 0
        | .error e => do
          fault ("cannot open ".toList ++ Quoting.name path ++ " for writing: ".toList ++
            e.description.toList)
          pure 1

end Fleet.Tools
