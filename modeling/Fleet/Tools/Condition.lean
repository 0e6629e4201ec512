import Fleet.Tools.Files

/-!
# Conditions

The tool `test`, whose code says whether an expression holds: tests of files, of texts and of
numbers, and their combinations.
-/

namespace Fleet.Tools

open Shell

/-- Whether a test of one operand holds; `none` if there is no such test. -/
def holdsOf? (p : Process) (op : String) (operand : Octets) : Option Bool :=
  let entry := p.tree.entryAt p.here? operand.toText
  let mode := (entry.toOption.map p.tree.modeOf).getD 0
  let literal := p.tree.entryAt p.here? operand.toText false
  match op with
  | "-n" => some !operand.isEmpty
  | "-z" => some operand.isEmpty
  | "-e" => some entry.toOption.isSome
  | "-f" => some (p.tree.isFile p.here? operand.toText)
  | "-d" => some (p.tree.isDirectory p.here? operand.toText)
  | "-h" | "-L" =>
    match literal with
    | .ok (.link _) => some true
    | _ => some false
  | "-r" | "-w" => some entry.toOption.isSome
  | "-x" => some (entry.toOption.any fun e => e.isExecutable || e matches .directory _)
  | "-O" | "-G" => some entry.toOption.isSome
  | "-c" => some (entry matches .ok .sink)
  | "-k" => some (mode &&& 0o1000 ≠ 0)
  | "-g" => some (mode &&& 0o2000 ≠ 0)
  | "-u" => some (mode &&& 0o4000 ≠ 0)
  | "-s" =>
    match entry with
    | .ok (.file content _) => some !content.isEmpty
    | .ok (.sink) | .error _ => some false
    | .ok _ => some true
  | "-t" => some false
  | _ => none

/-- What is wrong with an expression. -/
inductive ConditionFault : Type where
  /-- An operand should be a number. -/
  | notNumber (operand : Octets)
  /-- An operator lacks an operand. -/
  | noOperand (operator : Octets)
  /-- Something follows that does not belong there; the last thing before it is named. -/
  | unexpected (last : Octets)
  | unclosed
  deriving Repr, DecidableEq

/-- What the shell says about an expression. -/
def ConditionFault.message : ConditionFault → Octets
  | notNumber operand => "Illegal number: ".toList ++ operand
  | noOperand operator => operator ++ ": argument expected".toList
  | unexpected last => last ++ ": unexpected operator".toList
  | unclosed => "closing paren expected".toList

/-- What the program says about an expression, given its arguments. -/
def ConditionFault.programMessage (arguments : List Octets) : ConditionFault → Octets
  | notNumber operand => "invalid integer '".toList ++ operand ++ ['\'']
  | noOperand operator => "missing argument after '".toList ++ operator ++ ['\'']
  | unexpected _ =>
    match arguments with
    | [_, operator, _] => ['\''] ++ operator ++ "': binary operator expected".toList
    | _ :: operator :: _ :: _ => "extra argument '".toList ++ operator ++ ['\'']
    | _ => "missing argument after '".toList ++ arguments.getLastD [] ++ ['\'']
  | unclosed => "missing argument after '".toList ++ arguments.getLastD [] ++ ['\'']

/-- Where a condition is looked at. -/
structure Trial : Type where
  process : Process
  /-- Whether numbers have no bounds. -/
  unbounded : Bool

/-- The number that an operand is, blanks around it aside. -/
def Trial.numberOf (t : Trial) (operand : Octets) : Except ConditionFault Int :=
  let trimmed := ((operand.dropWhile Char.isWhitespace).reverse.dropWhile Char.isWhitespace).reverse
  let digits := if trimmed.head? == some '-' || trimmed.head? == some '+' then trimmed.tail
    else trimmed
  let n : Int := if trimmed.head? == some '-' then -(number digits : Int) else number digits
  let fits := -0x8000000000000000 ≤ n && n < 0x8000000000000000
  if digits.isEmpty || !digits.all Char.isDigit || !(fits || t.unbounded) then
    .error (.notNumber operand)
  else .ok n

/-- Whether a test of two operands holds. Files have no times, so none is newer than another. -/
def holdsBetween (t : Trial) (op : String) (a b : Octets) : Except ConditionFault Bool :=
  let compare (test : Int → Int → Bool) : Except ConditionFault Bool := do
    pure (test (← t.numberOf a) (← t.numberOf b))
  match op with
  | "=" => .ok (a == b)
  | "!=" => .ok (a != b)
  | "<" => .ok (decide (a < b))
  | ">" => .ok (decide (b < a))
  | "-eq" => compare (· == ·)
  | "-ne" => compare (· != ·)
  | "-lt" => compare (· < ·)
  | "-le" => compare (· ≤ ·)
  | "-gt" => compare (· > ·)
  | "-ge" => compare (· ≥ ·)
  | "-ef" => .ok (t.process.tree.areSame t.process.here? a.toText b.toText)
  | _ => .ok false

/-- What an argument may be besides an operand. -/
inductive Role : Type where
  | unary | binary | negation | conjunction | disjunction | opening | closing
  deriving Repr, DecidableEq

/-- What an argument is by itself. -/
def roleOf? (argument : Octets) : Option Role :=
  let name := String.ofList argument
  if ["-b", "-c", "-d", "-e", "-f", "-g", "-G", "-h", "-k", "-L", "-n", "-O", "-p", "-r", "-s",
      "-S", "-t", "-u", "-w", "-x", "-z"].contains name then some .unary
  else if ["=", "!=", "<", ">", "-eq", "-ne", "-lt", "-le", "-gt", "-ge", "-nt", "-ot",
      "-ef"].contains name then some .binary
  else
    [("!", .negation), ("-a", .conjunction), ("-o", .disjunction), ("(", .opening),
      (")", .closing)].lookup name

/-- What the first of some arguments is where it stands. A test of one operand that nothing follows
is an operand, as is one before an operator and another operand. -/
def role? : List Octets → Option Role
  | [] => none
  | argument :: rest =>
    match roleOf? argument, rest with
    | some .unary, [] => none
    | some .unary, next :: _ :: _ => if roleOf? next = some .binary then none else some .unary
    | some .opening, [] => none
    | role, _ => role

mutual

/-- Whether one of several alternatives holds, and the arguments after them. -/
def disjunction (t : Trial) : Nat → List Octets → Except ConditionFault (Bool × List Octets)
  | 0, _ => .error .unclosed
  | n + 1, arguments => do
    let (left, rest) ← conjunction t n arguments
    match role? rest, rest with
    | some .disjunction, _ :: rest => do
      let (right, rest) ← disjunction t n rest
      pure (left || right, rest)
    | _, _ => pure (left, rest)

/-- Whether all parts of an expression hold, and the arguments after it. -/
def conjunction (t : Trial) : Nat → List Octets → Except ConditionFault (Bool × List Octets)
  | 0, _ => .error .unclosed
  | n + 1, arguments => do
    let (left, rest) ← single t n arguments
    match role? rest, rest with
    | some .conjunction, _ :: rest => do
      let (right, rest) ← conjunction t n rest
      pure (left && right, rest)
    | _, _ => pure (left, rest)

/-- Whether a single test holds, and the arguments after it. -/
def single (t : Trial) : Nat → List Octets → Except ConditionFault (Bool × List Octets)
  | 0, _ => .error .unclosed
  | n + 1, arguments =>
    match role? arguments, arguments with
    | some .negation, _ :: rest => (single t n rest).map fun (v, rest) => (!v, rest)
    | some .opening, _ :: rest =>
      match rest with
      | [')'] :: rest => .ok (false, rest)
      | rest => do
        let (v, rest) ← disjunction t n rest
        match rest with
        | [')'] :: rest => pure (v, rest)
        | _ => throw .unclosed
    | some .unary, op :: operand :: rest =>
      .ok ((holdsOf? t.process (String.ofList op) operand).getD false, rest)
    | _, a :: rest => between t a rest
    | _, [] => .ok (false, [])

/-- Whether a test of an operand and, if an operator follows, of another one holds. -/
def between (t : Trial) (a : Octets) : List Octets →
    Except ConditionFault (Bool × List Octets)
  | op :: rest =>
    if role? (op :: rest) = some .binary then
      match rest with
      | b :: rest => (holdsBetween t (String.ofList op) a b).map (·, rest)
      | [] => .error (.noOperand op)
    else .ok (!a.isEmpty, op :: rest)
  | [] => .ok (!a.isEmpty, [])

end

/-- Whether an expression holds. Up to four arguments are read in the way that makes sense of
them, if there is one. -/
def holds (t : Trial) : List Octets → Except ConditionFault Bool
  | [] => .ok false
  | a :: rest =>
    let all := a :: rest
    let whole (result : Except ConditionFault (Bool × List Octets)) :
        Except ConditionFault Bool := do
      let (v, after) ← result
      if after.isEmpty then pure v
      else throw (.unexpected ((all.take (all.length - after.length)).getLastD []))
    let short := all.length == 3 || all.length == 4
    if all.length == 3 && (rest.head?.bind roleOf?) == some .binary then whole (between t a rest)
    else if short && a == ['('] && all.getLast? == some [')'] then
      (disjunction t (2 * all.length + 4) rest.dropLast).map Prod.fst
    else if short && a == ['!'] then (holds t rest).map (!·)
    else whole (disjunction t (2 * all.length + 4) all)

/-- Says whether an expression holds, by the code; as the shell does or as the program does. -/
def conditionTool (builtin : Bool) (arguments : List Octets) :
    StateM Process Nat := do
  match holds { process := ← get, unbounded := !builtin } arguments with
  | .ok true => pure 0
  | .ok false => pure 1
  | .error e =>
    if builtin then complain e.message
    else fault (e.programMessage arguments)
    pure 2

/-- Says whether an expression holds. -/
def test (builtin : Bool) : Tool :=
  conditionTool builtin

/-- Says whether an expression between brackets holds. -/
def bracket (builtin : Bool) : Tool := fun arguments =>
  if arguments.getLast? = some [']'] then conditionTool builtin arguments.dropLast
  else do
    if builtin then complain "missing ]".toList else fault "missing ']'".toList
    pure 2

end Fleet.Tools
