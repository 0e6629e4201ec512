import Fleet.Shell.Variables

/-!
# Arithmetic

What all dialects have in common, and the expressions of the plain one.
-/

/-!
## Integers in scripts

Expressions are worked out over integers of 64 bits with a sign, which wrap around. Here are the
operators on them, the numbers that texts stand for, and what can be wrong with an expression.
-/

namespace Fleet.Shell.Arithmetic

/-- An operator between two operands. -/
inductive Operator : Type where
  | add | subtract | multiply | divide | remainder
  | shiftLeft | shiftRight | bitAnd | bitOr | bitXor
  | equal | notEqual | less | lessEqual | greater | greaterEqual
  deriving Repr, DecidableEq

/-- Why an expression has no value. -/
inductive Fault : Type where
  /-- It is not written as an expression; what was expected is said. -/
  | expecting (what : String)
  | divisionByZero
  /-- A quotient is too great, at which the process is stopped. -/
  | overflow
  /-- A variable holds no number. -/
  | notNumber (text : Octets)
  /-- A variable can no longer be changed. -/
  | fixed (name : Octets)
  deriving Repr, DecidableEq

/-- The least integer. -/
def least : Int :=
  -0x8000000000000000

/-- The greatest integer. -/
def greatest : Int :=
  0x7FFFFFFFFFFFFFFF

/-- The nearest integer of 64 bits that is the same up to multiples of 2^64. -/
def wrap (n : Int) : Int :=
  n.bmod 0x10000000000000000

/-- The two's complement of an integer, as 64 bits. -/
def bits (n : Int) : UInt64 :=
  UInt64.ofNat (n % 0x10000000000000000).toNat

/-- One for what is so, zero for what is not. -/
def truth (p : Bool) : Int :=
  if p then 1 else 0

/-- The value of an operator. Only a division can lack one. -/
def Operator.apply (op : Operator) (a b : Int) : Except Fault Int :=
  match op with
  | add => .ok (wrap (a + b))
  | subtract => .ok (wrap (a - b))
  | multiply => .ok (wrap (a * b))
  | divide => ratio a.tdiv
  | remainder => ratio a.tmod
  | shiftLeft => .ok (wrap (a * Nat.pow 2 (b % 64).toNat))
  | shiftRight => .ok (a.fdiv (Nat.pow 2 (b % 64).toNat))
  | bitAnd => .ok (wrap (bits a &&& bits b).toNat)
  | bitOr => .ok (wrap (bits a ||| bits b).toNat)
  | bitXor => .ok (wrap (bits a ^^^ bits b).toNat)
  | equal => .ok (truth (a == b))
  | notEqual => .ok (truth (a != b))
  | less => .ok (truth (a < b))
  | lessEqual => .ok (truth (a ≤ b))
  | greater => .ok (truth (b < a))
  | greaterEqual => .ok (truth (b ≤ a))
where
  /-- A quotient or a remainder. -/
  ratio (f : Int → Int) : Except Fault Int :=
    if b = 0 then .error .divisionByZero
    else if a = least && b = -1 then .error .overflow
    else .ok (f b)

/-- The binary operators by how tightly they bind, loosest first; of two that start alike the
longer stands first. -/
def levels : List (List (String × Operator)) :=
  [[("|", .bitOr)], [("^", .bitXor)], [("&", .bitAnd)],
    [("==", .equal), ("!=", .notEqual)],
    [("<=", .lessEqual), (">=", .greaterEqual), ("<", .less), (">", .greater)],
    [("<<", .shiftLeft), (">>", .shiftRight)],
    [("+", .add), ("-", .subtract)],
    [("*", .multiply), ("/", .divide), ("%", .remainder)]]

/-- The operators that assign after working something out. -/
def assignments : List (String × Operator) :=
  [("+=", .add), ("-=", .subtract), ("*=", .multiply), ("/=", .divide), ("%=", .remainder),
    ("<<=", .shiftLeft), (">>=", .shiftRight), ("&=", .bitAnd), ("|=", .bitOr), ("^=", .bitXor)]

/-- The operator of a level that comes next, unless the symbol goes on as another operator. -/
def operator? (level : List (String × Operator)) (cs : Octets) : Option (Nat × Operator) :=
  level.findSome? fun (symbol, op) =>
    if symbol.toList.isPrefixOf cs then
      let next := (cs.drop symbol.length).head?
      let goesOn := next == some '=' && symbol ≠ "==" && symbol ≠ "!=" && symbol ≠ "<=" &&
        symbol ≠ ">="
      let doubled := (symbol == "&" || symbol == "|" || symbol == "<" || symbol == ">") &&
        next == symbol.toList.head?
      if goesOn || doubled then none else some (symbol.length, op)
    else none

/-- The value of a digit, letters counting from ten. -/
def digitValue (c : Char) : Nat :=
  if c.isDigit then c.toNat - '0'.toNat else c.toLower.toNat - 'a'.toNat + 10

/-- A digit of a base. -/
def isDigitOf (base : Nat) (c : Char) : Bool :=
  c.isAlphanum && digitValue c < base

/-- The number that a text starts with in a base, and what follows. -/
def digits (base : Nat) (cs : Octets) : Nat × Octets :=
  let number := cs.takeWhile (isDigitOf base)
  (number.foldl (fun n c => n * base + digitValue c) 0, cs.drop number.length)

/-- The number that a text starts with, decimal, octal after a zero, or hexadecimal after `0x`, and
what follows. -/
def leadingNumber (cs : Octets) : Nat × Octets :=
  match cs with
  | '0' :: x :: c :: rest =>
    if (x == 'x' || x == 'X') && isDigitOf 16 c then digits 16 (c :: rest) else digits 8 cs
  | '0' :: _ => digits 8 cs
  | _ => digits 10 cs

/-- The number that a text is, blanks around it aside; an empty one is zero. -/
def numberIn (text : Octets) : Except Fault Int :=
  let start := text.dropWhile Char.isWhitespace
  let (negative, cs) :=
    match start with
    | '-' :: rest => (true, rest)
    | '+' :: rest => (false, rest)
    | rest => (false, rest)
  let (n, rest) := leadingNumber cs
  let n : Int := if negative then -n else n
  let bare := cs.length ≠ start.length && rest.length == cs.length
  if rest.all Char.isWhitespace && !bare && least ≤ n && n ≤ greatest then .ok n
  else .error (.notNumber text)

/-- The text of an integer. -/
def render (n : Int) : Octets :=
  (toString n).toList

end Fleet.Shell.Arithmetic

/-!
## Arithmetic in the plain shell

An expression is worked out as it is read, so that what comes first is noticed first. Names stand
for variables that hold numbers, and assignments change them. What does not count is read but not
worked out.
-/

namespace Fleet.Shell.Arithmetic.Plain

/-- What is left of an expression, and the process after its assignments so far. -/
structure State : Type where
  rest : Octets
  process : Process

/-- Reads from the front of an expression. -/
abbrev Reader : Type → Type :=
  StateT State (Except Fault)

/-- What is left to read. -/
def peek : Reader Octets := do
  pure (← get).rest

/-- Goes on from somewhere. -/
def goTo (rest : Octets) : Reader Unit :=
  modify fun s => { s with rest }

/-- Passes over blanks. -/
def blanks : Reader Unit :=
  modify fun s => { s with rest := s.rest.dropWhile Char.isWhitespace }

/-- Takes a symbol if it comes next. -/
def accept (symbol : String) : Reader Bool := do
  blanks
  let cs ← peek
  if symbol.toList.isPrefixOf cs then
    goTo (cs.drop symbol.length)
    pure true
  else pure false

/-- The number that a variable holds. -/
def valueOf (name : Octets) : Reader Int := do
  numberIn (((← get).process.valueOf? name).getD [])

/-- Gives a variable a value. -/
def assign (name : Octets) (value : Int) : Reader Int := do
  let s ← get
  if s.process.isFixed name then throw (.fixed name)
  set
    { s with process := s.process.setVariable name (render value) (s.process.isOn 'a') }
  pure value

/-- The name that an assignment starts with, its operator, and what follows it, if an assignment
comes next. -/
def assignment? (cs : Octets) : Option (Octets × Option Operator × Octets) :=
  let name := cs.takeWhile isNameRest
  let after := (cs.drop name.length).dropWhile Char.isWhitespace
  if !isName name then none
  else
    match assignments.find? fun (symbol, _) => symbol.toList.isPrefixOf after with
    | some (symbol, op) => some (name, some op, after.drop symbol.length)
    | none =>
      match after with
      | '=' :: '=' :: _ => none
      | '=' :: rest => some (name, none, rest)
      | _ => none

mutual

/-- An expression, assignments and choices included; `idle` says that it does not count. -/
def expression (idle : Bool) : Nat → Reader Int
  | 0 => throw (.expecting "primary")
  | n + 1 => do
    blanks
    match assignment? (← peek) with
    | some (name, op, rest) =>
      goTo rest
      let value ← expression idle n
      if idle then pure value
      else
        match op with
        | some op => do assign name (← op.apply (← valueOf name) value)
        | none => assign name value
    | none => choice idle n

/-- A choice between two expressions, or an expression without assignments. -/
def choice (idle : Bool) : Nat → Reader Int
  | 0 => throw (.expecting "primary")
  | n + 1 => do
    let test ← disjunction idle n
    if ← accept "?" then
      let yes ← expression (idle || test = 0) n
      unless ← accept ":" do throw (.expecting "':'")
      let no ← choice (idle || test ≠ 0) n
      pure (if test ≠ 0 then yes else no)
    else pure test

/-- Operands between `||`. -/
def disjunction (idle : Bool) : Nat → Reader Int
  | 0 => throw (.expecting "primary")
  | n + 1 => do
    let left ← conjunction idle n
    if ← accept "||" then
      let right ← disjunction (idle || left ≠ 0) n
      pure (truth (left ≠ 0 || right ≠ 0))
    else pure left

/-- Operands between `&&`. -/
def conjunction (idle : Bool) : Nat → Reader Int
  | 0 => throw (.expecting "primary")
  | n + 1 => do
    let left ← binary idle n levels
    if ← accept "&&" then
      let right ← conjunction (idle || left = 0) n
      pure (truth (left ≠ 0 && right ≠ 0))
    else pure left

/-- Operands between the operators of some levels. -/
def binary (idle : Bool) : Nat → List (List (String × Operator)) → Reader Int
  | 0, _ => throw (.expecting "primary")
  | n + 1, [] => unary idle n
  | n + 1, level :: tighter => do
    let left ← binary idle n tighter
    more idle n level tighter left

/-- More operands of a level. -/
def more (idle : Bool) : Nat → List (String × Operator) → List (List (String × Operator)) →
    Int → Reader Int
  | 0, _, _, _ => throw (.expecting "primary")
  | n + 1, level, tighter, left => do
    blanks
    let cs ← peek
    match operator? level cs with
    | some (length, op) =>
      goTo (cs.drop length)
      let right ← binary idle n tighter
      let value ← if idle then pure right else op.apply left right
      more idle n level tighter value
    | none => pure left

/-- An operand with its signs. -/
def unary (idle : Bool) : Nat → Reader Int
  | 0 => throw (.expecting "primary")
  | n + 1 => do
    blanks
    match ← peek with
    | '-' :: rest =>
      goTo rest
      pure (wrap (-(← unary idle n)))
    | '+' :: rest =>
      goTo rest
      unary idle n
    | '~' :: rest =>
      goTo rest
      pure (-(← unary idle n) - 1)
    | '!' :: rest =>
      goTo rest
      pure (truth ((← unary idle n) = 0))
    | '(' :: rest =>
      goTo rest
      let inner ← expression idle n
      unless ← accept ")" do throw (.expecting "')'")
      pure inner
    | [] => throw (.expecting "primary")
    | c :: cs =>
      if c.isDigit then
        let (value, rest) := leadingNumber (c :: cs)
        goTo rest
        pure (min (value : Int) greatest)
      else if isNameStart c then
        let name := (c :: cs).takeWhile isNameRest
        goTo ((c :: cs).drop name.length)
        if idle then pure 0 else valueOf name
      else throw (.expecting "primary")

end

/-- The value of an expression, and the process after its assignments. -/
def evaluate (text : Octets) (p : Process) : Except Fault (Int × Process) := do
  let (value, s) ← (expression false (16 * text.length + 32)).run { rest := text, process := p }
  if s.rest.all Char.isWhitespace then pure (value, s.process) else throw (.expecting "EOF")

/-- What is said about an expression without a value. -/
def message (text : Octets) : Fault → Octets
  | .expecting what => about ("expecting " ++ what)
  | .divisionByZero | .overflow => about "division by zero"
  | .notNumber held => "Illegal number: ".toList ++ held
  | .fixed name => name ++ ": is read only".toList
where
  /-- A message with the expression in it. -/
  about (message : String) : Octets :=
    ("arithmetic expression: " ++ message ++ ": \"").toList ++ text ++ ['"']

end Fleet.Shell.Arithmetic.Plain
