import Fleet.Tools.Quoting
import Fleet.Tools.Regex.Parser
import Fleet.Tools.Tool

/-!
# Expressions made of arguments

The tool `expr`: each argument is an operand, an operator or a parenthesis. A value is a text, which
is a number wherever it looks like one.
-/

namespace Fleet.Tools

open Shell

namespace Expressions

/-- Why an expression has no value. -/
inductive Fault : Type where
  /-- It is no expression, for a reason. -/
  | malformed (message : Octets)
  /-- It has no value, for a reason. -/
  | undefined (message : String)
  deriving Repr

/-- What is left of the arguments, and the one before them. -/
structure Input : Type where
  rest : List Octets
  before : Octets := []

/-- Reads from the front of the arguments. -/
abbrev Reader : Type → Type :=
  StateT Input (Except Fault)

/-- The number that a text looks like. -/
def integer? (text : Octets) : Option Int :=
  let digits := if text.head? == some '-' then text.tail else text
  if digits.isEmpty || !digits.all Char.isDigit then none
  else some (if digits.length < text.length then -(number digits : Int) else number digits)

/-- Whether a text is empty or zero. -/
def isNull (text : Octets) : Bool :=
  let digits := if text.head? == some '-' then text.tail else text
  text.isEmpty || (!digits.isEmpty && digits.all (· == '0'))

/-- The text of a number. -/
def ofInt (n : Int) : Octets :=
  (toString n).toList

/-- Takes an argument if it comes next. -/
def accept (text : String) : Reader Bool := do
  match (← get).rest with
  | next :: rest =>
    if next = text.toList then
      set { rest, before := next : Input }
      pure true
    else pure false
  | [] => pure false

/-- The one of some arguments that comes next, which is taken. -/
def acceptAny : List String → Reader (Option String)
  | [] => pure none
  | text :: rest => do
    if ← accept text then pure (some text) else acceptAny rest

/-- Takes the next argument, which has to be there. -/
def next : Reader Octets := do
  let i ← get
  match i.rest with
  | text :: rest =>
    set { rest, before := text : Input }
    pure text
  | [] => throw (.malformed ("missing argument after ".toList ++ Quoting.value i.before))

/-- What a regular expression matches at the start of a text: the first group, or how much. -/
def matching (text pattern : Octets) : Except Fault Octets := do
  let dialect : Regex.Dialect := { form := .basic }
  match Regex.parse dialect pattern with
  | .error e => throw (.undefined e.message)
  | .ok r =>
    let found := (Regex.matchesAt dialect r text.toArray 0).head?
    if Regex.groupCount r = 0 then pure (ofInt ((found.map fun (_, stop, _) => stop).getD 0))
    else
      pure ((found.bind fun (_, _, captures) =>
        (captures.lookup 1).map fun (start, stop) =>
          (text.take stop).drop start).getD [])

/-- The value of an operator between two numbers. -/
def calculate (op : String) (a b : Octets) : Except Fault Octets := do
  match integer? a, integer? b with
  | some a, some b =>
    match op with
    | "+" => pure (ofInt (a + b))
    | "-" => pure (ofInt (a - b))
    | "*" => pure (ofInt (a * b))
    | _ =>
      if b = 0 then throw (.undefined "division by zero")
      pure (ofInt (if op = "/" then a.tdiv b else a.tmod b))
  | _, _ => throw (.undefined "non-integer argument")

/-- One or zero: whether two texts, or two numbers, stand in a relation. -/
def compare (op : String) (a b : Octets) : Octets :=
  let order : Ordering :=
    match integer? a, integer? b with
    | some a, some b => if a < b then .lt else if a = b then .eq else .gt
    | _, _ => if a < b then .lt else if a = b then .eq else .gt
  let holds : Bool := match op with
    | "<" => order == .lt
    | "<=" => order != .gt
    | "=" | "==" => order == .eq
    | "!=" => order != .eq
    | ">=" => order != .lt
    | _ => order == .gt
  if holds then ['1'] else ['0']

/-- A piece of a text, from a place on, counted from one. -/
def piece (text start length : Octets) : Octets :=
  match integer? start, integer? length with
  | some start, some length =>
    if start ≤ 0 || length ≤ 0 then []
    else (text.drop (start.toNat - 1)).take length.toNat
  | _, _ => []

mutual

/-- An alternative: the first of two values that is not null. `counts` says whether it is worked
out. -/
def either (counts : Bool) : Nat → Reader Octets
  | 0 => throw (.undefined "too deep")
  | n + 1 => do moreEither counts n (← both counts n)

/-- The further values of an alternative. -/
def moreEither (counts : Bool) : Nat → Octets → Reader Octets
  | 0, _ => throw (.undefined "too deep")
  | n + 1, left => do
    if ← accept "|" then
      let right ← both (counts && isNull left) n
      moreEither counts n
        (if !isNull left then left else if isNull right then ['0'] else right)
    else pure left

/-- The first of two values, if neither is null. -/
def both (counts : Bool) : Nat → Reader Octets
  | 0 => throw (.undefined "too deep")
  | n + 1 => do moreBoth counts n (← relation counts n)

/-- The further values that must not be null. -/
def moreBoth (counts : Bool) : Nat → Octets → Reader Octets
  | 0, _ => throw (.undefined "too deep")
  | n + 1, left => do
    if ← accept "&" then
      let right ← relation (counts && !isNull left) n
      moreBoth counts n (if isNull left || isNull right then ['0'] else left)
    else pure left

/-- Values between relations. -/
def relation (counts : Bool) : Nat → Reader Octets
  | 0 => throw (.undefined "too deep")
  | n + 1 => do moreRelation counts n (← sum counts n)

/-- Further values between relations. -/
def moreRelation (counts : Bool) : Nat → Octets → Reader Octets
  | 0, _ => throw (.undefined "too deep")
  | n + 1, left => do
    match ← acceptAny ["<", "<=", "=", "==", "!=", ">=", ">"] with
    | some op =>
      let right ← sum counts n
      moreRelation counts n (if counts then compare op left right else ['0'])
    | none => pure left

/-- Values that are added. -/
def sum (counts : Bool) : Nat → Reader Octets
  | 0 => throw (.undefined "too deep")
  | n + 1 => do moreSum counts n (← product counts n)

/-- Further values that are added. -/
def moreSum (counts : Bool) : Nat → Octets → Reader Octets
  | 0, _ => throw (.undefined "too deep")
  | n + 1, left => do
    match ← acceptAny ["+", "-"] with
    | some op =>
      let right ← product counts n
      let value ← if counts then calculate op left right else pure left
      moreSum counts n value
    | none => pure left

/-- Values that are multiplied. -/
def product (counts : Bool) : Nat → Reader Octets
  | 0 => throw (.undefined "too deep")
  | n + 1 => do moreProduct counts n (← comparison counts n)

/-- Further values that are multiplied. -/
def moreProduct (counts : Bool) : Nat → Octets → Reader Octets
  | 0, _ => throw (.undefined "too deep")
  | n + 1, left => do
    match ← acceptAny ["*", "/", "%"] with
    | some op =>
      let right ← comparison counts n
      let value ← if counts then calculate op left right else pure left
      moreProduct counts n value
    | none => pure left

/-- Texts that are matched. -/
def comparison (counts : Bool) : Nat → Reader Octets
  | 0 => throw (.undefined "too deep")
  | n + 1 => do moreComparison counts n (← single counts n)

/-- Further texts that are matched. -/
def moreComparison (counts : Bool) : Nat → Octets → Reader Octets
  | 0, _ => throw (.undefined "too deep")
  | n + 1, left => do
    if ← accept ":" then
      let right ← single counts n
      let value ← if counts then matching left right else pure left
      moreComparison counts n value
    else pure left

/-- A single operand, or a word that makes something of operands. -/
def single (counts : Bool) : Nat → Reader Octets
  | 0 => throw (.undefined "too deep")
  | n + 1 => do
    match ← acceptAny ["+", "length", "match", "index", "substr", "(", ")"] with
    | some "+" => next
    | some "length" => pure (ofInt (← single counts n).length)
    | some "match" =>
      let text ← single counts n
      let pattern ← single counts n
      if counts then matching text pattern else pure text
    | some "index" =>
      let text ← single counts n
      let wanted ← single counts n
      let before := text.takeWhile (!wanted.contains ·)
      pure (ofInt (if before.length < text.length then before.length + 1 else 0))
    | some "substr" =>
      let text ← single counts n
      let start ← single counts n
      let length ← single counts n
      pure (piece text start length)
    | some "(" =>
      let value ← either counts n
      let i ← get
      match i.rest with
      | [] => throw (.malformed ("expecting ')' after ".toList ++ Quoting.value i.before))
      | other :: _ =>
        if ← accept ")" then pure value
        else throw (.malformed ("expecting ')' instead of ".toList ++ Quoting.value other))
    | some _ => throw (.malformed "unexpected ')'".toList)
    | none => next

end

/-- The value of an expression. -/
def value (arguments : List Octets) : Except Fault Octets := do
  let (result, i) ← (either true (16 * arguments.length + 32)).run { rest := arguments }
  match i.rest with
  | [] => pure result
  | extra :: _ => throw (.malformed ("unexpected argument ".toList ++ Quoting.value extra))

end Expressions

/-- Prints the value of an expression; its code says whether that is null. -/
def expr : Tool := fun arguments => do
  let arguments := if arguments.head? == some "--".toList then arguments.tail else arguments
  if arguments.isEmpty then
    misuse "missing operand".toList
    pure 2
  else
    match Expressions.value arguments with
    | .ok result => do
      say (result ++ ['\n'])
      pure (if Expressions.isNull result then 1 else 0)
    | .error (.malformed message) => do
      fault ("syntax error: ".toList ++ message)
      pure 2
    | .error (.undefined message) => do
      fault message.toList
      pure 2

end Fleet.Tools
