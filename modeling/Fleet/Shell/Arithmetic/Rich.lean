import Fleet.Shell.Arithmetic.Plain
import Fleet.Shell.Arrays
import Fleet.Shell.Parameters
import Fleet.Shell.Parser.Basic

/-!
# Arithmetic in the rich shell

Besides what the plain shell knows there are powers, steps up and down, sequences, numbers of any
base and elements of arrays, and the value of a variable is an expression itself. An expression is
worked out as it is read.
-/

namespace Fleet.Shell.Arithmetic.Rich

/-- Why an expression has no value. -/
inductive Fault : Type where
  /-- What is wrong, and the expression from where that was noticed. -/
  | wrong (what : String) (place : Octets)
  /-- A variable can no longer be changed. -/
  | fixed (name : Octets)
  /-- A variable that has no value should have one. -/
  | unset (name : Octets)
  /-- There is no such element of an array. -/
  | subscript (name : Octets)
  deriving Repr, DecidableEq

/-- What is left of an expression, where its last token starts, and the process after its
assignments so far. -/
structure State : Type where
  rest : Octets
  last : Octets := []
  process : Process
  /-- How deep the expression lies within the values of variables. -/
  depth : Nat := 0

/-- Reads from the front of an expression. -/
abbrev Reader : Type → Type :=
  StateT State (Except Fault)

/-- What is left to read behind blanks. -/
def peek : Reader Octets := do
  modify fun s => { s with rest := s.rest.dropWhile Char.isWhitespace }
  pure (← get).rest

/-- Passes over a token. -/
def take (length : Nat) : Reader Unit :=
  modify fun s => { s with rest := s.rest.drop length, last := s.rest }

/-- Gives up because of the last token, or of what comes next. -/
def refuse {α : Type} (what : String) (next : Bool := false) : Reader α := do
  let rest ← peek
  let last := (← get).last
  throw (.wrong what (if next && !rest.isEmpty then rest else last))

/-- Gives up for lack of an operand. -/
def noOperand {α : Type} : Reader α :=
  refuse "syntax error: operand expected" true

/-- Takes a symbol if it comes next. -/
def accept (symbol : String) : Reader Bool := do
  if symbol.toList.isPrefixOf (← peek) then
    take symbol.length
    pure true
  else pure false

/-- The value of a digit in a base: letters count from ten, and in a large base capital letters
after the small ones. -/
def digit? (base : Nat) (c : Char) : Option Nat :=
  let value : Nat :=
    if c.isDigit then c.toNat - '0'.toNat
    else if c.isLower then c.toNat - 'a'.toNat + 10
    else if c.isUpper then c.toNat - 'A'.toNat + if base ≤ 36 then 10 else 36
    else if c = '@' then 62
    else 63
  if value < base then some value else none

/-- A character of a number that started with a digit. -/
def isNumeral (c : Char) : Bool :=
  c.isAlphanum || c == '@' || c == '_' || c == '#'

/-- The number that a text stands for, or what is wrong with it. -/
def numeral (text : Octets) : Except String Int :=
  let read (base : Nat) (digits : Octets) : Except String Int :=
    match digits.mapM (digit? base) with
    | some values => .ok (wrap (values.foldl (fun n d => n * base + d) 0 : Nat))
    | none =>
      .error (if digits.contains '#' then "invalid number" else "value too great for base")
  let base := text.takeWhile (· ≠ '#')
  if base.length < text.length then
    match read 10 base with
    | .ok n =>
      if n < 2 || 64 < n then .error "invalid arithmetic base"
      else if text.length = base.length + 1 then .error "invalid integer constant"
      else read n.toNat (text.drop (base.length + 1))
    | .error e => .error e
  else
    match text with
    | '0' :: 'x' :: digits | '0' :: 'X' :: digits => read 16 digits
    | '0' :: digits => read 8 digits
    | digits => read 10 digits

/-- A power, which wraps around. -/
def power (a : Int) (b : Nat) : Int :=
  let rec go : Nat → Int → Nat → Int → Int
    | 0, _, _, result => result
    | fuel + 1, a, b, result =>
      if b = 0 then result
      else go fuel (wrap (a * a)) (b / 2) (if b % 2 = 1 then wrap (result * a) else result)
  go 64 a b 1

/-- The value of an operator; the least number divided by minus one stays what it is. -/
def apply (op : Operator) (a b : Int) : Reader Int :=
  let b := if b = -1 && a = least && (op = .divide || op = .remainder) then 1 else b
  match op.apply a b with
  | .ok value => pure value
  | .error _ => refuse "division by 0"

/-- A variable or an element of an array. -/
structure Place : Type where
  name : Octets
  key : Option Key
  deriving Repr

/-- The text that a place holds. -/
def textAt (place : Place) : Reader Octets := do
  let p := (← get).process
  let found := match place.key with
    | some key => (p.tableOf? place.name).bind (·.get? key)
    | none => parameter? p place.name
  match found with
  | some text => pure text
  | none => if p.isOn 'u' then throw (.unset place.name) else pure []

/-- Gives a place a value. -/
def assign (place : Place) (value : Int) : Reader Int := do
  let s ← get
  let (name, _) := s.process.resolved place.name
  if s.process.isFixed name then throw (.fixed name)
  let text := render value
  set { s with process := match place.key with
    | some key => s.process.putElement name key text
    | none => s.process.putValue name text (s.process.isOn 'a') }
  pure value

/-- The name, and the text of a subscript, that come next, and their length. -/
def placeAhead? (cs : Octets) : Option (Octets × Option Octets × Nat) :=
  let name := cs.takeWhile isNameRest
  if !isName name then none
  else
    match cs.drop name.length with
    | '[' :: inner =>
      match Shell.Reader.afterSubscript? 0 none inner with
      | some after =>
        some (name, some (inner.take (inner.length - after.length - 1)), cs.length - after.length)
      | none => some (name, none, name.length)
    | _ => some (name, none, name.length)

/-- The operator of an assignment that comes next, and its length. -/
def assignmentAhead? (cs : Octets) : Option (Option Operator × Nat) :=
  match cs, assignments.find? fun (symbol, _) => symbol.toList.isPrefixOf cs with
  | _, some (symbol, op) => some (some op, symbol.length)
  | '=' :: '=' :: _, none => none
  | '=' :: _, none => some (none, 1)
  | _, none => none

/-- How deep the values of variables may lie within each other. -/
def depthLimit : Nat :=
  1024

mutual

/-- Expressions between commas, of which the last one counts. -/
def sequence (idle : Bool) : Nat → Reader Int
  | 0 => refuse "expression recursion level exceeded"
  | n + 1 => do
    let value ← expression idle n
    if ← accept "," then sequence idle n else pure value

/-- An expression, assignments and choices included; `idle` says that it does not count. -/
def expression (idle : Bool) : Nat → Reader Int
  | 0 => refuse "expression recursion level exceeded"
  | n + 1 => do
    let cs ← peek
    let found := do
      let (name, subscript, length) ← placeAhead? cs
      let after := (cs.drop length).dropWhile Char.isWhitespace
      let (op, sign) ← assignmentAhead? after
      pure (name, subscript, op, after.drop sign)
    match found with
    | none =>
      let value ← choice idle n
      let cs ← peek
      if (assignmentAhead? cs).isSome then
        refuse "attempted assignment to non-variable" true
      pure value
    | some (name, subscript, op, rest) =>
      modify fun s => { s with rest, last := s.rest }
      let place ← located idle name subscript n
      let old ← match op with
        | some _ => valueAt idle place n
        | none => pure 0
      let value ← expression idle n
      if idle then pure value
      else
        match op with
        | some op => do assign place (← apply op old value)
        | none => assign place value

/-- A choice between two expressions, or an expression without assignments. -/
def choice (idle : Bool) : Nat → Reader Int
  | 0 => refuse "expression recursion level exceeded"
  | n + 1 => do
    let test ← disjunction idle n
    if ← accept "?" then
      let yes ← sequence (idle || test = 0) n
      if !(← accept ":") then refuse "`:' expected for conditional expression"
      let no ← expression (idle || test ≠ 0) n
      pure (if test ≠ 0 then yes else no)
    else pure test

/-- Operands between `||`. -/
def disjunction (idle : Bool) : Nat → Reader Int
  | 0 => refuse "expression recursion level exceeded"
  | n + 1 => do
    let left ← conjunction idle n
    if ← accept "||" then
      let right ← disjunction (idle || left ≠ 0) n
      pure (truth (left ≠ 0 || right ≠ 0))
    else pure left

/-- Operands between `&&`. -/
def conjunction (idle : Bool) : Nat → Reader Int
  | 0 => refuse "expression recursion level exceeded"
  | n + 1 => do
    let left ← binary idle n levels
    if ← accept "&&" then
      let right ← conjunction (idle || left = 0) n
      pure (truth (left ≠ 0 && right ≠ 0))
    else pure left

/-- Operands between the operators of some levels. -/
def binary (idle : Bool) : Nat → List (List (String × Operator)) → Reader Int
  | 0, _ => refuse "expression recursion level exceeded"
  | n + 1, [] => powers idle n
  | n + 1, level :: tighter => do
    let left ← binary idle n tighter
    more idle n level tighter left

/-- More operands of a level. -/
def more (idle : Bool) : Nat → List (String × Operator) →
    List (List (String × Operator)) → Int → Reader Int
  | 0, _, _, _ => refuse "expression recursion level exceeded"
  | n + 1, level, tighter, left => do
    match operator? level (← peek) with
    | some (length, op) =>
      take length
      let right ← binary idle n tighter
      let value ← if idle then pure right else apply op left right
      more idle n level tighter value
    | none => pure left

/-- A power of an operand. -/
def powers (idle : Bool) : Nat → Reader Int
  | 0 => refuse "expression recursion level exceeded"
  | n + 1 => do
    let base ← unary idle n
    let cs ← peek
    if "**".toList.isPrefixOf cs && (cs.drop 2).head? != some '=' then
      take 2
      let exponent ← powers idle n
      if exponent < 0 && !idle then refuse "exponent less than 0"
      pure (power base exponent.toNat)
    else pure base

/-- An operand with its signs. -/
def unary (idle : Bool) : Nat → Reader Int
  | 0 => refuse "expression recursion level exceeded"
  | n + 1 => do
    let cs ← peek
    let stepped (step : Int) : Reader (Option Int) := do
      let after := (cs.drop 2).dropWhile Char.isWhitespace
      match placeAhead? after with
      | none => pure none
      | some (name, subscript, length) =>
        modify fun s => { s with rest := after.drop length, last := after }
        let place ← located idle name subscript n
        let value := wrap ((← valueAt idle place n) + step)
        if idle then pure (some value) else do pure (some (← assign place value))
    let signed : Reader Int := do
      match cs with
      | '-' :: _ =>
        take 1
        pure (wrap (-(← unary idle n)))
      | '+' :: _ =>
        take 1
        unary idle n
      | _ => primary idle n
    match cs with
    | '+' :: '+' :: _ => do
      match ← stepped 1 with
      | some value => pure value
      | none => signed
    | '-' :: '-' :: _ => do
      match ← stepped (-1) with
      | some value => pure value
      | none => signed
    | '~' :: _ =>
      take 1
      pure (-(← unary idle n) - 1)
    | '!' :: _ =>
      take 1
      pure (truth ((← unary idle n) = 0))
    | _ => signed

/-- A number, a variable, an element of an array or an expression between parentheses. -/
def primary (idle : Bool) : Nat → Reader Int
  | 0 => refuse "expression recursion level exceeded"
  | n + 1 => do
    let cs ← peek
    match cs with
    | '(' :: _ =>
      take 1
      let inner ← sequence idle n
      if !(← accept ")") then refuse "missing `)'"
      pure inner
    | [] => noOperand
    | c :: _ =>
      if c.isDigit then
        let text := cs.takeWhile isNumeral
        take text.length
        match numeral text with
        | .ok value => pure value
        | .error what => refuse what
      else
        match placeAhead? cs with
        | none => noOperand
        | some (name, subscript, length) =>
          take length
          let place ← located idle name subscript n
          let value ← valueAt idle place n
          let after ← peek
          let step : Int :=
            if "++".toList.isPrefixOf after then 1
            else if "--".toList.isPrefixOf after then -1
            else 0
          if step ≠ 0 then
            take 2
            if !idle then
              let _ ← assign place (wrap (value + step))
          pure value

/-- The place that a name and the text of a subscript stand for. -/
def located (idle : Bool) (name : Octets) (subscript : Option Octets) :
    Nat → Reader Place
  | 0 => refuse "expression recursion level exceeded"
  | n + 1 => do
    let p := (← get).process
    let (target, inner) := p.resolved name
    match (subscript.or inner).filter fun _ => !idle with
    | none => pure { name := target, key := none }
    | some text =>
      if p.isKeyed target then pure { name := target, key := some (.text text) }
      else
        let number ← within false text n
        match (← get).process.keyAt? target number with
        | some key => pure { name := target, key := some key }
        | none => throw (.subscript target)

/-- The number that a place holds: its text is an expression. -/
def valueAt (idle : Bool) (place : Place) : Nat → Reader Int
  | 0 => refuse "expression recursion level exceeded"
  | n + 1 => do
    if idle then pure 0
    else
      let text ← textAt place
      if depthLimit ≤ (← get).depth then refuse "expression recursion level exceeded"
      else within true text n

/-- The value of an expression within another one. -/
def within (deeper : Bool) (text : Octets) : Nat → Reader Int
  | 0 => refuse "expression recursion level exceeded"
  | n + 1 => do
    let outer ← get
    if text.all Char.isWhitespace then pure 0
    else
      let depth := if deeper then outer.depth + 1 else outer.depth
      set { outer with rest := text, last := text, depth }
      let value ← sequence false n
      if !(← peek).isEmpty then refuse "syntax error in expression" true
      modify fun s => { s with rest := outer.rest, last := outer.last, depth := outer.depth }
      pure value

end

/-- The value of an expression, and the process after its assignments. -/
def evaluate (text : Octets) (p : Process) : Except Fault (Int × Process) := do
  let fuel := 24 * depthLimit + 24 * text.length
  let (value, s) ← (within false text fuel).run { rest := text, process := p }
  pure (value, s.process)

/-- What is said about an expression without a value. -/
def message (text : Octets) : Fault → Octets
  | .wrong what place =>
    text.dropWhile Char.isWhitespace ++ ": ".toList ++ what.toList ++
      " (error token is \"".toList ++
      place ++ "\")".toList
  | .fixed name => name ++ ": readonly variable".toList
  | .unset name => name ++ ": unbound variable".toList
  | .subscript name => name ++ ": bad array subscript".toList

end Fleet.Shell.Arithmetic.Rich
