import Fleet.Shell.Builtins.Rich.Leaving
import Fleet.Shell.Surroundings
import Fleet.Tools.Condition
import Fleet.Tools.Regex.Parser

/-!
# Conditions of the rich shell

Conditions stand between double brackets, where they are read with the script, or they are the
arguments of a builtin. The number of arguments says how they are read; more than four are read as
an expression.
-/

namespace Fleet.Shell.Conditions

/-- The tests of one operand that are operators among arguments. -/
def isUnary (argument : Octets) : Bool :=
  match argument with
  | ['-', c] => "abcdefghknoprstuvwxzGLNORS".toList.contains c
  | _ => false

/-- The tests of two operands that are operators among arguments. -/
def isBinary (argument : Octets) : Bool :=
  ["=", "==", "!=", "<", ">", "=~", "!~", "-eq", "-ne", "-lt", "-le", "-gt", "-ge", "-nt", "-ot",
    "-ef"].contains (String.ofList argument)

/-- Whether a variable, an element of an array or an argument of the script is there. -/
def isSet (text : Octets) : Exec Bool := do
  let d := Declaring.parts text
  let p ← get
  match natural? text with
  | some n => pure (n ≤ p.arguments.length)
  | none =>
    if !isName d.name then pure false
    else
      let target := (p.resolved d.name).1
      match d.subscript, p.tableOf? target with
      | none, _ => do
        let held ← Expansion.Rich.held (.named d.name)
        pure (!held.isMissing false)
      | some _, none => pure false
      | some ['@'], some table | some ['*'], some table => pure !table.all.isEmpty
      | some subscript, some _ => do
        match ← keyFor? target subscript with
        | some key => do pure (((← get).tableOf? target).bind (·.get? key)).isSome
        | none => pure false

/-- Whether a test of one operand holds. -/
def unaryHolds (op operand : Octets) : Exec Bool := do
  let p ← get
  match String.ofList op with
  | "-v" => isSet operand
  | "-o" =>
    let name := String.ofList operand
    pure ((richOptions.lookup name).any (p.isOnNamed name))
  | "-R" => pure ((p.declared? operand).any fun v => v.reference && v.value.isSome)
  | "-a" => pure ((Tools.holdsOf? p "-e" operand).getD false)
  | name => pure ((Tools.holdsOf? p name operand).getD false)

/-- Whether a file is there. -/
def isThere (p : Process) (path : Octets) : Bool :=
  (p.tree.entryAt p.here? path.toText).isOk

/-- How two numbers are compared, if an operator does that. -/
def comparison? : String → Option (Int → Int → Bool)
  | "-eq" => some (· == ·)
  | "-ne" => some (· != ·)
  | "-lt" => some (· < ·)
  | "-le" => some (· ≤ ·)
  | "-gt" => some (· > ·)
  | "-ge" => some (· ≥ ·)
  | _ => none

/-- Whether a test of two texts or two files holds. Files have no times; one that is there is newer
than one that is not. -/
def binaryHolds (op : String) (a b : Octets) : StateM Process Bool := do
  let p ← get
  pure (match op with
    | "=" | "==" => a == b
    | "!=" => a != b
    | "<" => decide (a < b)
    | ">" => decide (b < a)
    | "-nt" => isThere p a && !isThere p b
    | "-ot" => !isThere p a && isThere p b
    | "-ef" => isThere p a && isThere p b && p.tree.areSame p.here? a.toText b.toText
    | _ => false)

/-! ## Between double brackets -/

/-- A regular expression in which what is quoted stands for itself. -/
def expressionOf (cells : List PatternOctet) : Octets :=
  (cells.map fun (c, quoted) =>
    if quoted && !c.isAlphanum && c.toNat < 128 && c ≠ '\n' then ['\\', c] else [c]).flatten

/-- Matches a text with a regular expression and keeps what its groups have matched; says whether it
matches. -/
def matchExpression (text : Octets) (cells : List PatternOctet) : Exec Bool := do
  let p ← get
  let dialect : Tools.Regex.Dialect :=
    { form := .extended, strict := true, ignoreCase := p.extras.contains "nocasematch" }
  let kept (values : List Octets) : Exec Unit :=
    modify (·.putTable "BASH_REMATCH".toList values)
  match Tools.Regex.parse dialect (expressionOf cells) with
  | .error _ => do
    setStatus 2
    throw .failed
  | .ok r =>
    let octets := text.toArray
    match r.find? dialect octets 0 with
    | none => do
      kept []
      pure false
    | some (_, _, captures) => do
      let group (n : Nat) : Octets :=
        match captures.lookup n with
        | some (start, stop) => (text.drop start).take (stop - start)
        | none => []
      kept ((List.range (r.groupCount + 1)).map group)
      pure true

/-- Whether a condition between double brackets holds, given what expands its words. -/
def holds (expand : Expander) : Nat → Condition → Exec Bool
  | 0, _ => pure false
  | _, .word word => do pure !(Cell.octets (← expand { homes := .start } word)).isEmpty
  | _, .unary op word => do
    unaryHolds op (Cell.octets (← expand { homes := .start } word))
  | _, .binary op left right => do
    let name := String.ofList op
    let text := Cell.octets (← expand { homes := .start } left)
    let cells ← expand { homes := .start } right
    match comparison? name with
    | some test => do
      let a ← computed text
      pure (test a (← computed (Cell.octets cells)))
    | none =>
      let p ← get
      if name = "=~" then matchExpression text (Cell.pattern cells)
      else if name = "=" || name = "==" || name = "!=" then
        let style := { p.patternStyle with groups := true }
        let pattern := p.comparing (Pattern.ofOctets (Cell.pattern cells) style)
        pure (pattern.covers text == (name != "!="))
      else (binaryHolds name text (Cell.octets cells) : StateM Process Bool)
  | n + 1, .negation condition => do pure !(← holds expand n condition)
  | n + 1, .both left right => do
    if ← holds expand n left then holds expand n right else pure false
  | n + 1, .either left right => do
    if ← holds expand n left then pure true else holds expand n right

/-- Sets the code by whether a condition holds; a mistake in it is no more than a failure. -/
def run (expand : Expander) (fuel : Nat) (condition : Condition) : Exec Unit :=
  naming "[[: ".toList do
    tryCatch (do setStatus (if ← holds expand fuel condition then 0 else 1)) fun
      | .discarded => setStatus 1
      | .failed => pure ()
      | jump => throw jump

/-! ## Among arguments -/

/-- What is wrong with arguments. -/
def mistake {α : Type} (message : Octets) : Exec α :=
  failWith 2 message

/-- The number that an argument is. -/
def numberIn (text : Octets) : Exec Int :=
  match Leaving.integer? text with
  | some n => pure n
  | none => mistake (text ++ ": integer expression expected".toList)

/-- Whether a test of two arguments holds. -/
def compared (op a b : Octets) : Exec Bool := do
  match comparison? (String.ofList op) with
  | some test => do
    let left ← numberIn a
    pure (test left (← numberIn b))
  | none =>
    if op = "=~".toList || op = "!~".toList then
      mistake (op ++ ": binary operator expected".toList)
    else (binaryHolds (String.ofList op) a b : StateM Process Bool)

/-- A test of one argument. -/
def tested (op operand : Octets) : Exec Bool :=
  if isUnary op then unaryHolds op operand
  else mistake (op ++ ": unary operator expected".toList)

/-- Whether two arguments hold. -/
def ofTwo (a b : Octets) : Exec Bool :=
  if a = ['!'] then pure b.isEmpty else tested a b

/-- Whether three arguments hold. -/
def ofThree (a b c : Octets) : Exec Bool := do
  if isBinary b then compared b a c
  else if b = "-a".toList then pure (!a.isEmpty && !c.isEmpty)
  else if b = "-o".toList then pure (!a.isEmpty || !c.isEmpty)
  else if a = ['!'] then do pure !(← ofTwo b c)
  else if a = ['('] && c = [')'] then pure !b.isEmpty
  else mistake (b ++ ": binary operator expected".toList)

mutual

/-- Whether one of several alternatives holds, and the arguments after them. -/
def alternatives (closing : Octets) : Nat → List Octets → Exec (Bool × List Octets)
  | 0, arguments => pure (false, arguments)
  | n + 1, arguments => do
    let (left, rest) ← conjuncts closing n arguments
    match rest with
    | ['-', 'o'] :: rest => do
      let (right, rest) ← alternatives closing n rest
      pure (left || right, rest)
    | rest => pure (left, rest)

/-- Whether all parts of an expression hold, and the arguments after it. -/
def conjuncts (closing : Octets) : Nat → List Octets → Exec (Bool × List Octets)
  | 0, arguments => pure (false, arguments)
  | n + 1, arguments => do
    let (left, rest) ← single closing n arguments
    match rest with
    | ['-', 'a'] :: rest => do
      let (right, rest) ← conjuncts closing n rest
      pure (left && right, rest)
    | rest => pure (left, rest)

/-- Whether a single test holds, and the arguments after it. -/
def single (closing : Octets) : Nat → List Octets → Exec (Bool × List Octets)
  | 0, arguments => pure (false, arguments)
  | n + 1, arguments => do
    match arguments with
    | [] => mistake "argument expected".toList
    | ['!'] :: rest => do
      let (value, rest) ← single closing n rest
      pure (!value, rest)
    | ['('] :: rest => do
      if rest.isEmpty then mistake "argument expected".toList
      let (value, rest) ← alternatives closing n rest
      match rest with
      | [')'] :: rest => pure (value, rest)
      | [] => mistake ("`)' expected".toList ++
          if closing.isEmpty then [] else ", found ".toList ++ closing)
      | other :: _ => mistake ("`)' expected, found ".toList ++ other)
    | a :: rest =>
      match rest with
      | b :: c :: after =>
        if isBinary b then do pure (← compared b a c, after)
        else if isUnary a then do pure (← unaryHolds a b, c :: after)
        else pure (!a.isEmpty, rest)
      | [b] => if isUnary a then do pure (← unaryHolds a b, []) else pure (!a.isEmpty, rest)
      | [] => pure (!a.isEmpty, [])

end

/-- Whether an expression of any number of arguments holds. -/
def ofMany (closing : Octets) (arguments : List Octets) : Exec Bool := do
  let (value, rest) ← alternatives closing (4 * arguments.length + 8) arguments
  match rest with
  | [] => pure value
  | ('-' :: c) :: _ => mistake ("syntax error: `-".toList ++ c ++ "' unexpected".toList)
  | _ => mistake "too many arguments".toList

/-- Whether arguments hold; `closing` is the bracket after them, if there is one. -/
def ofArguments (closing : Octets) (arguments : List Octets) : Exec Bool :=
  match arguments with
  | [] => pure false
  | [a] => pure !a.isEmpty
  | [a, b] => ofTwo a b
  | [a, b, c] => ofThree a b c
  | [a, b, c, d] =>
    if a = ['!'] then do pure !(← ofThree b c d)
    else if a = ['('] && d = [')'] then ofTwo b c
    else ofMany closing arguments
  | _ => ofMany closing arguments

/-- Sets the code by whether arguments hold. -/
def test (closing : Octets) (arguments : List Octets) : Exec Unit := do
  setStatus (if ← ofArguments closing arguments then 0 else 1)

/-- Sets the code by whether arguments hold that a bracket ends. -/
def bracket (arguments : List Octets) : Exec Unit :=
  if arguments.getLast? = some [']'] then test [']'] arguments.dropLast
  else mistake "missing `]'".toList

end Fleet.Shell.Conditions
