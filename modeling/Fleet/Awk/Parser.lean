import Fleet.Awk.Tokens
import Fleet.Decimal.Shortest
import Fleet.Shell.Process

/-!
# Reading programs

The tokens of a program are read by descent. The operators bind, from the loosest on: assignments,
choices, `||`, `&&`, `in`, matches, comparisons, texts side by side, sums, products, signs, commands
that lines are read from, powers. Outside parentheses what is printed cannot contain `>` or `|`,
which say where it is printed. A function is known wherever it is called; that it is there is seen
at the end.
-/

namespace Fleet.Awk

/-- How far the reading is. -/
structure Reading : Type where
  rest : List Placed
  /-- How many parentheses and braces are open. -/
  parens : Nat := 0
  braces : Nat := 0
  /-- How many loops the statement is in. -/
  loops : Nat := 0
  /-- Whether the statement belongs to a function. -/
  inFunction : Bool := false
  /-- Whether the statement is part of a rule for records. -/
  forRecords : Bool := false
  /-- How many rules go from a record to another one. -/
  ranges : Nat := 0
  /-- The functions that are called, with the lines of the calls and the numbers of arguments. -/
  called : List (Octets × Nat × Nat) := []

/-- A part of the reading, which may fail with a message. -/
abbrev Reader : Type → Type :=
  ExceptT Octets (StateM Reading)

namespace Reader

/-- The next token and its line. -/
def next : Reader Placed := do
  pure ((← get).rest.headD ⟨.finish, 0⟩)

/-- The next token. -/
def peek : Reader Token := do
  pure (← next).token

/-- Takes the next token. -/
def advance : Reader Unit :=
  modify fun r => { r with rest := r.rest.tail }

/-- Fails with a message about a line. -/
def failAt {α : Type} (line : Nat) (message : String) : Reader α :=
  throw ("line ".toList ++ Shell.decimal line ++ ": ".toList ++ message.toList)

/-- A token as it is shown. -/
def shown : Token → String
  | .number x => Decimal.ofFloat x
  | .text octets => String.ofList octets
  | .regex _ => "/"
  | .name name | .called name => String.ofList name
  | .function f => ((functions.find? fun (_, g) => g == f).map Prod.fst).getD ""
  | .word word => word
  | .operator symbol => symbol
  | .lineEnd => "end of line"
  | .finish => "end of file"

/-- Fails because of the next token. -/
def unexpected {α : Type} : Reader α := do
  let r ← get
  let ⟨token, line⟩ ← next
  let ends := match token with
    | .finish | .lineEnd => true
    | token => token.isOperator ";" || token.isOperator "\x7d"
  let finishes := match token with
    | .finish => true
    | token => token.isWord "BEGIN" || token.isWord "END"
  if ends && r.parens ≠ 0 then failAt line ("missing ) near " ++ shown token)
  else if finishes && r.braces ≠ 0 then failAt line ("missing \x7d near " ++ shown token)
  else if token.isOperator "\x7d" && r.braces = 0 then failAt line "extra '\x7d'"
  else if token.isOperator ")" && r.parens = 0 then failAt line "extra ')'"
  else failAt line ("syntax error at or near " ++ shown token)

/-- Takes an operator if it comes next, and says whether it does. -/
def take (symbol : String) : Reader Bool := do
  if (← peek).isOperator symbol then
    advance
    pure true
  else pure false

/-- Takes an operator that has to come next. -/
def expect (symbol : String) : Reader Unit := do
  if !(← take symbol) then unexpected

/-- Takes a word if it comes next, and says whether it does. -/
def takeWord (word : String) : Reader Bool := do
  if (← peek).isWord word then
    advance
    pure true
  else pure false

/-- Takes an opening parenthesis that has to come next. -/
def openParen : Reader Unit := do
  expect "("
  modify fun r => { r with parens := r.parens + 1 }

/-- Takes a closing parenthesis that has to come next. -/
def closeParen : Reader Unit := do
  expect ")"
  modify fun r => { r with parens := r.parens - 1 }

/-- Takes the ends of lines that come next. -/
def skipLines : Reader Unit := do
  if (← peek) matches .lineEnd then advance

/-- A name that has to come next. -/
def name : Reader Octets := do
  match ← peek with
  | .name name => do
    advance
    pure name
  | _ => unexpected

/-- Whether a token starts a value that may stand behind another one. -/
def startsValue : Token → Bool
  | .number _ | .text _ | .regex _ | .name _ | .called _ | .function _ => true
  | .operator s => ["(", "$", "!", "++", "--"].contains s
  | .word w => w == "getline"
  | _ => false

/-- The operation of an assignment, if an operator assigns. -/
def assignment? : Token → Option (Option Operation)
  | .operator s =>
    let all : List (String × Option Operation) :=
      [("=", none), ("+=", some .add), ("-=", some .subtract), ("*=", some .multiply),
        ("/=", some .divide), ("%=", some .remainder), ("^=", some .power)]
    all.lookup s
  | _ => none

/-- The relation that an operator stands for. -/
def relation? (printing : Bool) : Token → Option Relation
  | .operator s =>
    let all : List (String × Relation) :=
      [("<", .less), ("<=", .atMost), ("==", .equal), ("!=", .unequal), (">=", .atLeast)]
    if s = ">" then (if printing then none else some .greater) else all.lookup s
  | _ => none

/-- How many arguments functions take, at least and at most. -/
def counts : Function → Nat × Nat
  | .rand | .systime => (0, 0)
  | .srand | .length | .fflush => (0, 1)
  | .mktime | .close | .cos | .exp | .int | .log | .sin | .sqrt | .system | .tolower | .toupper =>
    (1, 1)
  | .atan2 | .index | .locate => (2, 2)
  | .split | .substr | .sub | .gsub => (2, 3)
  | .strftime => (0, 3)
  | .sprintf => (1, 255)

/-- Whether a wrong number of arguments is seen at the token behind them. -/
def isSpecial : Function → Bool
  | .split | .sub | .gsub | .locate | .length => true
  | _ => false

mutual

/-- An expression. While `printing`, `>` and `|` end it. -/
def expression (printing : Bool) : Nat → Reader Expression
  | 0 => unexpected
  | n + 1 => do
    let condition ← disjunction printing n
    if ← take "?" then
      let first ← expression printing n
      expect ":"
      let second ← expression printing n
      pure (.choice condition first second)
    else pure condition

/-- Alternatives. -/
def disjunction (printing : Bool) : Nat → Reader Expression
  | 0 => unexpected
  | n + 1 => do moreDisjunction printing n (← conjunction printing n)

/-- Alternatives after the first one. -/
def moreDisjunction (printing : Bool) : Nat → Expression → Reader Expression
  | 0, _ => unexpected
  | n + 1, left => do
    if ← take "||" then moreDisjunction printing n (.either left (← conjunction printing n))
    else pure left

/-- Conditions that have to hold together. -/
def conjunction (printing : Bool) : Nat → Reader Expression
  | 0 => unexpected
  | n + 1 => do moreConjunction printing n (← membership printing n)

/-- Conditions after the first one. -/
def moreConjunction (printing : Bool) : Nat → Expression → Reader Expression
  | 0, _ => unexpected
  | n + 1, left => do
    if ← take "&&" then moreConjunction printing n (.both left (← membership printing n))
    else pure left

/-- Whether something is in a table. -/
def membership (printing : Bool) : Nat → Reader Expression
  | 0 => unexpected
  | n + 1 => do moreMembership n (← matching printing n)

/-- The tables in which something may be. -/
def moreMembership : Nat → Expression → Reader Expression
  | 0, _ => unexpected
  | n + 1, left => do
    if ← takeWord "in" then moreMembership n (.contains [left] (← name)) else pure left

/-- Matches. -/
def matching (printing : Bool) : Nat → Reader Expression
  | 0 => unexpected
  | n + 1 => do moreMatching printing n (← comparison printing n)

/-- What a text is matched with. -/
def moreMatching (printing : Bool) : Nat → Expression → Reader Expression
  | 0, _ => unexpected
  | n + 1, left => do
    if ← take "~" then moreMatching printing n (.matching true left (← comparison printing n))
    else if ← take "!~" then
      moreMatching printing n (.matching false left (← comparison printing n))
    else pure left

/-- Comparisons. -/
def comparison (printing : Bool) : Nat → Reader Expression
  | 0 => unexpected
  | n + 1 => do moreComparison printing n (← operand printing n)

/-- What something is compared with. -/
def moreComparison (printing : Bool) : Nat → Expression → Reader Expression
  | 0, _ => unexpected
  | n + 1, left => do
    match relation? printing (← peek) with
    | some relation => do
      advance
      moreComparison printing n (.compare relation left (← operand printing n))
    | none => pure left

/-- Texts side by side, or an assignment. -/
def operand (printing : Bool) : Nat → Reader Expression
  | 0 => unexpected
  | n + 1 => do
    let first ← addition printing n
    match first, assignment? (← peek) with
    | .value place, some operation => do
      advance
      pure (.assign place operation (← expression printing n))
    | _, _ => beside printing n first

/-- Texts beside the first one. -/
def beside (printing : Bool) : Nat → Expression → Reader Expression
  | 0, _ => unexpected
  | n + 1, left => do
    if startsValue (← peek) then beside printing n (.join left (← addition printing n))
    else pure left

/-- Sums. -/
def addition (printing : Bool) : Nat → Reader Expression
  | 0 => unexpected
  | n + 1 => do moreAddition printing n (← multiplication printing n)

/-- What is added. -/
def moreAddition (printing : Bool) : Nat → Expression → Reader Expression
  | 0, _ => unexpected
  | n + 1, left => do
    if ← take "+" then
      moreAddition printing n (.operate .add left (← multiplication printing n))
    else if ← take "-" then
      moreAddition printing n (.operate .subtract left (← multiplication printing n))
    else pure left

/-- Products. -/
def multiplication (printing : Bool) : Nat → Reader Expression
  | 0 => unexpected
  | n + 1 => do moreMultiplication printing n (← signed printing n)

/-- What something is multiplied with. -/
def moreMultiplication (printing : Bool) : Nat → Expression → Reader Expression
  | 0, _ => unexpected
  | n + 1, left => do
    let go (operation : Operation) : Reader Expression := do
      moreMultiplication printing n (.operate operation left (← signed printing n))
    if ← take "*" then go .multiply
    else if ← take "/" then go .divide
    else if ← take "%" then go .remainder
    else pure left

/-- A value with its signs. -/
def signed (printing : Bool) : Nat → Reader Expression
  | 0 => unexpected
  | n + 1 => do
    if ← take "!" then pure (.negation (← signed printing n))
    else if ← take "-" then pure (.minus (← signed printing n))
    else if ← take "+" then pure (.plus (← signed printing n))
    else piped printing n (← power printing n)

/-- Lines that are read from what a command prints. -/
def piped (printing : Bool) : Nat → Expression → Reader Expression
  | 0, _ => unexpected
  | n + 1, left => do
    if !printing && (← peek).isOperator "|" then
      advance
      if !(← takeWord "getline") then unexpected
      piped printing n (.read (.command left) (← place? n))
    else pure left

/-- Powers, which bind to the right. -/
def power (printing : Bool) : Nat → Reader Expression
  | 0 => unexpected
  | n + 1 => do
    let base ← stepped printing n
    if ← take "^" then
      let exponent ←
        if ← take "-" then do pure (Expression.minus (← power printing n))
        else if ← take "+" then do pure (Expression.plus (← power printing n))
        else if ← take "!" then do pure (Expression.negation (← power printing n))
        else power printing n
      pure (.operate .power base exponent)
    else pure base

/-- A value that may be stepped up or down. -/
def stepped (printing : Bool) : Nat → Reader Expression
  | 0 => unexpected
  | n + 1 => do
    let value ← primary printing n
    match value with
    | .value place =>
      if ← take "++" then pure (.step place true true)
      else if ← take "--" then pure (.step place false true)
      else pure value
    | _ => pure value

/-- A place that a line is read into, if one comes next. -/
def place? : Nat → Reader (Option Place)
  | 0 => unexpected
  | n + 1 => do
    let token ← peek
    let starts := match token with
      | .name _ => true
      | token => token.isOperator "$"
    if !starts then pure none
    else
      match ← primary false n with
      | .value place => pure (some place)
      | _ => unexpected

/-- Expressions with commas between them, at least one. -/
def expressions (printing : Bool) : Nat → Reader (List Expression)
  | 0 => unexpected
  | n + 1 => do
    let first ← expression printing n
    if ← take "," then pure (first :: (← expressions printing n)) else pure [first]

/-- The arguments after an opening parenthesis. -/
def arguments : Nat → Reader (List Expression)
  | 0 => unexpected
  | n + 1 => do
    if (← peek).isOperator ")" then
      closeParen
      pure []
    else
      let all ← expressions false n
      closeParen
      pure all

/-- A call of a function after its name, which stands in some line. -/
def calling (name : Octets) (line : Nat) : Nat → Reader Expression
  | 0 => unexpected
  | n + 1 => do
    openParen
    modify fun r => { r with called := (name, line, 0) :: r.called }
    let all ← arguments n
    modify fun r => { r with called := (name, line, all.length) :: r.called }
    pure (.call name all)

/-- The place that a name stands for, with an index if there is one. -/
def placeOf (name : Octets) : Nat → Reader Place
  | 0 => unexpected
  | n + 1 => do
    if ← take "[" then
      let indices ← expressions false n
      expect "]"
      pure (.element name indices)
    else pure (.named name)

/-- A value by itself. -/
def primary (printing : Bool) : Nat → Reader Expression
  | 0 => unexpected
  | n + 1 => do
    let ⟨token, line⟩ ← next
    let step (up : Bool) : Reader Expression := do
      advance
      match ← primary printing n with
      | .value place => pure (.step place up false)
      | _ => unexpected
    match token with
    | .number x => do
      advance
      pure (.number x)
    | .text octets => do
      advance
      pure (.text octets)
    | .regex r => do
      advance
      pure (.regex r)
    | .name name => do
      advance
      if (← get).called.any (·.1 == name) then calling name line n
      else pure (.value (← placeOf name n))
    | .called name => do
      advance
      calling name line n
    | .function f => do
      advance
      if f = .length && !(← peek).isOperator "(" then pure (.apply f [])
      else do
        openParen
        let all ← arguments n
        let (least, most) := counts f
        if all.length < least || most < all.length then
          if isSpecial f then failAt line "syntax error at or near )"
          else failAt line ("wrong number of arguments in call to " ++ shown token)
        pure (.apply f all)
    | .operator "(" => do
      openParen
      let all ← expressions false n
      closeParen
      match all with
      | [inner] =>
        match inner with
        | .value (.field index) => pure (.value (.field index))
        | .value place => pure (.plain place)
        | inner => pure inner
      | all => do
        if ← takeWord "in" then pure (.contains all (← name)) else unexpected
    | .operator "$" => do
      advance
      let index ←
        if ← take "-" then do pure (Expression.minus (← primary printing n))
        else primary printing n
      pure (.value (.field index))
    | .operator "++" => step true
    | .operator "--" => step false
    | .operator "-" | .operator "+" | .operator "!" => signed printing n
    | .word "getline" => do
      advance
      let place ← place? n
      if ← take "<" then pure (.read (.file (← stepped printing n)) place)
      else pure (.read .records place)
    | _ => unexpected

end

/-- Takes what ends a statement; a closing brace ends it as well. -/
def endStatement : Reader Unit := do
  match ← peek with
  | .lineEnd => advance
  | token =>
    if token.isOperator ";" then do
      advance
      skipLines
    else if !token.isOperator "\x7d" then unexpected

/-- Whether a token ends a statement, or says where something is printed. -/
def endsPrinting : Token → Bool
  | .lineEnd => true
  | .operator s => [";", "\x7d", ">", ">>", "|"].contains s
  | _ => false

/-- What is printed, and where. -/
def printed (fuel : Nat) : Reader (List Expression × Outlet) := do
  let before ← get
  let grouped : Reader (Option (List Expression)) := do
    if !(← peek).isOperator "(" then pure none
    else
      openParen
      let all ← arguments fuel
      pure (if endsPrinting (← peek) then some all else none)
  let values ←
    match ← tryCatch grouped fun _ => pure none with
    | some all => pure all
    | none => do
      set before
      if endsPrinting (← peek) then pure [] else expressions true fuel
  if ← take ">" then pure (values, .file false (← expression false fuel))
  else if ← take ">>" then pure (values, .file true (← expression false fuel))
  else if ← take "|" then pure (values, .command (← expression false fuel))
  else pure (values, .usual)

/-- Reads the body of a loop. -/
def asLoop {α : Type} (body : Reader α) : Reader α := do
  modify fun r => { r with loops := r.loops + 1 }
  let a ← body
  modify fun r => { r with loops := r.loops - 1 }
  pure a

mutual

/-- A statement. -/
def statement : Nat → Reader Statement
  | 0 => unexpected
  | n + 1 => do
    let ⟨token, line⟩ ← next
    let fuel := 20 * n
    let ended (s : Statement) : Reader Statement := do
      endStatement
      pure s
    let condition : Reader Expression := do
      openParen
      let e ← expression false fuel
      closeParen
      pure e
    let value? : Reader (Option Expression) := do
      match ← peek with
      | .lineEnd => pure none
      | token =>
        if token.isOperator ";" || token.isOperator "\x7d" then pure none
        else do pure (some (← expression false fuel))
    match token with
    | .lineEnd => do
      advance
      pure (.block [])
    | .operator ";" => do
      advance
      skipLines
      pure (.block [])
    | .operator "\x7b" => do pure (.block (← block n))
    | .word "print" => do
      advance
      let (values, outlet) ← printed fuel
      ended (.print values outlet)
    | .word "printf" => do
      advance
      let (values, outlet) ← printed fuel
      if values.isEmpty then failAt line "no arguments in call to printf"
      ended (.printFormatted values outlet)
    | .word "if" => do
      advance
      let condition ← condition
      skipLines
      let first ← statement n
      if ← takeWord "else" then
        pure (.branch condition first (some (← statement n)))
      else pure (.branch condition first none)
    | .word "while" => do
      advance
      let condition ← condition
      skipLines
      pure (.loop condition (← asLoop (statement n)))
    | .word "do" => do
      advance
      let body ← asLoop (statement n)
      if !(← takeWord "while") then unexpected
      let condition ← condition
      ended (.loopAfter body condition)
    | .word "for" => do
      advance
      openParen
      let before ← get
      let overTable : Reader (Option (Octets × Octets)) := do
        let own ← name
        if !(← takeWord "in") then pure none
        else
          let table ← name
          if ← take ")" then pure (some (own, table)) else pure none
      match ← tryCatch overTable fun _ => pure none with
      | some (own, table) => do
        modify fun r => { r with parens := r.parens - 1 }
        skipLines
        pure (.forEach own table (← asLoop (statement n)))
      | none => do
        set before
        let part (symbol : String) : Reader (Option Expression) := do
          if (← peek).isOperator symbol then pure none
          else do pure (some (← expression false fuel))
        let start ← part ";"
        expect ";"
        skipLines
        let condition ← part ";"
        expect ";"
        skipLines
        let step ← part ")"
        closeParen
        skipLines
        pure (.count start condition step (← asLoop (statement n)))
    | .word "delete" => do
      advance
      let table ← name
      if ← take "[" then
        let indices ← expressions false fuel
        expect "]"
        ended (.delete table (some indices))
      else ended (.delete table none)
    | .word "break" => do
      advance
      if (← get).loops = 0 then failAt line "break statement outside of loop"
      ended .breakOff
    | .word "continue" => do
      advance
      if (← get).loops = 0 then failAt line "continue statement outside of loop"
      ended .goOn
    | .word "next" => do
      advance
      if !(← get).forRecords then failAt line "improper use of next"
      ended .next
    | .word "nextfile" => do
      advance
      if !(← get).forRecords then failAt line "improper use of nextfile"
      ended .nextFile
    | .word "exit" => do
      advance
      let code ← value?
      ended (.exit code)
    | .word "return" => do
      advance
      if !(← get).inFunction then failAt line "return outside function body"
      let value ← value?
      ended (.giveBack value)
    | _ => do
      let e ← expression false fuel
      ended (.expression e)

/-- The statements between braces. -/
def block : Nat → Reader (List Statement)
  | 0 => unexpected
  | n + 1 => do
    expect "\x7b"
    modify fun r => { r with braces := r.braces + 1 }
    let all ← statements n
    expect "\x7d"
    modify fun r => { r with braces := r.braces - 1 }
    let _ ← take ";"
    skipLines
    pure all

/-- Statements up to a closing brace. -/
def statements : Nat → Reader (List Statement)
  | 0 => unexpected
  | n + 1 => do
    if (← peek).isOperator "\x7d" then pure []
    else
      let first ← statement n
      pure (first :: (← statements n))

end

/-- Reads the action of a rule for records. -/
def asRecords {α : Type} (body : Reader α) : Reader α := do
  modify fun r => { r with forRecords := true }
  let a ← body
  modify fun r => { r with forRecords := false }
  pure a

/-- The names of parameters up to the closing parenthesis. -/
def parameters : Nat → Reader (List Octets)
  | 0 => unexpected
  | n + 1 => do
    let line := (← next).line
    let first ← name
    if ← take "," then
      let rest ← parameters n
      if rest.contains first then
        failAt line (String.ofList first ++ " is duplicated in argument list")
      pure (first :: rest)
    else
      closeParen
      pure [first]

/-- A function after its keyword. -/
def definition (fuel : Nat) : Reader Definition := do
  let ⟨token, line⟩ ← next
  let own ← match token with
    | .called name | .name name => do
      advance
      pure name
    | _ => unexpected
  modify fun r => { r with called := (own, line, 0) :: r.called }
  openParen
  let names ←
    if (← peek).isOperator ")" then do
      closeParen
      pure []
    else parameters fuel
  skipLines
  modify fun r => { r with inFunction := true }
  let body ← block fuel
  modify fun r => { r with inFunction := false }
  pure { name := own, parameters := names, body }

/-- A rule. -/
def rule (fuel : Nat) : Reader Rule := do
  if ← takeWord "BEGIN" then pure { pattern := .start, action := some (← block fuel) }
  else if ← takeWord "END" then pure { pattern := .finish, action := some (← block fuel) }
  else if (← peek).isOperator "\x7b" then
    pure { pattern := .always, action := some (← asRecords (block fuel)) }
  else
    let first ← expression false (20 * fuel)
    let pattern ←
      if ← take "," then do
        let number := (← get).ranges
        modify fun r => { r with ranges := number + 1 }
        pure (Pattern.between number first (← expression false (20 * fuel)))
      else pure (Pattern.when first)
    if (← peek).isOperator "\x7b" then
      pure { pattern, action := some (← asRecords (block fuel)) }
    else do
      match ← peek with
      | .lineEnd => advance
      | _ => expect ";"
      skipLines
      pure { pattern, action := none }

/-- All rules and functions. -/
def script : Nat → Reader Script
  | 0 => unexpected
  | n + 1 => do
    match ← peek with
    | .finish => pure {}
    | .lineEnd => do
      advance
      script n
    | token =>
      if token.isWord "function" then
        advance
        let first ← definition n
        let rest ← script n
        pure { rest with definitions := first :: rest.definitions }
      else
        let first ← rule n
        let rest ← script n
        pure { rest with rules := first :: rest.rules }

end Reader

/-- The program that a text is, or what is wrong with it. -/
def parse (text : Octets) : Except Octets Script := do
  match tokensOf text with
  | .error (line, fault) => throw (fault.message line)
  | .ok tokens =>
    let (result, r) := (Reader.script (4 * tokens.length + 16)).run { rest := tokens }
    let script ← result
    let atLine (line : Nat) (message : Octets) : Octets :=
      ("line " ++ toString line ++ ": ").toList ++ message
    let calls := r.called.reverse
    let isUnknown (name : Octets) : Bool := !script.definitions.any (·.name == name)
    let isExcessive (name : Octets) (count : Nat) : Bool :=
      script.definitions.any fun d => d.name == name && d.parameters.length < count
    match calls.find? fun (name, _) => isUnknown name,
      calls.find? fun (name, _, count) => isExcessive name count with
    | some (name, _), _ =>
      let line := ((tokens.getLast?).map Placed.line).getD 1
      throw (atLine line ("function ".toList ++ name ++ " never defined".toList))
    | none, some (name, line, _) =>
      throw (atLine line ("too many arguments in call to ".toList ++ name))
    | none, none => pure script

end Fleet.Awk
