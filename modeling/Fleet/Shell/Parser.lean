import Fleet.Shell.Parser.Basic
import Fleet.Shell.Quoting

/-!
# Reading shell scripts

A script is read one complete command at a time, so that what comes before a mistake is run before
the mistake is noticed. Reading is by descent; the fuel bounds the nesting and the number of parts,
and the length of the script is enough for both.
-/

namespace Fleet.Shell

namespace Reader

/-- Octets that are not quoted, each a part of its own. -/
def bare (octets : Octets) : Word :=
  octets.map fun c => .text [c] false

/-- How much of the text that comes next stands in front of the elements of an array, if an array is
assigned there. -/
def arrayHead? (cs : Octets) : Option Nat := do
  let name := cs.takeWhile isNameRest
  let after := cs.drop name.length
  let after ← match after with
    | '[' :: inner => afterSubscript? 0 none inner
    | _ => some after
  let (_, length) ← assignmentSign? after
  if isName name && (after.drop length).head? == some '(' then
    some (cs.length - after.length + length)
  else none

/-- Whether a word starts with the next character although that would end one otherwise. -/
def startsChannel (cs : Octets) : Bool :=
  match cs with
  | '<' :: '(' :: _ | '>' :: '(' :: _ => true
  | _ => false

/-- Whether a compound command of the rich dialect comes next. -/
def startsCompound : Reader Bool := do
  let word ← reserved?
  pure ((← peek).head? == some '(' || word.any fun word =>
    ["\x7b", "[[", "if", "while", "until", "for", "case", "select"].contains word)

mutual

/-- The parts of a word in a setting. -/
def parts (setting : Setting) : Nat → Nat → Reader Word
  | 0, _ => tooDeep
  | n + 1, depth => do
    let rich ← isRich
    match ← peek with
    | [] =>
      let here ← line
      match setting with
      | .word | .document | .expression => pure []
      | .doubleQuoted => unclosed here "\"" "Unterminated quoted string"
      | .braces _ | .offset _ | .search => unclosed here "\x7d" "Missing '\x7d'"
      | .arithmetic | .group => unclosed here ")" "Missing '))'"
      | .bracketed | .subscript => unclosed here "]" "Missing ']'"
    | c :: rest =>
      if rich && setting = .word && startsChannel (c :: rest) then
        skip 2
        let body ← commands n
        expectOperator ")"
        pure (.channel (c == '<') body :: (← parts setting n depth))
      else if ends setting depth c rest then pure []
      else
        let here ← line
        let grouped := (← get).groups && !setting.quoted && "@?*+!".toList.contains c
        match c, rest with
        | '\\', '\n' :: _ =>
          skip 2
          parts setting n depth
        | '\\', d :: _ =>
          skip 2
          pure (escaped setting d :: (← parts setting n depth))
        | '$', '\'' :: text =>
          if rich && !setting.quoted then
            let inner := untilQuote text
            if text.length ≤ inner.length then
              unclosed here "'" "Unterminated quoted string"
            else
              skip (inner.length + 3)
              pure (.text (Quoting.unescaped inner) true :: (← parts setting n depth))
          else
            skip 1
            let part ← dollar setting n
            pure (part :: (← parts setting n depth))
        | '$', _ =>
          skip 1
          if rich && !setting.quoted && rest.head? == some '"' then parts setting n depth
          else
            let part ← dollar setting n
            pure (part :: (← parts setting n depth))
        | '`', _ =>
          match backquoted (setting == .doubleQuoted || setting == .braces true) rest with
          | none => failOn here "EOF in backquote substitution"
          | some (text, after) =>
            skip (rest.length + 1 - after.length)
            match (script n).run ((← get).within text here) with
            | .error e => throw e
            | .ok (commands, left) =>
              if !left.rest.isEmpty then failOn here "EOF in backquote substitution"
              pure (.output commands setting.quoted :: (← parts setting n depth))
        | '\'', _ =>
          if setting.quoted then
            skip 1
            pure (.text [c] true :: (← parts setting n depth))
          else
            skip 1
            let text ← singleQuoted
            pure (.text text true :: (← parts setting n depth))
        | '"', _ =>
          if setting.numeric && rich then
            skip 1
            parts setting n depth
          else if setting = .doubleQuoted ∨ setting = .arithmetic ∨ setting = .document then
            skip 1
            pure (.text [c] true :: (← parts setting n depth))
          else
            skip 1
            let inner ← parts .doubleQuoted n 0
            skip 1
            pure (quotes (← dialect) inner ++ (← parts setting n depth))
        | _, '(' :: _ =>
          if grouped then
            skip 2
            let inner ← parts .group n 0
            skip 1
            pure (bare [c, '('] ++ inner ++ bare [')'] ++ (← parts setting n depth))
          else
            skip 1
            pure (.text [c] setting.quoted :: (← parts setting n (deepened setting depth c)))
        | _, _ =>
          if rich && setting = .arithmetic && c = ')' && depth = 0 then unexpectedRich
          skip 1
          pure (.text [c] setting.quoted :: (← parts setting n (deepened setting depth c)))

/-- What a dollar sign, which has been passed over, stands for. -/
def dollar (setting : Setting) : Nat → Reader Part
  | 0 => tooDeep
  | n + 1 => do
    let quoted := setting.quoted
    let rich ← isRich
    joinLines
    match ← peek with
    | '(' :: '(' :: _ =>
      match ← if rich then attempt (expression n) else do pure (some (← expression n)) with
      | some expression => pure (.arithmetic expression quoted)
      | none =>
        skip 1
        let body ← commands n
        expectOperator ")"
        pure (.output body quoted)
    | '(' :: _ =>
      skip 1
      let body ← commands n
      expectOperator ")"
      pure (.output body quoted)
    | '\x7b' :: _ =>
      skip 1
      if rich then braced quoted n else bracedPlain quoted n
    | '[' :: _ =>
      if rich then
        skip 1
        let expression ← parts .bracketed n 0
        skip 1
        pure (.arithmetic expression quoted)
      else pure (.text ['$'] quoted)
    | c :: _ =>
      if isNameStart c then pure (.parameter (.named (← takeWhile isNameRest)) .value quoted)
      else if isSpecialParameter c then
        skip 1
        pure (.parameter (.named [c]) .value quoted)
      else pure (.text ['$'] quoted)
    | [] => pure (.text ['$'] quoted)

/-- An arithmetic expression between two parentheses on each side. -/
def expression : Nat → Reader Word
  | 0 => tooDeep
  | n + 1 => do
    skip 2
    let word ← parts .arithmetic n 0
    skip 2
    pure word

/-- A parameter of the plain dialect, the opening brace of which has been passed over. -/
def bracedPlain (quoted : Bool) : Nat → Reader Part
  | 0 => tooDeep
  | n + 1 => do
    match ← peek with
    | '#' :: '\x7d' :: _ =>
      skip 2
      pure (.parameter (.named ['#']) .value quoted)
    | cs =>
      let counted := cs.head? == some '#'
      if counted then skip 1
      let name ← parameterName
      match ← peek with
      | '\x7d' :: _ =>
        skip 1
        let use : Use := if name.isEmpty then .mistake [] else if counted then .length else .value
        pure (.parameter (.named name) use quoted)
      | rest =>
        let (length, make) : Nat × (Word → Use) :=
          match parameterUse? rest with
          | some (length, make) =>
            if name.isEmpty || counted then (0, fun _ => .mistake []) else (length, make)
          | none => (0, fun _ => .mistake [])
        -- A line end in place of an operator does not count.
        if rest.head? == some '\n' then modify fun i => { i with rest := i.rest.drop 1 }
        skip length
        -- A pattern is quoted by its own quotes only.
        let patterned := rest.head? == some '%' || rest.head? == some '#'
        let word ← parts (.braces (quoted && !patterned)) n 0
        skip 1
        pure (.parameter (.named name) (make word) quoted)

/-- A parameter of the rich dialect, the opening brace of which has been passed over. -/
def braced (quoted : Bool) : Nat → Reader Part
  | 0 => tooDeep
  | n + 1 => do
    let start ← peek
    match start with
    | '#' :: '\x7d' :: _ =>
      skip 2
      pure (.parameter (.named ['#']) .value quoted)
    | '!' :: '\x7d' :: _ =>
      skip 2
      pure (.parameter (.named ['!']) .value quoted)
    | '#' :: _ =>
      skip 1
      let counted : Reader Subject := do
        let subject ← subject n
        if (← peek).head? ≠ some '\x7d' then unexpectedRich
        skip 1
        pure subject
      match ← attempt counted with
      | some subject => pure (.parameter subject .length quoted)
      | none => use start (.named ['#']) quoted n
    | '!' :: _ =>
      skip 1
      let subject ← subject n
      match subject, ← peek with
      | .named name, '*' :: '\x7d' :: _ =>
        skip 2
        pure (.parameter (.named name) (.names true) quoted)
      | .named name, '@' :: '\x7d' :: _ =>
        skip 2
        pure (.parameter (.named name) (.names false) quoted)
      | .whole name joined, '\x7d' :: _ =>
        skip 1
        pure (.parameter (.whole name joined) (.subscripts joined) quoted)
      | _, _ => use start (.indirect subject) quoted n
    | _ =>
      let subject ← subject n
      use start subject quoted n

/-- What a parameter is, perhaps an element of an array. -/
def subject : Nat → Reader Subject
  | 0 => tooDeep
  | n + 1 => do
    let name ← parameterName
    match ← peek with
    | '[' :: inner =>
      if isName name && (afterSubscript? 0 none inner).isSome then
        match inner with
        | '@' :: ']' :: _ =>
          skip 3
          pure (.whole name false)
        | '*' :: ']' :: _ =>
          skip 3
          pure (.whole name true)
        | _ => do
          skip 1
          let subscript ← parts .subscript n 0
          skip 1
          pure (.element name subscript)
      else pure (.named name)
    | _ => pure (.named name)

/-- What is made of a parameter up to its closing brace; `start` is what followed the opening one.
-/
def use (start : Octets) (subject : Subject) (quoted : Bool) : Nat → Reader Part
  | 0 => tooDeep
  | n + 1 => do
    let done (use : Use) : Reader Part := do
      skip 1
      pure (.parameter subject use quoted)
    let cs ← peek
    let nameless := match subject with
      | .named [] | .indirect (.named []) => true
      | _ => false
    match parameterUse? cs, recasing? cs, cs with
    | _, _, '\x7d' :: _ => if nameless then mistake start n else done .value
    | some (length, make), _, _ =>
      if nameless then mistake start n
      else
        skip length
        let patterned := cs.head? == some '%' || cs.head? == some '#'
        done (make (← parts (.braces (quoted && !patterned)) n 0))
    | none, some (length, make), _ =>
      skip length
      done (make (← parts (.braces false) n 0))
    | none, none, ':' :: _ =>
      skip 1
      let offset ← parts (.offset false) n 0
      if (← peek).head? == some ':' then
        skip 1
        done (.slice offset (some (← parts (.offset true) n 0)))
      else done (.slice offset none)
    | none, none, '/' :: after =>
      let (anchor, length) := anchor after
      skip (length + 1)
      -- A slash right at the start is part of the pattern.
      let slash := (← peek).head? == some '/' && anchor = .everywhere
      if slash then skip 1
      let search ← parts .search n 0
      let search := if slash then bare ['/'] ++ search else search
      if (← peek).head? == some '/' then
        skip 1
        done (.exchange anchor search (← parts (.braces false) n 0))
      else done (.exchange anchor search [])
    | none, none, '@' :: letter :: '\x7d' :: _ =>
      skip 2
      done (.transform letter)
    | _, _, _ => mistake start n

/-- A parameter that is not one; `start` is what followed its opening brace. -/
def mistake (start : Octets) : Nat → Reader Part
  | 0 => tooDeep
  | n + 1 => do
    let _ ← parts (.braces false) n 0
    let left ← peek
    skip 1
    let source := "$\x7b".toList ++ start.take (start.length - left.length) ++ "\x7d".toList
    pure (.parameter (.named []) (.mistake source) false)

/-- The elements of an array, the opening parenthesis of which has been passed over. -/
def items : Nat → Reader (List Item)
  | 0 => tooDeep
  | n + 1 => do
    lineEnds n
    match ← peek with
    | ')' :: _ =>
      skip 1
      pure []
    | [] => unclosed (← line) ")" "Missing ')'"
    | cs =>
      let keyed := match cs with
        | '[' :: inner => ((afterSubscript? 0 none inner).bind assignmentSign?).isSome
        | _ => false
      if keyed then
        skip 1
        let subscript ← parts .subscript n 0
        skip 1
        let adds := (← peek).head? == some '+'
        skip (if adds then 2 else 1)
        let value ← parts .word n 0
        pure (.item (some subscript) adds value :: (← items n))
      else
        let word ← parts .word n 0
        if word.isEmpty then unexpected none
        pure (.item none false word :: (← items n))

/-- A word of a command that may assign an array. -/
def declared : Nat → Reader Word
  | 0 => tooDeep
  | n + 1 => do
    match arrayHead? (← peek) with
    | some length =>
      let head := (← peek).take length
      skip (length + 1)
      pure (bare head ++ [.elements (← items n)])
    | none => parts .word n 0

/-- The assignment that comes next. -/
def assignment : Nat → Reader Assignment
  | 0 => tooDeep
  | n + 1 => do
    let name ← takeWhile isNameRest
    let subscript : Option Word ←
      if (← peek).head? == some '[' then do
        skip 1
        let word ← parts .subscript n 0
        skip 1
        pure (some word)
      else pure none
    let adds := (← peek).head? == some '+'
    skip (if adds then 2 else 1)
    if (← isRich) && (← peek).head? == some '(' then
      skip 1
      pure (.assignment name subscript adds [.elements (← items n)])
    else pure (.assignment name subscript adds (← parts .word n 0))

/-- The rest of a simple command. -/
def simple (c : Started) : Nat → Reader Command
  | 0 => failOn c.line "too much nesting"
  | n + 1 => do
    blanks
    let rich ← isRich
    let mayBeAlias ← if c.words.isEmpty then pure true else follows c.before
    let expanded ← if mayBeAlias then expandAlias else pure false
    let next ← if expanded then pure none else redirection n
    match expanded, next with
    | true, _ => simple { c with before := (← peek).length } n
    | false, some r =>
      simple { c with redirections := c.redirections ++ [r], before := (← peek).length } n
    | false, none =>
      let cs ← peek
      let ended := match cs with
        | [] => true
        | d :: _ => isMeta d && !(rich && startsChannel cs)
      if ended then
        let opens := cs.head? == some '('
        let isCall := opens && c.assignments.isEmpty && c.redirections.isEmpty
        match c.words, isCall with
        | [word], true =>
          skip 1
          expectOperator ")" false
          let acceptable (name : Octets) : Bool :=
            rich || (isName name && !specialBuiltins.contains (String.ofList name))
          match (plainOctets? word).filter acceptable with
          | some name =>
            lineEnds n
            definition c.line name n
          | none => failOn (← line) "Bad function name"
        | _, _ =>
          if opens || (c.assignments.isEmpty && c.words.isEmpty && c.redirections.isEmpty)
          then unexpected none
          else pure (.simple c.line c.assignments c.words c.redirections)
      else if c.words.isEmpty && isAssignment (← dialect) cs then
        let assignment ← assignment n
        simple
          { c with
            assignments := c.assignments ++ [assignment]
            before := (← peek).length } n
      else
        let word ← if rich && c.declares then declared n else parts .word n 0
        simple { c with words := c.words ++ [word], before := (← peek).length } n

/-- The body of a function; in the rich dialect it is a compound command. -/
def definition (start : Nat) (name : Octets) : Nat → Reader Command
  | 0 => tooDeep
  | n + 1 => do
    if (← isRich) && !(← startsCompound) then unexpected none
    pure (.define start name (← command n))

/-- The redirection that comes next, if one does. -/
def redirection : Nat → Reader (Option Redirection)
  | 0 => pure none
  | n + 1 => do
    let cs ← peek
    let kind ← dialect
    match document? kind cs, redirection? kind cs with
    | some (length, descriptor, dropTabs), _ =>
      skip length
      blanks
      let cs ← peek
      let (delimiter, quoted, after) := delimiter none cs
      if after.length = cs.length then unexpected none
      skip (cs.length - after.length)
      let text ← takeDocument dropTabs delimiter
      if quoted then pure (some (.document descriptor [.text text true]))
      else
        match (parts .document n 0).run ((← get).within text ((← line) + 1)) with
        | .ok (word, _) => pure (some (.document descriptor word))
        | .error e => throw e
    | none, some (length, make) =>
      skip length
      blanks
      let file ← parts .word n 0
      if file.isEmpty then unexpected none
      pure (some (make file))
    | none, none => pure none

/-- The redirections after a compound command. -/
def redirections : Nat → Reader (List Redirection)
  | 0 => pure []
  | n + 1 => do
    blanks
    match ← redirection n with
    | some r => do pure (r :: (← redirections n))
    | none => pure []

/-- The rest of a conditional, after its first word. -/
def conditional : Nat → Reader Command
  | 0 => tooDeep
  | n + 1 => do
    let test ← someCommands "then" n
    expectWord "then"
    let thenBranch ← someCommands "fi" n
    blanks
    match ← reserved? with
    | some "elif" =>
      skip 4
      let other ← conditional n
      pure (.conditional test thenBranch [other])
    | some "else" =>
      skip 4
      let elseBranch ← someCommands "fi" n
      expectWord "fi"
      pure (.conditional test thenBranch elseBranch)
    | _ =>
      expectWord "fi"
      pure (.conditional test thenBranch [])

/-- Words up to the end of the line or a semicolon. -/
def wordList : Nat → Reader (List Word)
  | 0 => pure []
  | n + 1 => do
    blanks
    match ← peek with
    | [] => pure []
    | c :: rest =>
      if isMeta c && !((← isRich) && startsChannel (c :: rest)) then pure []
      else
        let word ← parts .word n 0
        pure (word :: (← wordList n))

/-- The patterns of a branch, up to the closing parenthesis. -/
def patterns : Nat → Reader (List Word)
  | 0 => tooDeep
  | n + 1 => do
    blanks
    let word ← parts .word n 0
    -- An operator in place of a pattern is passed over.
    if word.isEmpty then
      match ← operator? with
      | some op => if ← isRich then unexpected none else skip op.length
      | none => unexpected (some ")") false
    blanks
    match ← operator? with
    | some "|" =>
      skip 1
      pure (word :: (← patterns n))
    | _ =>
      expectOperator ")" false
      pure [word]

/-- The branches of a choice, up to its last word. -/
def branches : Nat → Reader (List (List Word × List Command × Onward))
  | 0 => tooDeep
  | n + 1 => do
    lineEnds n
    if (← reserved?) = some "esac" then
      skip 4
      pure []
    else
      if (← operator?) = some "(" then skip 1
      let choices ← patterns n
      let body ← commands n
      blanks
      let onward : Option Onward := match ← operator? with
        | some ";;" => some .stop
        | some ";&" => some .fall
        | some ";;&" => some .retry
        | _ => none
      match onward, ← operator? with
      | some onward, some op =>
        skip op.length
        pure ((choices, body, onward) :: (← branches n))
      | _, _ =>
        if (← reserved?) ≠ some "esac" then unexpected (some ";;")
        skip 4
        pure [(choices, body, .stop)]

/-- The body of a loop. -/
def loopBody : Nat → Reader (List Command)
  | 0 => tooDeep
  | n + 1 => do
    blanks
    if (← isRich) && (← reserved?) = some "\x7b" then
      skip 1
      let body ← someCommands "\x7d" n
      expectWord "\x7d"
      pure body
    else
      expectWord "do"
      let body ← someCommands "done" n
      expectWord "done"
      pure body

/-- A compound command, to which redirections are added that follow it. -/
def compound (add : List Redirection → Command) : Nat → Reader Command
  | 0 => tooDeep
  | n + 1 => do
    pure (add (← redirections n))

/-- The name of a loop and the words that it goes through, if there are any. -/
def loopHead : Nat → Reader (Octets × Option (List Word))
  | 0 => tooDeep
  | n + 1 => do
    blanks
    let rich ← isRich
    let name ← takeWhile fun c => if rich then !isMeta c else isNameRest c
    if !rich && !isName name then
      let here := (← line) + if (← peek).head? == some '\n' then 1 else 0
      failOn here "Bad for loop variable"
    if name.isEmpty then unexpected none
    lineEnds n
    let words : Option (List Word) ←
      if (← reserved?) = some "in" then do
        skip 2
        pure (some (← wordList n))
      else pure none
    blanks
    if (← operator?) = some ";" then skip 1
    lineEnds n
    pure (name, words)

/-- One command without operators. -/
def command : Nat → Reader Command
  | 0 => tooDeep
  | n + 1 => do
    blanks
    let start ← line
    let cs ← peek
    if (← operator?) = some "(" then
      let rich ← isRich
      match ← if rich && "((".toList.isPrefixOf cs then attempt (expression n) else pure none with
      | some expression => compound (redirected start (.compute start expression)) n
      | none =>
        skip 1
        let body ← someCommands ")" n
        expectOperator ")"
        compound (.subshell start body) n
    else
      match ← reserved? with
      | none =>
        if ← expandAlias then
          lineEnds n
          command n
        else simple { line := start, before := cs.length } n
      | some "\x7b" =>
        skip 1
        let body ← someCommands "\x7d" n
        expectWord "\x7d"
        compound (redirected start (.group body)) n
      | some "if" =>
        skip 2
        let conditional ← conditional n
        compound (redirected start conditional) n
      | some "while" =>
        skip 5
        let test ← someCommands "do" n
        let body ← loopBody n
        compound (redirected start (.loop false test body)) n
      | some "until" =>
        skip 5
        let test ← someCommands "do" n
        let body ← loopBody n
        compound (redirected start (.loop true test body)) n
      | some "for" =>
        skip 3
        blanks
        if (← isRich) && "((".toList.isPrefixOf (← peek) then
          let expression ← expression n
          match loopParts? expression with
          | none => failOn start "syntax error: arithmetic expression required"
          | some (first, test, step) =>
            blanks
            if (← operator?) = some ";" then skip 1
            lineEnds n
            let body ← loopBody n
            compound (redirected start (.counting start first test step body)) n
        else
          let (name, words) ← loopHead n
          let body ← loopBody n
          compound (redirected start (.forEach start name words body)) n
      | some "select" =>
        skip 6
        let (name, words) ← loopHead n
        let body ← loopBody n
        compound (redirected start (.select start name words body)) n
      | some "case" =>
        skip 4
        blanks
        let word ← parts .word n 0
        lineEnds n
        expectWord "in"
        let branches ← branches n
        compound (redirected start (.choose start word branches)) n
      | some "[[" =>
        skip 2
        let condition ← alternatives n
        lineEnds n
        if (← reserved?) ≠ some "]]" then
          failOn (← line) ("syntax error near `" ++ shownToken (← peek) ++ "'")
        skip 2
        compound (redirected start (.condition start condition)) n
      | some "function" =>
        skip 8
        blanks
        match plainOctets? (← parts .word n 0) with
        | none => unexpected none
        | some name =>
          if name.isEmpty then unexpected none
          blanks
          if (← operator?) = some "(" then
            skip 1
            expectOperator ")"
          lineEnds n
          definition start name n
      | some _ => unexpected none

/-- Conditions between `||`. -/
def alternatives : Nat → Reader Condition
  | 0 => tooDeep
  | n + 1 => do
    let left ← conjuncts n
    lineEnds n
    if (← operator?) = some "||" then
      skip 2
      pure (.either left (← alternatives n))
    else pure left

/-- Conditions between `&&`. -/
def conjuncts : Nat → Reader Condition
  | 0 => tooDeep
  | n + 1 => do
    let left ← condition n
    lineEnds n
    if (← operator?) = some "&&" then
      skip 2
      pure (.both left (← conjuncts n))
    else pure left

/-- A single condition. -/
def condition : Nat → Reader Condition
  | 0 => tooDeep
  | n + 1 => do
    lineEnds n
    let cs ← peek
    let near {α : Type} : Reader α := do
      failOn (← line) ("syntax error near `" ++ shownToken (← peek) ++ "'")
    match ← operator?, plainWord? cs with
    | some "(", _ =>
      skip 1
      let inner ← alternatives n
      lineEnds n
      if (← operator?) ≠ some ")" then near
      skip 1
      pure inner
    | some _, _ => near
    | none, some "!" =>
      skip 1
      pure (.negation (← condition n))
    | none, some "]]" => near
    | none, word =>
      if cs.isEmpty then unexpected none
      let unary := word.filter unaryTests.contains
      match unary with
      | some op =>
        skip op.length
        blanks
        if plainWord? (← peek) = some "]]" || (← operator?).isSome then near
        pure (.unary op.toList (← parts .word n 0))
      | none =>
        let left ← parts .word n 0
        blanks
        match ← peek, plainWord? (← peek) with
        | '<' :: _, _ =>
          skip 1
          blanks
          pure (.binary ['<'] left (← parts .word n 0))
        | '>' :: _, _ =>
          skip 1
          blanks
          pure (.binary ['>'] left (← parts .word n 0))
        | _, some "]]" => pure (.word left)
        | rest, some op =>
          if !binaryTests.contains op then near
          skip op.length
          blanks
          let right ← operand (op == "=~") n
          if right.isEmpty && rest.length ≤ op.length then near
          pure (.binary op.toList left right)
        | _, none => if (← operator?).isSome then pure (.word left) else near

/-- The right operand of a condition, which may be a pattern or a regular expression. -/
def operand (isExpression : Bool) : Nat → Reader Word
  | 0 => tooDeep
  | n + 1 => do
    let groups := (← get).groups
    modify fun i => { i with groups := !isExpression }
    let word ← parts (if isExpression then .expression else .word) n 0
    modify fun i => { i with groups }
    pure word

/-- Commands joined by pipes. -/
def pipe : Nat → Reader (List Command)
  | 0 => tooDeep
  | n + 1 => do
    let start ← line
    let first ← command n
    blanks
    match ← operator? with
    | some "|" =>
      skip 1
      lineEnds n
      pure (first :: (← pipe n))
    | some "|&" =>
      skip 2
      lineEnds n
      pure (withErrors start first :: (← pipe n))
    | _ => pure [first]

/-- A pipeline, perhaps negated or timed. -/
def pipeline : Nat → Reader Command
  | 0 => tooDeep
  | n + 1 => do
    blanks
    let rich ← isRich
    match ← reserved? with
    | some "!" =>
      skip 1
      if rich then do pure (.negated (← pipeline n))
      else do pure (.negated (joint (← pipe n)))
    | some "time" =>
      skip 4
      blanks
      let short := plainWord? (← peek) = some "-p"
      if short then
        skip 2
        blanks
      let ended := match ← peek with
        | [] => true
        | c :: _ => c == '\n' || c == ';' || c == ')'
      if ended then pure (.timed short (.group []))
      else do pure (.timed short (← pipeline n))
    | _ => do pure (joint (← pipe n))
where
  /-- Commands as one. -/
  joint : List Command → Command
    | [single] => single
    | several => .pipeline several

/-- Adds the rest of a list to its first pipelines, each operator acting on all before it. -/
def andOr (first : Command) : Nat → Reader Command
  | 0 => tooDeep
  | n + 1 => do
    blanks
    match ← operator? with
    | some "&&" =>
      skip 2
      lineEnds n
      andOr (.andThen first (← pipeline n)) n
    | some "||" =>
      skip 2
      lineEnds n
      andOr (.orElse first (← pipeline n)) n
    | _ => pure first

/-- Commands up to something that ends a list. -/
def commands : Nat → Reader (List Command)
  | 0 => tooDeep
  | n + 1 => do
    lineEnds n
    if ← closes then pure []
    else
      let start ← line
      let first ← andOr (← pipeline n) n
      blanks
      match ← peek with
      | '\n' :: _ => pure (first :: (← commands n))
      | _ =>
        match ← operator? with
        | some ";" =>
          skip 1
          pure (first :: (← commands n))
        | some "&" =>
          skip 1
          pure (.background start first :: (← commands n))
        | _ => if ← closes then pure [first] else unexpected none

/-- Commands before something, at least one. -/
def someCommands (before : String) : Nat → Reader (List Command)
  | 0 => tooDeep
  | n + 1 => do
    let body ← commands n
    if body.isEmpty then unexpected (if (← peek).isEmpty then some before else none)
    pure body

/-- A whole script. -/
def script : Nat → Reader (List Command)
  | 0 => tooDeep
  | n + 1 => do
    let body ← commands n
    if !(← peek).isEmpty then unexpected none
    pure body

end

/-- The commands of one line, and whether the script ends with them. -/
def lineOfCommands (fuel : Nat) : Nat → Reader (List Command × Bool)
  | 0 => tooDeep
  | n + 1 => do
    let start ← line
    let first ← andOr (← pipeline fuel) fuel
    blanks
    match ← peek with
    | [] => pure ([first], true)
    | '\n' :: _ =>
      skip 1
      pure ([first], false)
    | _ =>
      let op ← operator?
      match op with
      | some ";" | some "&" =>
        skip 1
        let first := if op = some "&" then .background start first else first
        blanks
        match ← peek with
        | [] => pure ([first], true)
        | '\n' :: _ =>
          skip 1
          pure ([first], false)
        | _ => do
          let (rest, ended) ← lineOfCommands fuel n
          pure (first :: rest, ended)
      | _ => unexpected none

end Reader

/-- What is read of a script at a time. -/
structure Line : Type where
  commands : List Command
  /-- Whether the script ends with them. -/
  ended : Bool

/-- The next line that has commands, and what is left; `none` at the end. -/
def nextLine (input : Input) : Except SyntaxError (Option Line × Input) :=
  let fuel := 8 * input.rest.length + 8 * (input.aliases.map (·.2.length)).foldl (· + ·) 0 + 32
  let read : Reader (Option Line) := do
    Reader.lineEnds fuel
    if (← Reader.peek).isEmpty then pure none
    else
      let (commands, ended) ← Reader.lineOfCommands fuel fuel
      pure (some { commands, ended })
  read.run input

/-- The word that a text is in which only dollar signs and backquotes have a meaning. -/
def readPrompt (dialect : Dialect) (text : Octets) : Except SyntaxError Word :=
  let input : Input := { rest := text, line := 1, dialect }
  ((Reader.parts .document (8 * text.length + 32) 0).run input).map Prod.fst

end Fleet.Shell
