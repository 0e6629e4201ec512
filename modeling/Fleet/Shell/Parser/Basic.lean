import Fleet.Shell.Syntax

/-!
# What scripts are read with

What is left of a script, its blanks and line ends, the operators and reserved words that come next,
aliases, and texts that stand in the script for a command to read.
-/

namespace Fleet.Shell

/-- A mistake in a script. -/
structure SyntaxError : Type where
  line : Nat
  message : String
  deriving Repr, DecidableEq

/-- The text of an alias that is being read. -/
structure Inset : Type where
  name : Octets
  /-- How much of the script is left after it. -/
  after : Nat
  /-- Whether it ends in a blank, so that the next word may be an alias as well. -/
  spaced : Bool
  deriving Repr

/-- What is left of a script, and the number of the line it starts on. -/
structure Input : Type where
  rest : Octets
  line : Nat
  dialect : Dialect := .plain
  /-- Whether patterns may have groups. -/
  groups : Bool := false
  /-- How many lines after the current one have been taken out. -/
  dropped : Nat := 0
  aliases : List (Octets × Octets) := []
  /-- The aliases that have been put in the place of words, the latest first. -/
  insets : List Inset := []
  deriving Repr

/-- Another text of the same script. -/
def Input.within (i : Input) (text : Octets) (line : Nat) : Input :=
  { i with rest := text, line, dropped := 0, insets := [] }

/-- Reads from the front of a script. -/
abbrev Reader : Type → Type :=
  StateT Input (Except SyntaxError)

/-- How the characters of a part are quoted. -/
inductive Setting : Type where
  | word
  | doubleQuoted
  /-- Between the braces of a parameter. -/
  | braces (quoted : Bool)
  /-- Between the parentheses of an arithmetic expression. -/
  | arithmetic
  /-- Between the brackets of an arithmetic expression. -/
  | bracketed
  /-- In a text that stands in the script for a command to read. -/
  | document
  /-- Between the parentheses of a group in a pattern. -/
  | group
  /-- Between the brackets behind the name of an array. -/
  | subscript
  /-- A number between the braces of a parameter; the last one does not end at a colon. -/
  | offset (last : Bool)
  /-- A pattern between the braces of a parameter that ends at a slash. -/
  | search
  /-- A regular expression in a condition. -/
  | expression
  deriving Repr, DecidableEq

namespace Setting

/-- Whether characters are quoted. -/
def quoted : Setting → Bool
  | word | group | subscript | search | expression => false
  | doubleQuoted | arithmetic | bracketed | document | offset _ => true
  | braces q => q

/-- Whether it is a number that is written. -/
def numeric : Setting → Bool
  | arithmetic | bracketed | offset _ => true
  | _ => false

end Setting

namespace Reader

/-- What is left. -/
def peek : Reader Octets := do
  pure (← get).rest

/-- The number of the current line. -/
def line : Reader Nat := do
  pure (← get).line

/-- The dialect that is read. -/
def dialect : Reader Dialect := do
  pure (← get).dialect

/-- Whether the rich dialect is read. -/
def isRich : Reader Bool := do
  pure ((← get).dialect = .rich)

/-- Passes over some characters. -/
def skip (n : Nat) : Reader Unit :=
  modify fun i =>
    match (i.rest.take n).count '\n' with
    | 0 => { i with rest := i.rest.drop n }
    | lines => { i with rest := i.rest.drop n, line := i.line + lines + i.dropped, dropped := 0 }

/-- Gives up with a message for a line; one for the plain dialect is said to be about how the script
is written. -/
def failOn {α : Type} (line : Nat) (message : String) : Reader α := do
  throw ⟨line, if ← isRich then message else "Syntax error: " ++ message⟩

/-- Gives up since the script is nested too deeply. -/
def tooDeep {α : Type} : Reader α := do
  failOn (← line) "too much nesting"

/-- What a reader gives, unless it gives up; nothing is taken then. -/
def attempt {α : Type} (reader : Reader α) : Reader (Option α) := fun i =>
  match reader i with
  | .ok (value, after) => .ok (some value, after)
  | .error _ => .ok (none, i)

/-- Takes characters as long as they satisfy a test. -/
def takeWhile (test : Char → Bool) : Reader Octets := do
  let taken := (← peek).takeWhile test
  skip taken.length
  pure taken

/-! ## Blanks and lines -/

/-- What follows blanks, escaped line ends and a comment. -/
def afterBlanks : Octets → Octets
  | ' ' :: rest => afterBlanks rest
  | '\t' :: rest => afterBlanks rest
  | '\\' :: '\n' :: rest => afterBlanks rest
  | '#' :: rest => rest.dropWhile (· ≠ '\n')
  | cs => cs

/-- Whether an escaped line end may stand after a character without being what it seems. -/
def mayJoin (c : Char) : Bool :=
  !(c == ' ' || c == '\t' || c == '\n' || c == '\'' || c == '"' || c == '`' || c == '\\' ||
    c == '#')

/-- A text without the escaped line ends in its next token, and how many there were. -/
def joined : Octets → Octets × Nat
  | '\\' :: '\n' :: rest =>
    let (text, lines) := joined rest
    (text, lines + 1)
  | c :: rest =>
    if mayJoin c then
      let (text, lines) := joined rest
      (c :: text, lines)
    else (c :: rest, 0)
  | [] => ([], 0)

/-- Takes the escaped line ends out of the next token. -/
def joinLines : Reader Unit := do
  let i ← get
  if (i.rest.dropWhile mayJoin).head? == some '\\' then
    let (rest, lines) := joined i.rest
    set { i with rest, line := i.line + lines }

/-- Passes over blanks, escaped line ends and a comment. The next token stands in one line then. -/
def blanks : Reader Unit := do
  let cs ← peek
  skip (cs.length - (afterBlanks cs).length)
  joinLines

/-- What follows blanks, comments and line ends; at most the given number of lines. -/
def lineEnds : Nat → Reader Unit
  | 0 => pure ()
  | n + 1 => do
    blanks
    match ← peek with
    | '\n' :: _ =>
      skip 1
      lineEnds n
    | _ => pure ()

/-! ## Tokens -/

/-- The operator that comes next, if one does. -/
def operatorOf? (dialect : Dialect) (cs : Octets) : Option String :=
  match dialect, cs with
  | .rich, ';' :: ';' :: '&' :: _ => some ";;&"
  | .rich, ';' :: '&' :: _ => some ";&"
  | .rich, '|' :: '&' :: _ => some "|&"
  | .rich, '&' :: '>' :: _ => none
  | _, '&' :: '&' :: _ => some "&&"
  | _, '&' :: _ => some "&"
  | _, '|' :: '|' :: _ => some "||"
  | _, '|' :: _ => some "|"
  | _, ';' :: ';' :: _ => some ";;"
  | _, ';' :: _ => some ";"
  | _, '(' :: _ => some "("
  | _, ')' :: _ => some ")"
  | _, _ => none

/-- The operator that comes next, if one does. -/
def operator? : Reader (Option String) := do
  let i ← get
  pure (operatorOf? i.dialect i.rest)

/-- The word without quoting that comes next, if one does. -/
def plainWord? (cs : Octets) : Option String :=
  let isPlain (c : Char) : Bool :=
    !isMeta c && c != '\'' && c != '"' && c != '\\' && c != '$' && c != '`'
  let word := cs.takeWhile isPlain
  let ended := match cs.drop word.length with
    | [] => true
    | c :: _ => isMeta c
  if ended && !word.isEmpty then some (String.ofList word) else none

/-- The reserved word of a dialect that comes next, if one does. -/
def reservedOf? (dialect : Dialect) (cs : Octets) : Option String :=
  (plainWord? cs).filter dialect.reservedWords.contains

/-- The reserved word that comes next, if one does. -/
def reserved? : Reader (Option String) := do
  let i ← get
  pure (reservedOf? i.dialect i.rest)

/-- The token that comes next as the rich dialect shows it. -/
def shownToken (cs : Octets) : String :=
  match operatorOf? .rich cs with
  | some op => op
  | none =>
    let operator := cs.takeWhile fun c => c == '<' || c == '>' || c == '&'
    if !operator.isEmpty then String.ofList operator
    else String.ofList (cs.takeWhile (!isMeta ·))

/-- Gives up because of what comes next in the rich dialect. -/
def unexpectedRich {α : Type} : Reader α := do
  let cs ← peek
  match cs with
  | [] => failOn ((← line) + 1) "syntax error: unexpected end of file"
  | '\n' :: _ => failOn (← line) "syntax error near unexpected token `newline'"
  | _ => failOn (← line) ("syntax error near unexpected token `" ++ shownToken cs ++ "'")

/-- Gives up because of what comes next, which may be a reserved word only if `keywords` says
so. -/
def unexpected {α : Type} (expected : Option String) (keywords : Bool := true) : Reader α := do
  blanks
  if ← isRich then unexpectedRich
  else
    let cs ← peek
    let found :=
      match cs with
      | [] => "end of file"
      | '\n' :: _ => "newline"
      | _ =>
        match operatorOf? .plain cs, (reservedOf? .plain cs).filter fun _ => keywords with
        | some op, _ => "\"" ++ op ++ "\""
        | none, some word => "\"" ++ word ++ "\""
        | none, none =>
          match cs with
          | '<' :: _ | '>' :: _ => "redirection"
          | d :: '<' :: _ | d :: '>' :: _ => if d.isDigit then "redirection" else "word"
          | _ => "word"
    let wanted :=
      match expected with
      | some token => " (expecting \"" ++ token ++ "\")"
      | none => ""
    -- A line end is noticed once it has been passed.
    let here := (← line) + if cs.head? == some '\n' then 1 else 0
    failOn here (found ++ " unexpected" ++ wanted)

/-- Takes a reserved word, which has to come next. -/
def expectWord (word : String) : Reader Unit := do
  blanks
  if (← reserved?) = some word then skip word.length else unexpected (some word)

/-- Takes an operator, which has to come next. -/
def expectOperator (op : String) (keywords : Bool := true) : Reader Unit := do
  blanks
  if (← operator?) = some op then skip op.length else unexpected (some op) keywords

/-- Gives up since a quote or a bracket that was opened on a line is not closed. -/
def unclosed {α : Type} (opened : Nat) (closing plain : String) : Reader α := do
  if ← isRich then failOn opened ("unexpected EOF while looking for matching `" ++ closing ++ "'")
  else failOn (← line) plain

/-- The characters up to a single quote, which is passed over. -/
def singleQuoted : Reader Octets := do
  let here ← line
  let text ← takeWhile (· ≠ '\'')
  if (← peek).isEmpty then unclosed here "'" "Unterminated quoted string"
  skip 1
  pure text

/-- The characters up to a single quote that no backslash stands before, and how many there are. -/
def untilQuote : Octets → Octets
  | '\\' :: c :: rest => '\\' :: c :: untilQuote rest
  | '\'' :: _ => []
  | c :: rest => c :: untilQuote rest
  | [] => []

/-- The script between backquotes, the first of which has been passed over, and what follows. A
backslash keeps its meaning except before a backquote, a backslash and a dollar sign, and within
double quotes before one of these; it joins lines. -/
def backquoted (quoted : Bool) : Octets → Option (Octets × Octets)
  | [] => none
  | '`' :: rest => some ([], rest)
  | '\\' :: '\n' :: rest => backquoted quoted rest
  | '\\' :: c :: rest =>
    (backquoted quoted rest).map fun (text, after) =>
      if c = '`' ∨ c = '\\' ∨ c = '$' ∨ (c = '"' ∧ quoted) then (c :: text, after)
      else ('\\' :: c :: text, after)
  | c :: rest => (backquoted quoted rest).map fun (text, after) => (c :: text, after)

/-- Whether a part ends before a character. -/
def ends (setting : Setting) (depth : Nat) (c : Char) (rest : Octets) : Bool :=
  match setting with
  | .word => isMeta c
  | .doubleQuoted => c == '"'
  | .braces _ => c == '\x7d'
  | .arithmetic => c == ')' && depth == 0 && rest.head? == some ')'
  | .bracketed | .subscript => c == ']' && depth == 0
  | .document => false
  | .group => c == ')' && depth == 0
  | .offset last => depth == 0 && (c == '\x7d' || (c == ':' && !last))
  | .search => c == '\x7d' || c == '/'
  | .expression =>
    c == '\n' || (depth == 0 && (c == ' ' || c == '\t' || c == ';' || c == '&' || c == ')'))

/-- How deep what follows a character lies between parentheses, or between brackets. -/
def deepened (setting : Setting) (depth : Nat) (c : Char) : Nat :=
  let (opening, closing) := match setting with
    | .bracketed | .subscript => ('[', ']')
    | _ => ('(', ')')
  if c = opening then depth + 1 else if c = closing then depth - 1 else depth

/-- What a backslash and a character stand for. -/
def escaped (setting : Setting) (c : Char) : Part :=
  let special := c == '$' || c == '`' || (c == '"' && setting != .document) || c == '\\' ||
    (setting == .braces true && c == '\x7d')
  if !setting.quoted || special then .text [c] true else .text ['\\', c] true

/-! ## Parameters -/

/-- A parameter that is named by one character. -/
def isSpecialParameter (c : Char) : Bool :=
  c == '@' || c == '*' || c == '#' || c == '?' || c == '-' || c == '$' || c == '!' || c.isDigit

/-- The name of a parameter between braces; empty if there is none. -/
def parameterName : Reader Octets := do
  joinLines
  match ← peek with
  | c :: _ =>
    if isNameStart c then takeWhile isNameRest
    else if c.isDigit then takeWhile Char.isDigit
    else if isSpecialParameter c then
      skip 1
      pure [c]
    else pure []
  | [] => unclosed (← line) "\x7d" "Missing '\x7d'"

/-- The operator after the name of a parameter between braces, as what it makes of a word. -/
def parameterUse? : Octets → Option (Nat × (Word → Use))
  | ':' :: '-' :: _ => some (2, .remedy .standIn true)
  | ':' :: '=' :: _ => some (2, .remedy .assign true)
  | ':' :: '?' :: _ => some (2, .remedy .complain true)
  | ':' :: '+' :: _ => some (2, .remedy .replace true)
  | '-' :: _ => some (1, .remedy .standIn false)
  | '=' :: _ => some (1, .remedy .assign false)
  | '?' :: _ => some (1, .remedy .complain false)
  | '+' :: _ => some (1, .remedy .replace false)
  | '%' :: '%' :: _ => some (2, .trim true true)
  | '%' :: _ => some (1, .trim true false)
  | '#' :: '#' :: _ => some (2, .trim false true)
  | '#' :: _ => some (1, .trim false false)
  | _ => none

/-- The operator that changes letters after the name of a parameter between braces. -/
def recasing? : Octets → Option (Nat × (Word → Use))
  | '^' :: '^' :: _ => some (2, .recase .upper true)
  | '^' :: _ => some (1, .recase .upper false)
  | ',' :: ',' :: _ => some (2, .recase .lower true)
  | ',' :: _ => some (1, .recase .lower false)
  | '~' :: '~' :: _ => some (2, .recase .swapped true)
  | '~' :: _ => some (1, .recase .swapped false)
  | _ => none

/-- Where the pattern matches that is replaced, given what follows the first slash, and how many
characters say so. -/
def anchor (cs : Octets) : Anchor × Nat :=
  match cs with
  | '/' :: _ => (.everywhere, 1)
  | '#' :: _ => (.start, 1)
  | '%' :: _ => (.finish, 1)
  | _ => (.anywhere, 0)

/-- Whether a parameter stands for several values that are fields of their own. -/
def isSeparate : Part → Bool
  | .parameter (.named ['@']) .length _ => false
  | .parameter (.named ['@']) _ _ => true
  | .parameter (.whole _ false) .length _ => false
  | .parameter (.whole _ false) _ _ => true
  | .parameter _ (.names false) _ | .parameter _ (.subscripts false) _ => true
  | _ => false

/-- What stands between double quotes. They make a field even of nothing, unless they hold only the
arguments one by one; in the rich dialect unless they hold such among others. -/
def quotes (dialect : Dialect) (inner : Word) : Word :=
  match dialect, inner with
  | .plain, [.parameter (.named ['@']) .value _] => inner
  | .plain, _ => .text [] true :: inner
  | .rich, _ => if inner.any isSeparate then inner else .text [] true :: inner

/-! ## Redirections -/

/-- Which descriptor is redirected. -/
inductive Descriptor : Type where
  | usual
  | number (n : Nat)
  /-- A free one, the number of which a variable is given. -/
  | free (name : Octets)
  deriving Repr

/-- The descriptor that stands in front of an operator, and what follows it. -/
def descriptor (dialect : Dialect) (cs : Octets) : Descriptor × Octets :=
  let opens (cs : Octets) : Bool := cs.head? == some '<' || cs.head? == some '>'
  let digits := cs.takeWhile Char.isDigit
  let after := cs.drop digits.length
  let number := digits.foldl (fun n d => n * 10 + (d.toNat - '0'.toNat)) 0
  if !digits.isEmpty && opens after && (dialect = .rich || digits.length = 1) then
    (.number number, after)
  else
    match dialect, cs with
    | .rich, '\x7b' :: rest =>
      let name := rest.takeWhile isNameRest
      let after := rest.drop (name.length + 1)
      if isName name && (rest.drop name.length).head? == some '\x7d' && opens after then
        (.free name, after)
      else (.usual, cs)
    | _, _ => (.usual, cs)

/-- The operator of the redirection that comes next, if one does, and its length. -/
def redirection? (dialect : Dialect) (cs : Octets) : Option (Nat × (Word → Redirection)) :=
  let (which, operator) := descriptor dialect cs
  let found (length usual : Nat) (make : Nat → Word → Redirection) :
      Option (Nat × (Word → Redirection)) :=
    let total := cs.length - operator.length + length
    match which with
    | .usual => some (total, make usual)
    | .number n => some (total, make n)
    | .free name => some (total, fun word => .naming name (make usual word))
  match dialect, operator with
  | .rich, '<' :: '<' :: '<' :: _ => found 3 0 .line
  | .rich, '&' :: '>' :: '>' :: _ => some (3, .both .append)
  | .rich, '&' :: '>' :: _ => some (2, .both .fresh)
  | .rich, '<' :: '(' :: _ | .rich, '>' :: '(' :: _ => none
  | _, '<' :: '&' :: _ => found 2 0 (.copy · false)
  | _, '<' :: '<' :: _ => none
  | _, '<' :: '>' :: _ => found 2 0 .update
  | _, '<' :: _ => found 1 0 .read
  | _, '>' :: '&' :: _ =>
    match dialect, which with
    | .rich, .usual => some (2, fun word => .duplicate word)
    | _, _ => found 2 1 (.copy · true)
  | _, '>' :: '>' :: _ => found 2 1 (.write · .append)
  | _, '>' :: '|' :: _ => found 2 1 (.write · .forced)
  | _, '>' :: _ => found 1 1 (.write · .fresh)
  | _, _ => none

/-- The length of the operator that a text in the script is announced by, if it comes next, the
descriptor to read it from, and whether tabs in front of its lines are dropped. -/
def document? (dialect : Dialect) (cs : Octets) : Option (Nat × Nat × Bool) :=
  let (which, operator) := descriptor dialect cs
  let before := cs.length - operator.length
  let number := match which with
    | .number n => n
    | _ => 0
  match dialect, operator with
  | .rich, '<' :: '<' :: '<' :: _ => none
  | _, '<' :: '<' :: '-' :: _ => some (before + 3, number, true)
  | _, '<' :: '<' :: _ => some (before + 2, number, false)
  | _, _ => none

/-- The text in lines up to one that is its delimiter, and the lines after that. -/
def documentIn (dropTabs : Bool) (delimiter : Octets) : List Octets → Octets × List Octets
  | [] => ([], [])
  | line :: rest =>
    let line := if dropTabs then line.dropWhile (· == '\t') else line
    if line = delimiter then ([], rest)
    else
      let (text, after) := documentIn dropTabs delimiter rest
      (line ++ (if rest.isEmpty then text else '\n' :: text), after)

/-- Takes the text that starts on the next line and ends before a delimiter. -/
def takeDocument (dropTabs : Bool) (delimiter : Octets) : Reader Octets := do
  let i ← get
  let current := i.rest.takeWhile (· ≠ '\n')
  if current.length < i.rest.length then
    let lines := (i.rest.drop (current.length + 1)).splitOn '\n'
    let (text, after) := documentIn dropTabs delimiter lines
    let rest := current ++ '\n' :: List.intercalate ['\n'] after
    let fewer := i.rest.length - rest.length
    let insets := i.insets.map fun inset => { inset with after := inset.after - fewer }
    let dropped := i.dropped + (lines.length - 1 - (after.length - 1))
    modify fun i => { i with rest, dropped, insets }
    pure text
  else pure []

/-- The word that ends a text in the script, without its quotes, whether there were any, and what
follows. Dollar signs and backquotes have no meaning in it. -/
def delimiter (inQuotes : Option Char) : Octets → Octets × Bool × Octets
  | [] => ([], false, [])
  | c :: rest =>
    match inQuotes, c, rest with
    | none, '\\', d :: rest =>
      let (text, _, after) := delimiter none rest
      (d :: text, true, after)
    | some '"', '\\', d :: after =>
      let (text, quoted, left) := delimiter inQuotes after
      let kept := if d = '"' ∨ d = '\\' ∨ d = '$' ∨ d = '`' then d :: text else '\\' :: d :: text
      (kept, quoted, left)
    | none, c, rest =>
      if isMeta c then ([], false, c :: rest)
      else if c = '\'' ∨ c = '"' then
        let (text, _, after) := delimiter (some c) rest
        (text, true, after)
      else
        let (text, quoted, after) := delimiter none rest
        (c :: text, quoted, after)
    | some quote, c, rest =>
      if c = quote then delimiter none rest
      else
        let (text, quoted, after) := delimiter inQuotes rest
        (c :: text, quoted, after)

/-! ## Assignments and aliases -/

/-- What follows the bracket that closes a subscript, if one does. -/
def afterSubscript? (depth : Nat) (quote : Option Char) : Octets → Option Octets
  | [] => none
  | '\\' :: _ :: rest => afterSubscript? depth quote rest
  | c :: rest =>
    match quote with
    | some q => afterSubscript? depth (if c = q then none else quote) rest
    | none =>
      if c = '"' || c = '\'' then afterSubscript? depth (some c) rest
      else if c = '[' then afterSubscript? (depth + 1) none rest
      else if c = ']' then
        if depth = 0 then some rest else afterSubscript? (depth - 1) none rest
      else if c = '\n' then none
      else afterSubscript? depth none rest

/-- The sign of an assignment, if it comes next: whether it adds, and its length. -/
def assignmentSign? : Octets → Option (Bool × Nat)
  | '=' :: _ => some (false, 1)
  | '+' :: '=' :: _ => some (true, 2)
  | _ => none

/-- Whether the name of a variable and an equals sign come next; in the rich dialect with a
subscript or a plus sign between them perhaps. -/
def isAssignment (dialect : Dialect) (cs : Octets) : Bool :=
  let name := cs.takeWhile isNameRest
  let after := cs.drop name.length
  isName name &&
    match dialect, after with
    | .plain, _ => after.head? == some '='
    | .rich, '[' :: inner => ((afterSubscript? 0 none inner).bind assignmentSign?).isSome
    | .rich, _ => (assignmentSign? after).isSome

/-- Builtins of the rich dialect whose arguments may be assignments of arrays. -/
def declaring : List String :=
  ["declare", "typeset", "local", "export", "readonly"]

/-- Whether an alias may stand for the next word because the text of the one before it has ended in
a blank; the script had the given length when the word before was over. -/
def follows (before : Nat) : Reader Bool := do
  let i ← get
  pure (i.insets.any fun inset =>
    inset.spaced && i.rest.length ≤ inset.after && inset.after ≤ before)

/-- Puts the text of an alias in the place of the next word, if that is the name of one whose text
is not being read already; says whether it did. -/
def expandAlias : Reader Bool := do
  let i ← get
  match (plainWord? i.rest).filter fun _ => (redirection? i.dialect i.rest).isNone with
  | none => pure false
  | some word =>
    let name := word.toList
    let current := i.insets.filter fun inset => inset.after < i.rest.length
    match i.aliases.lookup name with
    | none => pure false
    | some text =>
      if current.any (·.name == name) then pure false
      else
        let after := i.rest.drop name.length
        let spaced := match text.getLast? with
          | some c => c == ' ' || c == '\t'
          | none => false
        set { i with
          rest := text ++ after
          insets := { name, after := after.length, spaced } :: current }
        pure true

/-! ## Commands -/

/-- A command on a line with redirections, if there are any. -/
def redirected (line : Nat) (command : Command) : List Redirection → Command
  | [] => command
  | several => .redirected line command several

/-- A simple command as far as it has been read. -/
structure Started : Type where
  line : Nat
  assignments : List Assignment := []
  words : List Word := []
  redirections : List Redirection := []
  /-- The length of the script when the last word was over. -/
  before : Nat

/-- Whether the arguments of a command may be assignments of arrays. -/
def Started.declares (c : Started) : Bool :=
  match c.words.head?.bind plainOctets? with
  | some name => declaring.contains (String.ofList name)
  | none => false

/-- Reserved words that end a list of commands. -/
def closers : List String :=
  ["then", "else", "elif", "fi", "do", "done", "esac", "\x7d"]

/-- Whether a list of commands ends before what comes next. -/
def closes : Reader Bool := do
  match ← operator?, ← reserved? with
  | some op, _ => pure ([")", ";;", ";&", ";;&"].contains op)
  | none, some word => pure (closers.contains word)
  | none, none => do pure (← peek).isEmpty

/-- A command in which what a stage of a pipeline says about errors goes with what it prints. -/
def withErrors (line : Nat) : Command → Command
  | .simple line assignments words redirections =>
    .simple line assignments words (redirections ++ [.copy 2 true [.text ['1'] false]])
  | command => redirected line command [.copy 2 true [.text ['1'] false]]

/-- The three parts of an arithmetic loop. -/
def loopParts? (word : Word) : Option (Word × Word × Word) :=
  let isCut : Part → Bool
    | .text [';'] _ => true
    | _ => false
  match word.splitOnP isCut with
  | [start, test, step] => some (start, test, step)
  | _ => none

/-- The tests of one operand in a condition. -/
def unaryTests : List String :=
  ["-a", "-b", "-c", "-d", "-e", "-f", "-g", "-G", "-h", "-k", "-L", "-n", "-N", "-o", "-O", "-p",
    "-r", "-R", "-s", "-S", "-t", "-u", "-v", "-w", "-x", "-z"]

/-- The tests of two operands in a condition that are words. -/
def binaryTests : List String :=
  ["=", "==", "!=", "=~", "-nt", "-ot", "-ef", "-eq", "-ne", "-lt", "-le", "-gt", "-ge"]

end Reader

end Fleet.Shell
