import Fleet.Awk.Patterns
import Fleet.Decimal.Binary
import Fleet.Tools.Regex

/-!
# The text of a program

What a program consists of, and the tokens that it is read from.
-/

/-!
## Programs that act on records

A program is a list of rules: what is done at the start, with each record of the input that a
pattern selects, and at the end. There are functions besides. Expressions and statements are what is
written, with the names as they stand.
-/

namespace Fleet.Awk

open Tools (Regex)

/-- The functions that are always there. -/
inductive Function : Type where
  | atan2
  | close
  | cos
  | exp
  | fflush
  | gsub
  | index
  | int
  | length
  | log
  | locate
  | mktime
  | rand
  | sin
  | split
  | sprintf
  | sqrt
  | srand
  | strftime
  | sub
  | substr
  | system
  | systime
  | tolower
  | toupper
  deriving Repr, DecidableEq

/-- What is worked out from two numbers. -/
inductive Operation : Type where
  | add
  | subtract
  | multiply
  | divide
  | remainder
  | power
  deriving Repr, DecidableEq

/-- How two values are compared. -/
inductive Relation : Type where
  | less
  | atMost
  | equal
  | unequal
  | greater
  | atLeast
  deriving Repr, DecidableEq

mutual

/-- What can be given a value. -/
inductive Place : Type where
  | named (name : Octets)
  | element (table : Octets) (indices : List Expression)
  | field (index : Expression)
  deriving Repr

/-- An expression. -/
inductive Expression : Type where
  | number (x : Float)
  | text (octets : Octets)
  /-- A regular expression; by itself it asks whether the record matches. -/
  | regex (r : Regex)
  | value (place : Place)
  /-- A place between parentheses, which cannot be given a value there. -/
  | plain (place : Place)
  | assign (place : Place) (operation : Option Operation) (new : Expression)
  /-- One more or one less; the value is the one before or after that. -/
  | step (place : Place) (up : Bool) (before : Bool)
  | operate (operation : Operation) (left right : Expression)
  | plus (inner : Expression)
  | minus (inner : Expression)
  | negation (inner : Expression)
  | compare (relation : Relation) (left right : Expression)
  | join (left right : Expression)
  | matching (holds : Bool) (subject pattern : Expression)
  | both (left right : Expression)
  | either (left right : Expression)
  | choice (condition first second : Expression)
  | contains (indices : List Expression) (table : Octets)
  | call (name : Octets) (arguments : List Expression)
  | apply (function : Function) (arguments : List Expression)
  /-- Reads the next line of the input, of a file, or of what a command prints. -/
  | read (source : Source) (place : Option Place)
  deriving Repr

/-- Where a line is read from. -/
inductive Source : Type where
  | records
  | file (path : Expression)
  | command (text : Expression)
  deriving Repr

end

/-- Where something is printed. -/
inductive Outlet : Type where
  | usual
  /-- A file, which may keep what is in it. -/
  | file (keeps : Bool) (path : Expression)
  | command (text : Expression)
  deriving Repr

/-- A statement. -/
inductive Statement : Type where
  | expression (e : Expression)
  | print (values : List Expression) (outlet : Outlet)
  | printFormatted (values : List Expression) (outlet : Outlet)
  | block (statements : List Statement)
  | branch (condition : Expression) (first : Statement) (second : Option Statement)
  | loop (condition : Expression) (body : Statement)
  /-- A loop whose condition is asked after each round. -/
  | loopAfter (body : Statement) (condition : Expression)
  | count (start : Option Expression) (condition step : Option Expression) (body : Statement)
  | forEach (name table : Octets) (body : Statement)
  | delete (table : Octets) (indices : Option (List Expression))
  | breakOff
  | goOn
  | next
  | nextFile
  | exit (code : Option Expression)
  | giveBack (value : Option Expression)
  deriving Repr

/-- When a rule applies. -/
inductive Pattern : Type where
  | start
  | finish
  | always
  | when (condition : Expression)
  /-- From a record to another one; rules of this kind are numbered. -/
  | between (number : Nat) (first last : Expression)
  deriving Repr

/-- A rule. Without an action the record is printed. -/
structure Rule : Type where
  pattern : Pattern
  action : Option (List Statement)
  deriving Repr

/-- A function of the program. -/
structure Definition : Type where
  name : Octets
  parameters : List Octets
  body : List Statement
  deriving Repr

/-- A program. -/
structure Script : Type where
  rules : List Rule := []
  definitions : List Definition := []
  deriving Repr

end Fleet.Awk

/-!
## The tokens of a program

A text is cut into numbers, texts between quotes, regular expressions between slashes, names and
operators. Whether a slash starts a regular expression or divides depends on the token in front of
it. Ends of lines matter only where a statement could end.
-/

namespace Fleet.Awk

open Tools (Regex)

/-- A token of a program. -/
inductive Token : Type where
  | number (x : Float)
  | text (octets : Octets)
  | regex (r : Regex)
  | name (name : Octets)
  /-- A name with a parenthesis right behind it. -/
  | called (name : Octets)
  | function (f : Function)
  | word (word : String)
  | operator (symbol : String)
  | lineEnd
  | finish
  deriving Repr

/-- A token and the number of its line. -/
structure Placed : Type where
  token : Token
  line : Nat
  deriving Repr

namespace Token

/-- Whether a token is some operator. -/
def isOperator (t : Token) (symbol : String) : Bool :=
  match t with
  | operator own => own == symbol
  | _ => false

/-- Whether a token is some word. -/
def isWord (t : Token) (word : String) : Bool :=
  match t with
  | .word own => own == word
  | _ => false

/-- Whether what follows divides if it is a slash. -/
def mayBeDivided : Token → Bool
  | number _ | text _ | regex _ | name _ => true
  | operator s => [")", "]", "++", "--"].contains s
  | word w => w == "getline"
  | _ => false

/-- Whether an end of the line behind a token means nothing. -/
def goesOn : Token → Bool
  | lineEnd => true
  | operator s => [";", "\x7b", "\x7d", "&&", "||", ","].contains s
  | word w => w == "do" || w == "else"
  | _ => false

end Token

/-- The functions that are always there, by their names. -/
def functions : List (String × Function) :=
  [("atan2", .atan2), ("close", .close), ("cos", .cos), ("exp", .exp), ("fflush", .fflush),
    ("gsub", .gsub), ("index", .index), ("int", .int), ("length", .length), ("log", .log),
    ("match", .locate), ("mktime", .mktime), ("rand", .rand), ("sin", .sin), ("split", .split),
    ("sprintf", .sprintf), ("sqrt", .sqrt), ("srand", .srand), ("strftime", .strftime),
    ("sub", .sub), ("substr", .substr), ("system", .system), ("systime", .systime),
    ("tolower", .tolower), ("toupper", .toupper)]

/-- The words with a meaning of their own. -/
def words : List String :=
  ["BEGIN", "END", "break", "continue", "delete", "do", "else", "exit", "for", "function",
    "getline", "if", "in", "next", "nextfile", "print", "printf", "return", "while"]

/-- The operators, the longer ones first. -/
def operators : List String :=
  ["&&", "||", "!~", "==", "!=", "<=", ">=", ">>", "++", "--", "+=", "-=", "*=", "/=", "%=", "^=",
    "\x7b", "\x7d", "(", ")", "[", "]", ";", ",", "+", "-", "*", "/", "%", "^", "!", "<", ">", "|",
    "?", ":", "~", "$", "="]

/-- What is wrong with the text of a program. -/
inductive TextFault : Type where
  | runawayText (start : Octets)
  | runawayRegex (start : Octets)
  | badRegex (source : Octets) (fault : Pattern.Fault)
  | unexpected (c : Char)
  | overflow (source : Octets)
  deriving Repr

/-- What is said about the text of a program. -/
def TextFault.message (line : Nat) : TextFault → Octets
  | .runawayText start =>
    ("line " ++ toString line ++ ": runaway string constant \"").toList ++ start ++ " ...".toList
  | .runawayRegex start =>
    ("line " ++ toString line ++ ": runaway regular expression /").toList ++ start ++ " ...".toList
  | .badRegex source fault =>
    ("line " ++ toString line ++ ": regular expression compile failed (" ++ fault.message ++
      ")\n").toList ++ source
  | .unexpected c => (toString line ++ ": unexpected character '").toList ++ [c, '\'']
  | .overflow source =>
    ("line " ++ toString line ++ ": ").toList ++ source ++ " : decimal overflow".toList

/-- The text up to the quote that closes it, and what follows; none if no quote closes it. -/
def quoted? : Octets → Option (Octets × Octets)
  | [] => none
  | '"' :: rest => some ([], rest)
  | '\n' :: _ => none
  | '\\' :: c :: rest => (quoted? rest).map fun (own, rest) => ('\\' :: c :: own, rest)
  | c :: rest => (quoted? rest).map fun (own, rest) => (c :: own, rest)

/-- The text up to the slash that closes a regular expression, and what follows; none if no slash
closes it. Slashes in a set close nothing. -/
def slashed? (boxed : Bool) : Octets → Option (Octets × Octets)
  | [] => none
  | '\n' :: _ => none
  | '\\' :: '/' :: rest => (slashed? boxed rest).map fun (own, rest) => ('/' :: own, rest)
  | '\\' :: c :: rest => (slashed? boxed rest).map fun (own, rest) => ('\\' :: c :: own, rest)
  | '[' :: '^' :: ']' :: rest =>
    if boxed then (slashed? boxed (']' :: rest)).map fun (own, rest) => ('[' :: '^' :: own, rest)
    else (slashed? true rest).map fun (own, rest) => ('[' :: '^' :: ']' :: own, rest)
  | '[' :: ']' :: rest =>
    if boxed then (slashed? false rest).map fun (own, rest) => ('[' :: ']' :: own, rest)
    else (slashed? true rest).map fun (own, rest) => ('[' :: ']' :: own, rest)
  | '/' :: rest =>
    if boxed then (slashed? boxed rest).map fun (own, rest) => ('/' :: own, rest)
    else some ([], rest)
  | c :: rest =>
    let boxed := if c = '[' then true else if c = ']' then false else boxed
    (slashed? boxed rest).map fun (own, rest) => (c :: own, rest)

/-- Whether an octet may start a name. -/
def startsName (c : Char) : Bool :=
  c.isAlpha || c == '_'

/-- Whether an octet may be part of a name. -/
def isInName (c : Char) : Bool :=
  c.isAlphanum || c == '_'

/-- The token that a name is; `next` is what follows it. -/
def nameToken (name : Octets) (next : Option Char) : Token :=
  let text := String.ofList name
  if words.contains text then .word text
  else
    match functions.lookup text with
    | some f => .function f
    | none => if next = some '(' then .called name else .name name

/-- The number that a text starts with, and what follows, or the number that cannot be held. -/
def numberOf (text : Octets) : Except Octets (Float × Octets) :=
  let whole := text.takeWhile Char.isDigit
  let rest := text.drop whole.length
  let (fraction, rest) :=
    match rest with
    | '.' :: after => ('.' :: after.takeWhile Char.isDigit, after.dropWhile Char.isDigit)
    | after => ([], after)
  let (_, after) := Decimal.scanExponent 'e' rest
  let source := whole ++ fraction ++ rest.take (rest.length - after.length)
  match Decimal.scan? .double source with
  | some found => if found.outOfRange then .error source else .ok (found.value.toFloat, after)
  | none => .ok (0, after)

/-- Whether a text starts with a number. -/
def startsNumber : Octets → Bool
  | '.' :: d :: _ => d.isDigit
  | d :: _ => d.isDigit
  | [] => false

/-- The tokens of a text; `before` is the token in front of it, and `line` the number of its first
line. A fault comes with its line. -/
def tokensFrom : Nat → Token → Nat → Octets → Except (Nat × TextFault) (List Placed)
  | 0, _, line, _ => pure [⟨.finish, line⟩]
  | n + 1, before, line, text => do
    let give (t : Token) (rest : Octets) : Except (Nat × TextFault) (List Placed) := do
      pure (⟨t, line⟩ :: (← tokensFrom n t line rest))
    match text with
    | [] => pure [⟨.finish, line⟩]
    | '\n' :: rest =>
      if before.goesOn then tokensFrom n before (line + 1) rest
      else do pure (⟨.lineEnd, line⟩ :: (← tokensFrom n .lineEnd (line + 1) rest))
    | '\\' :: '\n' :: rest => tokensFrom n before (line + 1) rest
    | '#' :: rest => tokensFrom n before line (rest.dropWhile (· ≠ '\n'))
    | '"' :: rest =>
      match quoted? rest with
      | some (source, after) => do
        let lines := source.count '\n'
        pure (⟨.text (textOf source), line⟩ ::
          (← tokensFrom n (.text []) (line + lines) after))
      | none => throw (line, .runawayText (rest.takeWhile (· ≠ '\n')))
    | c :: rest =>
      if c = ' ' || c = '\t' || c = '\r' || c = '\x0B' || c = '\x0C' then
        tokensFrom n before line rest
      else if startsName c then
        let name := text.takeWhile isInName
        let after := text.drop name.length
        give (nameToken name after.head?) after
      else if startsNumber text then
        match numberOf text with
        | .ok (x, after) => give (.number x) after
        | .error source => throw (line, .overflow source)
      else if c = '/' && !before.mayBeDivided then
        match slashed? false rest with
        | some (source, after) =>
          match Pattern.parse source with
          | .ok r => give (.regex r) after
          | .error fault => throw (line, .badRegex source fault)
        | none => throw (line, .runawayRegex (rest.takeWhile (· ≠ '\n')))
      else
        match operators.find? fun s => s.toList.isPrefixOf text with
        | some s => give (.operator s) (text.drop s.length)
        | none => throw (line, .unexpected c)

/-- The tokens of a program, each with its line. Whatever its end is, a line ends there. -/
def tokensOf (text : Octets) : Except (Nat × TextFault) (List Placed) :=
  tokensFrom (text.length + 2) .lineEnd 1 (text ++ ['\n'])

end Fleet.Awk
