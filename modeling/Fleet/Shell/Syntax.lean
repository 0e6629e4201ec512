import Fleet.Text.Octets

/-!
# The syntax of shell scripts

Words are made of parts, some of which are worked out when the word is used. Commands are simple,
joined by operators, or compound. There are two shells: a plain one, and a rich one with arrays,
conditions, arithmetic commands and more forms of parameters.
-/

namespace Fleet.Shell

/-- The shell that a script is written for. -/
inductive Dialect : Type where
  | plain
  | rich
  deriving Repr, DecidableEq

/-- What is done with the value of a parameter that may be missing. -/
inductive Remedy : Type where
  /-- Another word stands in for it. -/
  | standIn
  /-- Another word stands in for it and is assigned. -/
  | assign
  /-- It is an error. -/
  | complain
  /-- Another word stands in for a value that is not missing. -/
  | replace
  deriving Repr, DecidableEq

/-- What becomes of a file that is there already when it is opened for writing. -/
inductive Opening : Type where
  /-- It is emptied, unless an option of the shell protects files. -/
  | fresh
  /-- It is emptied. -/
  | forced
  /-- Text is added at its end. -/
  | append
  deriving Repr, DecidableEq

/-- Where a pattern has to match the value of a parameter. -/
inductive Anchor : Type where
  | anywhere
  | everywhere
  | start
  | finish
  deriving Repr, DecidableEq

/-- What happens to the letters of a value. -/
inductive Recasing : Type where
  | upper
  | lower
  | swapped
  deriving Repr, DecidableEq

/-- What follows a branch of a choice whose commands were run. -/
inductive Onward : Type where
  /-- Nothing more of the choice. -/
  | stop
  /-- The commands of the next branch. -/
  | fall
  /-- The next branch with a pattern that matches. -/
  | retry
  deriving Repr, DecidableEq

mutual

/-- A part of a word. A quoted part is neither split into fields nor matched with file names. -/
inductive Part : Type where
  | text (octets : Octets) (quoted : Bool)
  | parameter (subject : Subject) (use : Use) (quoted : Bool)
  /-- What a script prints. -/
  | output (script : List Command) (quoted : Bool)
  /-- The value of an arithmetic expression. -/
  | arithmetic (expression : List Part) (quoted : Bool)
  /-- The path of a file that a script writes or reads. -/
  | channel (reads : Bool) (script : List Command)
  /-- The elements of an array, as the value of an assignment. -/
  | elements (items : List Item)

/-- What a parameter is. -/
inductive Subject : Type where
  | named (name : Octets)
  /-- An element of an array. -/
  | element (array : Octets) (subscript : List Part)
  /-- All elements of an array. -/
  | whole (array : Octets) (joined : Bool)
  /-- What is named by the value of another one. -/
  | indirect (of : Subject)

/-- What is made of the value of a parameter. -/
inductive Use : Type where
  | value
  | length
  /-- Something else, if the value is missing or, where asked for, empty. -/
  | remedy (remedy : Remedy) (orEmpty : Bool) (word : List Part)
  /-- The value without what a pattern matches at one of its ends. -/
  | trim (atEnd longest : Bool) (pattern : List Part)
  /-- A piece of the value, or some of several values. -/
  | slice (offset : List Part) (length : Option (List Part))
  /-- The value with another text in place of what a pattern matches. -/
  | exchange (anchor : Anchor) (pattern replacement : List Part)
  /-- The value with its first or all letters changed that a pattern matches. -/
  | recase (recasing : Recasing) (all : Bool) (pattern : List Part)
  /-- The value transformed in the way that a letter says. -/
  | transform (letter : Char)
  /-- The names of variables that start with the name. -/
  | names (joined : Bool)
  /-- The subscripts of an array. -/
  | subscripts (joined : Bool)
  /-- Nothing: it is a mistake that is noticed when the parameter is used. -/
  | mistake (source : Octets)

/-- An element of an array that is assigned, perhaps at a subscript, and perhaps added to what is
there. -/
inductive Item : Type where
  | item (subscript : Option (List Part)) (adds : Bool) (value : List Part)

/-- A change of one of the files that a command has open. -/
inductive Redirection : Type where
  /-- Reads from a file. -/
  | read (descriptor : Nat) (file : List Part)
  /-- Reads from a file and writes to it; it is made if it is missing. -/
  | update (descriptor : Nat) (file : List Part)
  | write (descriptor : Nat) (opening : Opening) (file : List Part)
  /-- Uses what another descriptor stands for, or nothing if the word is a hyphen. -/
  | copy (descriptor : Nat) (writes : Bool) (source : List Part)
  /-- Reads a text that stands in the script itself. -/
  | document (descriptor : Nat) (text : List Part)
  /-- Reads a word and a line end. -/
  | line (descriptor : Nat) (word : List Part)
  /-- Writes to what another descriptor stands for; if the word is no number, writes both what is
  printed and what is said about errors to a file. -/
  | duplicate (word : List Part)
  /-- Writes both what is printed and what is said about errors to a file. -/
  | both (opening : Opening) (file : List Part)
  /-- A redirection of a free descriptor, the number of which a variable is given. -/
  | naming (name : Octets) (redirection : Redirection)

/-- A value for a variable or an element of an array, perhaps added to what is there. -/
inductive Assignment : Type where
  | assignment (name : Octets) (subscript : Option (List Part)) (adds : Bool) (value : List Part)

/-- A condition between double brackets. -/
inductive Condition : Type where
  | word (word : List Part)
  | unary (operator : Octets) (operand : List Part)
  | binary (operator : Octets) (left right : List Part)
  | negation (condition : Condition)
  | both (left right : Condition)
  | either (left right : Condition)

/-- A command. Some know the line of the script that they start on. -/
inductive Command : Type where
  /-- Assignments, words and redirections. -/
  | simple (line : Nat) (assignments : List Assignment) (words : List (List Part))
      (redirections : List Redirection)
  /-- Commands, each of which reads what the one before it prints. -/
  | pipeline (commands : List Command)
  /-- Runs beside what follows. -/
  | background (line : Nat) (command : Command)
  | negated (command : Command)
  /-- Says how long a command takes. -/
  | timed (short : Bool) (command : Command)
  | andThen (first second : Command)
  | orElse (first second : Command)
  /-- Runs in a process of its own, with some files open there. -/
  | subshell (line : Nat) (body : List Command) (redirections : List Redirection)
  /-- Runs with some files open. -/
  | redirected (line : Nat) (command : Command) (redirections : List Redirection)
  | group (body : List Command)
  | conditional (test thenBranch elseBranch : List Command)
  /-- Runs the body as long as the test succeeds, or as long as it fails. -/
  | loop (whileFails : Bool) (test body : List Command)
  /-- Runs the body for each word; without words for each argument. -/
  | forEach (line : Nat) (name : Octets) (words : Option (List (List Part)))
      (body : List Command)
  /-- Runs the body as long as an expression is not zero, after one and before another. -/
  | counting (line : Nat) (start test step : List Part) (body : List Command)
  /-- Runs the body for the words that are chosen from a list. -/
  | select (line : Nat) (name : Octets) (words : Option (List (List Part)))
      (body : List Command)
  /-- Runs the branch of the first pattern that matches. -/
  | choose (line : Nat) (word : List Part)
      (branches : List (List (List Part) × List Command × Onward))
  /-- Succeeds if a condition holds. -/
  | condition (line : Nat) (condition : Condition)
  /-- Succeeds if an expression is not zero. -/
  | compute (line : Nat) (expression : List Part)
  /-- Defines a function. -/
  | define (line : Nat) (name : Octets) (body : Command)

end

/-- A word. -/
abbrev Word : Type :=
  List Part

/-- The octets of a word without any quoting. -/
def plainOctets? : Word → Option Octets
  | [] => some []
  | .text octets false :: rest => (plainOctets? rest).map (octets ++ ·)
  | _ => none

/-- A character that may start a name. -/
def isNameStart (c : Char) : Bool :=
  c.isAlpha || c == '_'

/-- A character that may continue a name. -/
def isNameRest (c : Char) : Bool :=
  c.isAlphanum || c == '_'

/-- A name of a variable or a function. -/
def isName : Octets → Bool
  | [] => false
  | c :: rest => isNameStart c && rest.all isNameRest

/-- A character that ends a word unless it is quoted. -/
def isMeta (c : Char) : Bool :=
  c == ' ' || c == '\t' || c == '\n' || c == ';' || c == '&' || c == '|' || c == '<' || c == '>' ||
    c == '(' || c == ')'

/-- Words that have a meaning of their own where a command may start. -/
def reservedWords : List String :=
  ["!", "\x7b", "\x7d", "case", "do", "done", "elif", "else", "esac", "fi", "for", "if", "in",
    "then", "until", "while"]

/-- Words that have a meaning of their own in a dialect where a command may start. -/
def Dialect.reservedWords : Dialect → List String
  | .plain => Shell.reservedWords
  | .rich => Shell.reservedWords ++ ["[[", "]]", "function", "select", "time", "coproc"]

/-- Builtins whose assignments stay and whose mistakes end the script. -/
def specialBuiltins : List String :=
  [":", ".", "break", "continue", "eval", "exec", "exit", "export", "local", "readonly", "return",
    "set", "shift", "times", "trap", "unset"]

end Fleet.Shell
