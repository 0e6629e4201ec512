import Fleet.Toml.Number

/-!
# From text to a table

The statements of a document, and the table that they build up.
-/

/-!
## Statements of TOML

A document is a sequence of statements, one a line: headers that say which table the next lines
belong to, and assignments. What the statements amount to is another matter.
-/

namespace Fleet.Toml

/-- The keys that lead from a table to a value inside it. -/
abbrev KeyPath : Type :=
  List String

/-- A line of a document. -/
inductive Statement : Type where
  /-- The lines below belong to the table that the path leads to. -/
  | header (path : KeyPath)
  /-- The lines below belong to a new table of the array that the path leads to. -/
  | element (path : KeyPath)
  /-- The path leads to the value. -/
  | assign (path : KeyPath) (value : Value)
  deriving Repr

/-- The entries with an assignment between braces added. A path goes through tables that dotted
keys have made, and through no other. -/
def Entries.assign (value : Value) : KeyPath → Entries → Option Entries
  | [], _ => none
  | [key], entries => if (entries.lookup key).isSome then none else some (entries.put key value)
  | key :: path, entries =>
    match entries.lookup key with
    | none => do
      let inner ← assign value path []
      pure (entries.put key (.table .dotted inner))
    | some (.table .dotted inner) => do
      let inner ← assign value path inner
      pure (entries.put key (.table .dotted inner))
    | some _ => none

/-- Reads from the front of the characters that are left. -/
abbrev Reader : Type → Type :=
  StateT (List Char) Option

namespace Reader

/-- What is left. -/
def peek : Reader (List Char) :=
  get

/-- Takes a character if it comes next. -/
def accept (c : Char) : Reader Bool := do
  match ← get with
  | d :: rest =>
    if c = d then
      set rest
      pure true
    else pure false
  | [] => pure false

/-- Takes a character that has to come next. -/
def expect (c : Char) : Reader Unit := do
  unless ← accept c do failure

/-- Skips the blanks of the line. -/
def blanks : Reader Unit :=
  modify (·.dropWhile isBlank)

/-- What is left after blanks, comments and line ends; `comment` says that a comment has begun. -/
def dropGap? (comment : Bool) : List Char → Option (List Char)
  | [] => some []
  | '\n' :: rest => dropGap? false rest
  | '\r' :: '\n' :: rest => dropGap? false rest
  | c :: rest =>
    if comment then if isPlain c then dropGap? true rest else none
    else if c = '#' then dropGap? true rest
    else if isBlank c then dropGap? false rest
    else some (c :: rest)

/-- Skips blanks, comments and line ends. -/
def gap : Reader Unit := do
  match dropGap? false (← get) with
  | some rest => set rest
  | none => failure

/-- Checks that nothing but a comment is left on the line. -/
def lineEnd : Reader Unit := do
  blanks
  match ← get with
  | [] | '#' :: _ | '\n' :: _ | '\r' :: '\n' :: _ => pure ()
  | _ => failure

/-- A character of a key without quotes. -/
def isKeyChar (c : Char) : Bool :=
  c.isAlphanum || c == '-' || c == '_'

/-- A character of a value without quotes. -/
def isWordChar (c : Char) : Bool :=
  !"=,[]{} \t#\r\n".toList.contains c

/-- The characters in front that satisfy a test. -/
def span (test : Char → Bool) : Reader (List Char) := do
  let cs ← get
  set (cs.dropWhile test)
  pure (cs.takeWhile test)

/-- Takes what a function reads. -/
def lift (read : List Char → Option Read) : Reader String := do
  match read (← get) with
  | some (text, rest) =>
    set rest
    pure (String.ofList text)
  | none => failure

/-- A single key. -/
def key : Reader String := do
  match ← get with
  | '"' :: _ | '\'' :: _ => lift readQuoted
  | _ =>
    let cs ← span isKeyChar
    if cs.isEmpty then failure
    pure (String.ofList cs)

/-- A value without quotes. A blank is part of it where a time follows a date. -/
def word : Reader (List Char) := do
  let first ← span isWordChar
  match ← get with
  | ' ' :: c :: rest =>
    if isWordChar c && (Moment.read? first).isSome then
      set (c :: rest)
      pure (first ++ ' ' :: (← span isWordChar))
    else pure first
  | _ => pure first

/-- How many keys a path may have, and how deep values may be nested. -/
def limit : Nat :=
  80

/-- Keys with dots between them, at most the given number, and the blanks after them. -/
def keys : Nat → Reader KeyPath
  | 0 => failure
  | n + 1 => do
    let first ← key
    blanks
    if ← accept '.' then
      blanks
      pure (first :: (← keys n))
    else pure [first]

mutual

/-- A value inside so many others. The fuel bounds the number of parts. -/
def value (depth : Nat) : Nat → Reader Value
  | 0 => failure
  | n + 1 => do
    match ← get with
    | '"' :: _ | '\'' :: _ => .text <$> lift readText
    | '[' :: rest =>
      if depth = limit then failure
      set rest
      .array <$> values (depth + 1) n
    | '{' :: rest =>
      if depth = limit then failure
      set rest
      .table .inlined <$> assignments (depth + 1) n []
    | _ =>
      match readWord? (← word) with
      | some v => pure v
      | none => failure

/-- The values up to a closing bracket. -/
def values (depth : Nat) : Nat → Reader (List Value)
  | 0 => failure
  | n + 1 => do
    gap
    if ← accept ']' then pure []
    else
      let first ← value depth n
      gap
      if ← accept ',' then pure (first :: (← values depth n))
      else
        expect ']'
        pure [first]

/-- The assignments up to a closing brace, added to the given ones. Lines may end between the parts
of an assignment, though not within a path. -/
def assignments (depth : Nat) : Nat → Entries → Reader Entries
  | 0, _ => failure
  | n + 1, entries => do
    gap
    if ← accept '}' then pure entries
    else
      let path ← keys limit
      gap
      expect '='
      gap
      let assigned ← value depth n
      match entries.assign assigned path with
      | none => failure
      | some entries =>
        gap
        if ← accept ',' then assignments depth n entries
        else
          expect '}'
          pure entries

end

/-- One statement. -/
def statement (fuel : Nat) : Reader Statement := do
  if ← accept '[' then
    let inArray ← accept '['
    blanks
    let path ← keys limit
    expect ']'
    if inArray then
      expect ']'
      pure (.element path)
    else pure (.header path)
  else
    let path ← keys limit
    expect '='
    blanks
    pure (.assign path (← value 0 fuel))

/-- All statements, at most the given number. -/
def statements (fuel : Nat) : Nat → Reader (List Statement)
  | 0 => failure
  | n + 1 => do
    gap
    if (← peek).isEmpty then pure []
    else
      let first ← statement fuel
      lineEnd
      pure (first :: (← statements fuel n))

end Reader

/-- The statements of a document; a mark of the byte order in front is passed over. -/
def statements? (text : String) : Option (List Statement) :=
  let cs :=
    match text.toList with
    | '\uFEFF' :: rest => rest
    | cs => cs
  let fuel := 2 * cs.length + 2
  ((Reader.statements fuel fuel).run cs).map Prod.fst

/-!
## TOML documents

The statements of a document build up one table. No table is defined twice: a header may complete
a table that only headers of inner tables have named so far, and a dotted key may add to tables
that dotted keys have made. Tables between braces are complete as they stand.
-/

/-- The last of several tables, replaced by what a function makes of it. -/
def updateLast (f : Entries → Option Entries) : List Entries → Option (List Entries)
  | [] => none
  | [last] => (f last).map ([·])
  | first :: rest => (updateLast f rest).map (first :: ·)

namespace Entries

/-- Follows the path of a header, and replaces the entries it leads to by what a function makes
of them. Tables that are missing on the way are implied. -/
def follow (f : Entries → Option Entries) : KeyPath → Entries → Option Entries
  | [], entries => f entries
  | key :: path, entries =>
    match entries.lookup key with
    | none => do pure (entries.put key (.table .implied (← follow f path [])))
    | some (.table form inner) =>
      if form = .inlined then none
      else do pure (entries.put key (.table form (← follow f path inner)))
    | some (.tables elements) => do
      pure (entries.put key (.tables (← updateLast (follow f path) elements)))
    | some _ => none

/-- Adds an assignment of a line. The tables on the way are made by dotted keys only, except that
tables implied by headers are passed through. -/
def assignLine (value : Value) : (form : Form) → KeyPath → Entries → Option Entries
  | _, [], _ => none
  | form, [key], entries =>
    if form = .implied ∨ (entries.lookup key).isSome then none else some (entries.put key value)
  | _, key :: path, entries =>
    match entries.lookup key with
    | none => do pure (entries.put key (.table .dotted (← assignLine value .dotted path [])))
    | some (.table form inner) =>
      if form = .dotted ∨ form = .implied then do
        pure (entries.put key (.table form (← assignLine value form path inner)))
      else none
    | some _ => none

/-- Defines the table of a header, which must not have been defined before. -/
def define (key : String) (entries : Entries) : Option Entries :=
  match entries.lookup key with
  | none => some (entries.put key (.table .explicit []))
  | some (.table .implied inner) => some (entries.put key (.table .explicit inner))
  | some _ => none

/-- Adds a table to the array of a header. -/
def extend (key : String) (entries : Entries) : Option Entries :=
  match entries.lookup key with
  | none => some (entries.put key (.tables [[]]))
  | some (.tables elements) => some (entries.put key (.tables (elements ++ [[]])))
  | some _ => none

end Entries

/-- The table so far, and the path of the table that lines belong to. -/
structure Draft : Type where
  root : Entries
  current : KeyPath
  deriving Repr

namespace Draft

/-- Adds a statement. -/
def add (d : Draft) : Statement → Option Draft
  | .header path => do
    let key ← path.getLast?
    pure ⟨← d.root.follow (Entries.define key) path.dropLast, path⟩
  | .element path => do
    let key ← path.getLast?
    pure ⟨← d.root.follow (Entries.extend key) path.dropLast, path⟩
  | .assign path value => do
    pure { d with root := ← d.root.follow (Entries.assignLine value .explicit path) d.current }

end Draft

/-- The table of a document. -/
def parse? (text : String) : Option Entries := do
  let statements ← statements? text
  let draft ← statements.foldlM Draft.add ⟨[], []⟩
  pure draft.root

end Fleet.Toml
