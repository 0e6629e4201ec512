import Fleet.Shell.Pattern
import Fleet.Tools.Regex.Parser
import Fleet.Tools.Status

/-!
# Expressions about files

What the tool `find` is asked for: tests that a file passes or fails, and what is done with the
files that get so far, with operators between them.
-/

namespace Fleet.Tools.Finding

open Shell

/-- How a number is compared with another one. -/
inductive Comparison : Type where
  | exactly
  | more
  | less
  deriving Repr, DecidableEq

/-- Whether a number compares as it should. -/
def Comparison.holds (c : Comparison) (n bound : Nat) : Bool :=
  match c with
  | exactly => n == bound
  | more => bound < n
  | less => n < bound

/-- Which bits of permissions have to be there. -/
inductive Bits : Type where
  | exactly
  | every
  | some
  deriving Repr, DecidableEq

/-- A test of a file. -/
inductive Test : Type where
  | name (pattern : Octets) (folds : Bool)
  | path (pattern : Octets) (folds : Bool)
  | regex (dialect : Regex.Dialect) (regex : Regex)
  | linkTo (pattern : Octets) (folds : Bool)
  /-- The letters of the kinds of files; a link may be followed. -/
  | kind (letters : Octets) (follows : Bool)
  | size (comparison : Comparison) (unit bound : Nat)
  | empty
  | executable
  | mode (bits : Bits) (mode : Nat)
  | links (comparison : Comparison) (bound : Nat)
  /-- How old the file is, which is nothing. -/
  | age (comparison : Comparison) (bound : Nat)
  /-- It is the file at a path. -/
  | same (path : Octets)
  | constant (value : Bool)

/-- What is done with a file. -/
inductive Action : Type where
  | print (stop : Char)
  | form (text : Octets)
  | delete
  /-- Goes no deeper. -/
  | prune
  | quit
  /-- Runs a program, perhaps from the directory of the file. -/
  | run (words : List Octets) (within : Bool)
  /-- Runs a program with many files in the end. -/
  | collect (number : Nat) (words : List Octets) (within : Bool)

/-- An expression about files. -/
inductive Expression : Type where
  | test (test : Test)
  | action (action : Action)
  | negation (inner : Expression)
  | both (first second : Expression)
  | either (first second : Expression)
  /-- Both are looked at; the second counts. -/
  | sequence (first second : Expression)

namespace Expression

/-- Whether something is done with files. -/
def acts : Expression → Bool
  | test _ => false
  | action .prune | action .quit => false
  | action _ => true
  | negation inner => inner.acts
  | both first second | either first second | sequence first second =>
    first.acts || second.acts

/-- Whether files are removed. -/
def deletes : Expression → Bool
  | action .delete => true
  | test _ | action _ => false
  | negation inner => inner.deletes
  | both first second | either first second | sequence first second =>
    first.deletes || second.deletes

/-- The programs that are run with many files. -/
def collections : Expression → List (Nat × List Octets × Bool)
  | action (.collect number words within) => [(number, words, within)]
  | test _ | action _ => []
  | negation inner => inner.collections
  | both first second | either first second | sequence first second =>
    first.collections ++ second.collections

end Expression

/-- What holds for the whole search. -/
structure Settings : Type where
  deepest : Option Nat := none
  least : Nat := 0
  /-- Whether what is below a directory comes before it. -/
  depthFirst : Bool := false
  /-- Whether links are followed: never, those that are named, or all. -/
  follows : Char := 'P'
  dialect : Regex.Form := .basic

/-- What is left of an expression, and what was found out about the search. -/
structure Input : Type where
  rest : List Octets
  settings : Settings
  /-- How many programs are run with many files. -/
  collected : Nat := 0
  /-- What stands before. -/
  before : Octets := []
  process : Process

/-- Reads from the front of an expression. -/
abbrev Reader : Type → Type :=
  StateT Input (Except Octets)

/-- What comes next. -/
def peek : Reader (Option Octets) := do
  pure (← get).rest.head?

/-- Takes what comes next. -/
def advance : Reader Unit :=
  modify fun i => { i with rest := i.rest.tail, before := i.rest.headD [] }

/-- The argument of a test, which has to be there. -/
def argument (name : Octets) : Reader Octets := do
  match ← peek with
  | some text => do
    advance
    pure text
  | none => throw ("missing argument to `".toList ++ name ++ ['\''])

/-- A number, perhaps with a sign for how it is compared. -/
def compared? (text : Octets) : Option (Comparison × Nat) :=
  let (comparison, digits) : Comparison × Octets :=
    match text with
    | '+' :: rest => (.more, rest)
    | '-' :: rest => (.less, rest)
    | rest => (.exactly, rest)
  if digits.isEmpty || !digits.all Char.isDigit then none else some (comparison, number digits)

/-- The number that a test compares with. -/
def comparedArgument (name : Octets) : Reader (Comparison × Nat) := do
  let text ← argument name
  match compared? text with
  | some found => pure found
  | none =>
    throw ("invalid argument `".toList ++ text ++ "' to `".toList ++ name ++ ['\''])

/-- The kinds of files that an argument lists. -/
def kindsArgument (name : Octets) : Reader Octets := do
  let text ← argument name
  let rec check : Octets → Reader Octets
    | [] =>
      if text.isEmpty then
        throw ("Arguments to ".toList ++ name ++ " should contain at least one letter".toList)
      else
        throw ("Last file type in list argument to ".toList ++ name ++
          " is missing, i.e., list is ending on: ','".toList)
    | c :: rest =>
      if !"bcdfplsD".toList.contains c then
        throw ("Unknown argument to ".toList ++ name ++ ": ".toList ++ [c])
      else
        match rest with
        | [] => pure [c]
        | ',' :: more => do pure (c :: (← check more))
        | _ =>
          throw ("Must separate multiple arguments to ".toList ++ name ++ " using: ','".toList)
  check text

/-- The size that a test compares with, and its unit. -/
def sizeArgument (name : Octets) : Reader Test := do
  let text ← argument name
  let unit? : Option Nat := (text.getLast?).bind fun c =>
    [('b', 512), ('c', 1), ('w', 2), ('k', 1024), ('M', 1048576), ('G', 1073741824)].lookup c
  let body := if unit?.isSome then text.dropLast else text
  match compared? body with
  | some (comparison, n) => pure (.size comparison (unit?.getD 512) n)
  | none =>
    match text.getLast?.filter fun c => unit?.isNone && !c.isDigit && !body.dropLast.isEmpty with
    | some _ => throw ("invalid -size type `".toList ++ text.drop (text.length - 1) ++ ['\''])
    | none =>
      if unit?.isNone && !text.isEmpty then
        throw ("invalid -size type `".toList ++ text.drop (text.length - 1) ++ ['\''])
      else throw ("Invalid argument `".toList ++ text ++ "' to -size".toList)

/-- The permissions that a test asks for. -/
def modeArgument (name : Octets) : Reader Test := do
  let text ← argument name
  let (bits, body) : Bits × Octets :=
    match text with
    | '-' :: rest => (.every, rest)
    | '/' :: rest => (.some, rest)
    | rest => (.exactly, rest)
  match Permissions.parse? body with
  | some changes => pure (.mode bits (Permissions.adjusted false 0 0 changes))
  | none => throw ("invalid mode ".toList ++ Quoting.value text)

/-- The words of a program up to what ends them, and whether it is run with many files. -/
def commandArgument (name : Octets) : Reader (List Octets × Bool) := do
  let i ← get
  let rec take (seen : List Octets) : List Octets → Option (List Octets × Bool × List Octets)
    | [] => none
    | [';'] :: rest => some (seen.reverse, false, rest)
    | ['+'] :: rest =>
      if seen.head? == some ['\x7b', '\x7d'] then some (seen.reverse.dropLast, true, rest)
      else take (['+'] :: seen) rest
    | word :: rest => take (word :: seen) rest
  match take [] i.rest with
  | some (word :: words, many, rest) => do
    set { i with rest, before := name }
    pure (word :: words, many)
  | _ => throw ("missing argument to `".toList ++ name ++ ['\''])

/-- The regular expression that a test compares whole paths with. -/
def regexArgument (name : Octets) (ignoreCase : Bool) : Reader Test := do
  let text ← argument name
  let form := (← get).settings.dialect
  let dialect : Regex.Dialect := { form, ignoreCase }
  match Regex.parse dialect text with
  | .ok r => pure (.regex dialect r)
  | .error e => throw ("failed to compile regular expression '".toList ++ text ++ "': ".toList ++
      e.message.toList)

/-- A number of levels. -/
def levelArgument (name : Octets) : Reader Nat := do
  let text ← argument name
  if text.isEmpty || !text.all Char.isDigit then
    throw ("Expected a positive decimal integer argument to ".toList ++ name ++
      ", but got ".toList ++ Quoting.value text)
  pure (number text)

/-- The path of a file that has to be there. -/
def fileArgument (name : Octets) : Reader Octets := do
  let path ← argument name
  match entryOf (← get).process path with
  | .ok _ => pure path
  | .error e => throw (Quoting.name path ++ ": ".toList ++ e.description.toList)

/-- Runs a program for each file or for many. -/
def runner (name : Octets) (within : Bool) : Reader Expression := do
  let (words, many) ← commandArgument name
  if many then
    let number := (← get).collected
    modify fun i => { i with collected := number + 1 }
    pure (.action (.collect number words within))
  else pure (.action (.run words within))

/-- A test or an action by its name. -/
def primary (name : Octets) : Reader Expression := do
  let test (t : Test) : Reader Expression := pure (.test t)
  let setting (change : Settings → Settings) : Reader Expression := do
    modify fun i => { i with settings := change i.settings }
    pure (.test (.constant true))
  let compare (make : Comparison → Nat → Test) : Reader Expression := do
    let (comparison, n) ← comparedArgument name
    pure (.test (make comparison n))
  match String.ofList name with
  | "-name" => test (.name (← argument name) false)
  | "-iname" => test (.name (← argument name) true)
  | "-path" | "-wholename" => test (.path (← argument name) false)
  | "-ipath" | "-iwholename" => test (.path (← argument name) true)
  | "-lname" => test (.linkTo (← argument name) false)
  | "-ilname" => test (.linkTo (← argument name) true)
  | "-regex" => test (← regexArgument name false)
  | "-iregex" => test (← regexArgument name true)
  | "-type" => test (.kind (← kindsArgument name) false)
  | "-xtype" => test (.kind (← kindsArgument name) true)
  | "-size" => test (← sizeArgument name)
  | "-empty" => test .empty
  | "-executable" => test .executable
  | "-readable" | "-writable" | "-true" | "-follow" | "-noleaf" | "-warn" | "-nowarn"
  | "-daystart" | "-ignore_readdir_race" | "-noignore_readdir_race" | "-mount" | "-xdev" =>
    test (.constant true)
  | "-false" | "-nouser" | "-nogroup" => test (.constant false)
  | "-perm" => test (← modeArgument name)
  | "-links" => compare .links
  | "-mtime" | "-atime" | "-ctime" | "-mmin" | "-amin" | "-cmin" | "-used" => compare .age
  | "-inum" => compare fun _ _ => .constant false
  | "-uid" | "-gid" => compare fun comparison n => .constant (comparison.holds 0 n)
  | "-user" | "-group" =>
    let who ← argument name
    if who = "root".toList || who = ['0'] then test (.constant true)
    else if who.all Char.isDigit then test (.constant false)
    else
      throw (Quoting.name who ++
        (if name = "-user".toList then " is not the name of a known user".toList
        else " is not the name of an existing group".toList))
  | "-newer" | "-anewer" | "-cnewer" =>
    let _ ← fileArgument name
    test (.constant false)
  | "-samefile" => test (.same (← fileArgument name))
  | "-print" => pure (.action (.print '\n'))
  | "-print0" => pure (.action (.print '\x00'))
  | "-printf" => pure (.action (.form (← argument name)))
  | "-delete" => do
    modify fun i => { i with settings := { i.settings with depthFirst := true } }
    pure (.action .delete)
  | "-prune" => pure (.action .prune)
  | "-quit" => pure (.action .quit)
  | "-exec" | "-ok" => runner name false
  | "-execdir" | "-okdir" => runner name true
  | "-depth" | "-d" => setting fun s => { s with depthFirst := true }
  | "-maxdepth" =>
    let n ← levelArgument name
    setting fun s => { s with deepest := some n }
  | "-mindepth" =>
    let n ← levelArgument name
    setting fun s => { s with least := n }
  | "-regextype" =>
    let kind := String.ofList (← argument name)
    let extended := ["posix-egrep", "egrep", "posix-extended", "posix-awk", "awk", "gnu-awk"]
    let basic := ["findutils-default", "ed", "emacs", "grep", "posix-basic",
      "posix-minimal-basic", "sed"]
    if extended.contains kind then setting fun s => { s with dialect := .extended }
    else if basic.contains kind then setting fun s => { s with dialect := .basic }
    else
      throw ("Unknown regular expression type ".toList ++ Quoting.value kind.toList ++
        ("; valid types are 'findutils-default', 'ed', 'emacs', 'gnu-awk', 'grep', " ++
          "'posix-awk', 'awk', 'posix-basic', 'posix-egrep', 'egrep', 'posix-extended', " ++
          "'posix-minimal-basic', 'sed'.").toList)
  | _ => throw ("unknown predicate `".toList ++ name ++ ['\''])

/-- Whether an argument is an operator between two expressions. -/
def isBetween (text : Octets) : Bool :=
  ["-o", "-or", "-a", "-and", ","].contains (String.ofList text)

/-- Complains about an operator with nothing before it. -/
def nothingBefore {α : Type} (operator : Octets) : Reader α :=
  throw ("invalid expression; you have used a binary operator '".toList ++ operator ++
    "' with nothing before it.".toList)

mutual

/-- Expressions with commas between them. -/
def list : Nat → Reader Expression
  | 0 => throw []
  | n + 1 => do
    let first ← disjunction n
    if (← peek) == some [','] then
      advance
      pure (.sequence first (← list n))
    else pure first

/-- Alternatives. -/
def disjunction : Nat → Reader Expression
  | 0 => throw []
  | n + 1 => do
    let first ← conjunction n
    match (← peek).map String.ofList with
    | some "-o" | some "-or" => do
      advance
      pure (.either first (← disjunction n))
    | _ => pure first

/-- Expressions that all have to hold. -/
def conjunction : Nat → Reader Expression
  | 0 => throw []
  | n + 1 => do moreConjunction n (← single n)

/-- Further expressions that have to hold. -/
def moreConjunction : Nat → Expression → Reader Expression
  | 0, _ => throw []
  | n + 1, first => do
    match (← peek).map String.ofList with
    | none | some "-o" | some "-or" | some "," | some ")" => pure first
    | some "-a" | some "-and" => do
      advance
      moreConjunction n (.both first (← single n))
    | some _ => moreConjunction n (.both first (← single n))

/-- A single expression. -/
def single : Nat → Reader Expression
  | 0 => throw []
  | n + 1 => do
    let i ← get
    match i.rest with
    | [] => throw ("expected an expression after '".toList ++ i.before ++ ['\''])
    | text :: _ =>
      match String.ofList text with
      | "(" =>
        advance
        if (← peek) == some [')'] then
          throw "invalid expression; empty parentheses are not allowed.".toList
        let inner ← list n
        if (← peek) == some [')'] then
          advance
          pure inner
        else
          throw ("invalid expression; I was expecting to find a ')' somewhere but did not see " ++
            "one.").toList
      | "!" | "-not" =>
        advance
        pure (.negation (← single n))
      | ")" =>
        if i.before.isEmpty then throw "invalid expression; you have too many ')'".toList
        else
          throw ("expected an expression between '".toList ++ i.before ++ "' and ')'".toList)
      | _ =>
        if isBetween text then nothingBefore text
        else
          match text with
          | '-' :: _ :: _ =>
            advance
            primary text
          | _ => throw ("paths must precede expression: `".toList ++ text ++ ['\''])

end

/-- The expression that arguments are, or none if there are none. -/
def expression : Reader (Option Expression) := do
  let length := (← get).rest.length
  if length = 0 then pure none
  else
    let found ← list (4 * length + 8)
    match ← peek with
    | none => pure (some found)
    | some [')'] => throw "you have too many ')'".toList
    | some text => throw ("paths must precede expression: `".toList ++ text ++ ['\''])

/-- The options in front of the paths, and what follows. -/
def options (settings : Settings) : List Octets → Settings × List Octets
  | [] => (settings, [])
  | argument :: rest =>
    match String.ofList argument with
    | "-H" => options { settings with follows := 'H' } rest
    | "-L" => options { settings with follows := 'L' } rest
    | "-P" => options { settings with follows := 'P' } rest
    | "--" => (settings, rest)
    | _ =>
      if "-O".toList.isPrefixOf argument then options settings rest
      else (settings, argument :: rest)

/-- A search: where it starts, what it asks for, and how it goes. -/
structure Search : Type where
  starts : List Octets
  expression : Expression
  settings : Settings

/-- Whether an argument starts an expression. -/
def startsExpression (argument : Octets) : Bool :=
  match argument with
  | '-' :: _ :: _ => true
  | ['('] | [')'] | ['!'] | [','] => true
  | _ => false

/-- The search that arguments describe, or what is wrong with them. -/
def search (p : Process) (arguments : List Octets) : Except Octets Search := do
  let (settings, rest) := options {} arguments
  let starts := rest.takeWhile (!startsExpression ·)
  let (found, i) ← expression.run { rest := rest.drop starts.length, settings, process := p }
  let printing : Expression := .action (.print '\n')
  let whole := match found with
    | none => printing
    | some e => if e.acts then e else .both e printing
  pure
    { starts := if starts.isEmpty then [['.']] else starts
      expression := whole
      settings := i.settings }

/-- A file that was found. -/
structure Found : Type where
  path : Octets
  /-- Where the search had started. -/
  start : Octets
  level : Nat
  entry : Entry

/-- The last name of a found file. -/
def Found.name (f : Found) : Octets :=
  lastName f.path

/-- How many names a found file has. -/
def linkCount (p : Process) (f : Found) : Nat :=
  Status.linkCount p (locationOf p f.path (!(f.entry matches .link _))).toOption f.entry

/-- Whether a pattern stands for a text; perhaps capital and small letters are the same. -/
def covers (pattern : Octets) (folds : Bool) (text : Octets) : Bool :=
  let p := Pattern.ofText pattern
  Pattern.covers (if folds then Pattern.folded p else p) text

/-- Whether a file passes a test. -/
def passes (p : Process) (f : Found) : Test → Bool
  | .name pattern folds => covers pattern folds f.name
  | .path pattern folds => covers pattern folds f.path
  | .regex dialect r =>
    (Regex.matchesAt dialect r f.path.toArray 0).any fun (_, stop, _) => stop = f.path.length
  | .linkTo pattern folds =>
    match f.entry with
    | .link target => covers pattern folds (Octets.ofText target)
    | _ => false
  | .kind letters follows =>
    let entry :=
      if follows then ((entryOf p f.path).toOption).getD f.entry else f.entry
    let letter := Status.kindLetter entry
    letters.contains (if letter = '-' then 'f' else letter)
  | .size comparison unit bound =>
    comparison.holds ((Status.size f.entry + unit - 1) / unit) bound
  | .empty =>
    match f.entry with
    | .file content _ => content.isEmpty
    | .directory serial => (p.tree.children ((p.tree.locate? serial).getD [])).isEmpty
    | _ => false
  | .executable =>
    match entryOf p f.path with
    | .ok entry => entry.isExecutable || (entry matches .directory _)
    | .error _ => false
  | .mode bits mode =>
    let own := p.tree.modeOf f.entry
    match bits with
    | .exactly => own == mode
    | .every => own &&& mode == mode
    | .some => mode = 0 || own &&& mode ≠ 0
  | .links comparison bound => comparison.holds (linkCount p f) bound
  | .age comparison bound => comparison.holds 0 bound
  | .same path =>
    match locationOf p path, locationOf p f.path false with
    | .ok a, .ok b => (p.tree.namesOf a).contains b
    | _, _ => false
  | .constant value => value

/-- What a letter in a form stands for. -/
def field? (p : Process) (f : Found) (c : Char) : Option Octets :=
  let directory (path : Octets) : Octets :=
    let name := path.reverse.takeWhile (· ≠ '/')
    if name.length = path.length then ['.']
    else if path.length = name.length + 1 then ['/']
    else path.take (path.length - name.length - 1)
  match c with
  | 'p' => some f.path
  | 'f' => some f.name
  | 'h' => some (directory f.path)
  | 'P' => some ((f.path.drop f.start.length).dropWhile (· == '/'))
  | 'H' => some f.start
  | 'd' => some (decimal f.level)
  | 's' => some (decimal (Status.size f.entry))
  | 'k' => some (decimal ((Status.room f.entry + 1023) / 1024))
  | 'b' => some (decimal ((Status.room f.entry + 511) / 512))
  | 'm' => some (Permissions.octal 1 (p.tree.modeOf f.entry))
  | 'M' => some (Status.kindLetter f.entry :: Permissions.letters (p.tree.modeOf f.entry))
  | 'y' | 'Y' =>
    let letter := Status.kindLetter f.entry
    some [if letter = '-' then 'f' else letter]
  | 'l' =>
    some (match f.entry with
      | .link target => Octets.ofText target
      | _ => [])
  | 'u' | 'g' => some "root".toList
  | 'U' | 'G' => some ['0']
  | 'n' => some (decimal (linkCount p f))
  | _ => none

/-- A file in a form, and what is to be said about the form. -/
def shown (p : Process) (f : Found) : Nat → Octets → Octets × List Octets
  | 0, _ => ([], [])
  | _, [] => ([], [])
  | n + 1, '%' :: rest =>
    let marks := rest.takeWhile fun c => "-+ #0".toList.contains c
    let width := (rest.drop marks.length).takeWhile Char.isDigit
    let put (text : Octets) (rest : Octets) : Octets × List Octets :=
      let (more, said) := shown p f n rest
      (text ++ more, said)
    match rest.drop (marks.length + width.length) with
    | '%' :: after => put ['%'] after
    | c :: after =>
      match field? p f c with
      | some text => put (Status.aligned marks (number width) none text 0) after
      | none =>
        let (more, said) := put ['%', c] after
        (more, ("warning: unrecognized format directive `%".toList ++ [c, '\'']) :: said)
    | [] => (['%'], ["error: % at end of format string".toList])
  | n + 1, '\\' :: rest =>
    let digits := (rest.takeWhile fun c => '0' ≤ c && c ≤ '7').take 3
    match rest with
    | [] => (['\\'], [])
    | 'c' :: _ => ([], [])
    | c :: after =>
      let (text, after) :=
        if !digits.isEmpty then
          ([Char.ofNat (Permissions.ofOctal digits % 256)], rest.drop digits.length)
        else
          match Status.escape? c with
          | some octet => ([octet], after)
          | none => (['\\', c], after)
      let (more, said) := shown p f n after
      (text ++ more, said)
  | n + 1, c :: rest =>
    let (more, said) := shown p f n rest
    (c :: more, said)

end Fleet.Tools.Finding
