import Fleet.Tools.Editing.Script
import Fleet.Tools.Escapes
import Fleet.Tools.Regex.Parser

/-!
# Reading scripts for editing lines

Commands stand one after the other, with semicolons or the ends of lines between them. What is
wrong with a script is said with the place where it is noticed.
-/

namespace Fleet.Tools.Editing

/-- Where it is noticed that something is wrong: how much of the script is left there. -/
inductive Place : Type where
  | left (count : Nat)
  /-- Only at the end of the script, though it is about something earlier. -/
  | since (count : Nat)
  /-- There is no such place. -/
  | nowhere
  deriving Repr, DecidableEq

/-- What is wrong with a script. -/
structure Fault : Type where
  place : Place
  message : String
  deriving Repr, DecidableEq

/-- Fails at a place. -/
def failAt {α : Type} (rest : Octets) (message : String) : Except Fault α :=
  .error ⟨.left rest.length, message⟩

/-- Text without the blanks at its start. -/
def skipBlanks (cs : Octets) : Octets :=
  cs.dropWhile fun c => c == ' ' || c == '\t' || c == '\x0B' || c == '\x0C' || c == '\r'

/-- A decimal number, and what follows; 0 if there is none. -/
def number (cs : Octets) : Nat × Octets :=
  let digits := cs.takeWhile Char.isDigit
  (Tools.number digits, cs.drop digits.length)

/-! ## Texts between delimiters -/

/-- How long a bracket expression is that starts after its opening bracket; all that is left if it
is never closed. -/
def bracketLength (cs : Octets) : Nat :=
  let lead := if cs.head? == some '^' then 1 else 0
  let lead := if (cs.drop lead).head? == some ']' then lead + 1 else lead
  lead + inner cs.length (cs.drop lead)
where
  /-- The length from within the expression on. -/
  inner : Nat → Octets → Nat
    | 0, _ => 0
    | _, [] => 0
    | _, ']' :: _ => 1
    | n + 1, '[' :: mark :: rest =>
      if mark = ':' || mark = '.' || mark = '=' then
        let name := rest.takeWhile fun c => c != mark && c != ']' && c != '\n'
        match rest.drop name.length with
        | c :: ']' :: after =>
          if c = mark then name.length + 4 + inner n after else 1 + inner n (mark :: rest)
        | _ => 1 + inner n (mark :: rest)
      else 1 + inner n (mark :: rest)
    | n + 1, _ :: rest => 1 + inner n rest

/-- The text up to a delimiter, and what follows; none if there is no delimiter on the line. The
backslash in front of a delimiter is dropped; within a bracket expression it is no delimiter. -/
def delimited (delimiter : Char) (isRegex : Bool) : Nat → Octets → Option (Octets × Octets)
  | 0, _ => none
  | _, [] => none
  | _, '\n' :: _ => none
  | n + 1, '\\' :: c :: rest =>
    let own : Octets :=
      if c = delimiter then (if !isRegex && c = '&' then ['\\', c] else [c])
      else if c = 'n' && isRegex then ['\n']
      else if c = '\n' then [c]
      else ['\\', c]
    (delimited delimiter isRegex n rest).map fun (text, after) => (own ++ text, after)
  | n + 1, c :: rest =>
    if c = delimiter then some ([], rest)
    else
      let length := if c = '[' && isRegex then bracketLength rest else 0
      let inside := rest.take length
      if inside.contains '\n' then none
      else
        (delimited delimiter isRegex n (rest.drop length)).map fun (text, after) =>
          (c :: inside ++ text, after)

/-- What is left of the line on which a text has no end. -/
def lineRest (cs : Octets) : Octets :=
  cs.dropWhile (· != '\n')

/-! ## Escapes -/

/-- The octet that an escape stands for wherever it is, and what follows it. -/
def escape? : Octets → Option (Char × Octets)
  | [] => none
  | c :: rest =>
    let numbered (base count : Nat) : Option (Char × Octets) :=
      let digits := (rest.take count).takeWhile fun d => (Decimal.digitOf? base d).isSome
      if digits.isEmpty then none
      else some (Char.ofNat (ofDigits base digits % 256), rest.drop digits.length)
    match c with
    | 'a' => some ('\x07', rest)
    | 'f' => some ('\x0C', rest)
    | 'n' => some ('\n', rest)
    | 'r' => some ('\r', rest)
    | 't' => some ('\t', rest)
    | 'v' => some ('\x0B', rest)
    | 'd' => numbered 10 3
    | 'o' => numbered 8 3
    | 'x' => numbered 16 2
    | 'c' =>
      match rest with
      | [] => none
      | d :: after =>
        let code := d.toUpper.toNat
        some (Char.ofNat (if code < 64 then code + 64 else code - 64), after)
    | _ => none

/-- The text of a regular expression with its escapes for octets read. -/
def regexText : Nat → Octets → Octets
  | 0, cs => cs
  | n + 1, '\\' :: c :: rest =>
    match escape? (c :: rest) with
    | some (own, after) => own :: regexText n after
    | none => '\\' :: c :: regexText n rest
  | n + 1, c :: rest => c :: regexText n rest
  | _, [] => []

/-- The pieces of a replacement. -/
def pieces : Nat → Octets → List Piece
  | 0, _ => []
  | n + 1, '\\' :: c :: rest =>
    if c.isDigit then .group (c.toNat - '0'.toNat) :: pieces n rest
    else
      match c with
      | 'U' => .casing .upper :: pieces n rest
      | 'L' => .casing .lower :: pieces n rest
      | 'E' => .casing .asIs :: pieces n rest
      | 'u' => .casing .nextUpper :: pieces n rest
      | 'l' => .casing .nextLower :: pieces n rest
      | c =>
        match escape? (c :: rest) with
        | some (own, after) => .octet own :: pieces n after
        | none => .octet c :: pieces n rest
  | n + 1, '&' :: rest => .group 0 :: pieces n rest
  | n + 1, c :: rest => .octet c :: pieces n rest
  | _, [] => []

/-- A text in which backslashes only stand in front of escapes and other octets. -/
def plainText : Nat → Octets → Octets
  | 0, cs => cs
  | n + 1, '\\' :: c :: rest =>
    match escape? (c :: rest) with
    | some (own, after) => own :: plainText n after
    | none => c :: plainText n rest
  | n + 1, c :: rest => c :: plainText n rest
  | _, [] => []

/-! ## Addresses -/

/-- How scripts are read. -/
structure Reading : Type where
  form : Regex.Form
  /-- Whether commands that read or write files are refused. -/
  sandboxed : Bool := false

/-- The dialect of an expression with some flags. -/
def Reading.dialect (r : Reading) (flags : List Char) : Regex.Dialect :=
  { form := r.form, strict := true
    ignoreCase := flags.contains 'I'
    multiline := flags.contains 'M' }

/-- The expression that a text is, read before what is left. -/
def Reading.expression (r : Reading) (text : Octets) (flags : List Char) (rest : Octets) :
    Except Fault Expression :=
  if text.isEmpty then .ok ⟨none⟩
  else
    let d := r.dialect flags
    match Regex.parse d (regexText text.length text) with
    | .ok regex => .ok ⟨some (d, regex)⟩
    | .error .bareClass => .error ⟨.nowhere, Regex.Fault.bareClass.message⟩
    | .error e => failAt rest e.message

/-- The flags after the expression of an address, and what follows. -/
def addressFlags : Nat → Octets → List Char × Octets
  | 0, cs => ([], cs)
  | n + 1, cs =>
    match skipBlanks cs with
    | 'I' :: rest =>
      let (flags, rest) := addressFlags n rest
      ('I' :: flags, rest)
    | 'M' :: rest =>
      let (flags, rest) := addressFlags n rest
      ('M' :: flags, rest)
    | rest => ([], rest)

/-- An address, if one comes next, and what follows. -/
def Reading.address (r : Reading) (cs : Octets) : Except Fault (Option Address × Octets) :=
  let regex (delimiter : Char) (rest : Octets) : Except Fault (Option Address × Octets) :=
    match delimited delimiter true (rest.length + 1) rest with
    | none => failAt (lineRest rest) "unterminated address regex"
    | some (text, rest) => do
      let (flags, rest) := addressFlags rest.length rest
      let e ← r.expression text flags rest
      pure (some (.matching e), rest)
  match cs with
  | '$' :: rest => .ok (some .last, rest)
  | '/' :: rest => regex '/' rest
  | '\\' :: c :: rest => regex c rest
  | ['\\'] => failAt [] "unterminated address regex"
  | cs =>
    if cs.head?.any Char.isDigit then
      let (n, rest) := number cs
      match skipBlanks rest with
      | '~' :: rest =>
        let (step, rest) := number (skipBlanks rest)
        .ok (some (if step = 0 then .line n else .steps n step), rest)
      | rest => .ok (some (.line n), rest)
    else .ok (none, cs)

/-- The end of a range, and what follows. -/
def Reading.rangeEnd (r : Reading) (cs : Octets) : Except Fault (RangeEnd × Octets) := do
  match cs with
  | '+' :: rest =>
    let (n, rest) := number (skipBlanks rest)
    pure (.after n, rest)
  | '~' :: rest =>
    let (n, rest) := number (skipBlanks rest)
    pure (.multiple n, rest)
  | cs =>
    match ← r.address cs with
    | (some a, rest) => pure (.address a, rest)
    | (none, rest) => failAt (rest.drop 1) "unexpected \x60,'"

/-- Which lines the next command applies to, and what follows. -/
def Reading.selection (r : Reading) (cs : Octets) : Except Fault (Selection × Octets) := do
  if cs.head? == some '+' || cs.head? == some '~' then
    let (_, rest) := number (skipBlanks (cs.drop 1))
    failAt rest "invalid usage of +N or ~N as first address"
  let (first, rest) ← r.address cs
  let rest := if first.isSome then skipBlanks rest else rest
  let (stop, rest) ←
    match first, rest with
    | some _, ',' :: rest => do
      let (stop, rest) ← r.rangeEnd (skipBlanks rest)
      pure (some stop, skipBlanks rest)
    | _, rest => pure (none, rest)
  let isMatch := match stop with
    | some (.address (.matching _)) => true
    | _ => false
  match first with
  | some (.line 0) =>
    if !isMatch then failAt (rest.drop 1) "invalid usage of line address 0"
  | _ => pure ()
  match rest with
  | '!' :: rest =>
    match skipBlanks rest with
    | '!' :: rest => failAt rest "multiple \x60!'s"
    | rest => pure ({ first, stop, others := true }, rest)
  | rest => pure ({ first, stop }, rest)

/-! ## Commands -/

/-- What follows the end of a command. -/
def commandEnd (cs : Octets) : Except Fault Octets :=
  match skipBlanks cs with
  | [] => .ok []
  | c :: rest =>
    if c = '\x7d' || c = '#' then .ok (c :: rest)
    else if c = '\n' || c = ';' then .ok rest
    else failAt rest "extra characters after command"

/-- The rest of a line that is the text of a command, up to an end of line without a backslash in
front of it, and what follows. -/
def textLines : Nat → Octets → Octets × Octets
  | 0, cs => (cs, [])
  | _, [] => ([], [])
  | _, '\n' :: rest => ([], rest)
  | n + 1, '\\' :: c :: rest =>
    let (text, after) := textLines n rest
    ('\\' :: c :: text, after)
  | n + 1, c :: rest =>
    let (text, after) := textLines n rest
    (c :: text, after)

/-- The text of a command, and what follows. -/
def commandText (cs : Octets) : Except Fault (Octets × Octets) :=
  match skipBlanks cs with
  | [] => failAt [] "expected \\ after \x60a', \x60c' or \x60i'"
  | ['\\'] => .ok ([], [])
  | cs =>
    let start := match cs with
      | '\\' :: '\n' :: rest => rest
      | '\\' :: rest => rest
      | rest => rest
    let (text, rest) := textLines start.length start
    .ok (plainText text.length text ++ ['\n'], rest)

/-- The name of a label, and what follows. -/
def labelName (ends : Char → Bool) (cs : Octets) : Octets × Octets :=
  let cs := skipBlanks cs
  let name := cs.takeWhile fun c => !c.isWhitespace && c != ';' && !ends c
  (name, cs.drop name.length)

/-- The name of a file, and what follows. -/
def fileName (cs : Octets) : Except Fault (Octets × Octets) :=
  let cs := skipBlanks cs
  let name := cs.takeWhile (· != '\n')
  if name.isEmpty then failAt cs "missing filename in r/R/w/W commands"
  else .ok (name, cs.drop name.length)

/-- The flags of a substitution as they are read. -/
structure Flags : Type where
  letters : List Char := []
  number : Option Nat := none
  file : Option Octets := none
  deriving Repr

/-- The flags after a substitution, and what follows. -/
def flags : Nat → Flags → Octets → Except Fault (Flags × Octets)
  | 0, f, cs => .ok (f, cs)
  | _, f, [] => .ok (f, [])
  | n + 1, f, c :: rest =>
    match c with
    | 'i' | 'I' => flags n { f with letters := 'I' :: f.letters } rest
    | 'm' | 'M' => flags n { f with letters := 'M' :: f.letters } rest
    | 'p' =>
      if f.letters.contains 'p' then failAt rest "multiple \x60p' options to \x60s' command"
      else flags n { f with letters := 'p' :: f.letters } rest
    | 'g' =>
      if f.letters.contains 'g' then failAt rest "multiple \x60g' options to \x60s' command"
      else flags n { f with letters := 'g' :: f.letters } rest
    | 'w' => do
      let (name, rest) ← fileName rest
      pure ({ f with file := some name }, rest)
    | ' ' => flags n f rest
    | '\x7d' | '#' => .ok (f, c :: rest)
    | '\n' | ';' => .ok (f, rest)
    | c =>
      if !c.isDigit then failAt rest "unknown option to \x60s'"
      else if f.number.isSome then
        failAt rest "multiple number options to \x60s' command"
      else
        let (value, after) := number (c :: rest)
        if value = 0 then failAt after "number option to \x60s' command may not be zero"
        else flags n { f with number := some value } after

/-- A substitution, and what follows. -/
def Reading.substitution (r : Reading) (cs : Octets) : Except Fault (Substitution × Octets) := do
  let unterminated {α : Type} (rest : Octets) : Except Fault α :=
    failAt (lineRest rest) "unterminated \x60s' command"
  match cs with
  | [] => unterminated []
  | delimiter :: rest =>
    match delimited delimiter true (rest.length + 1) rest with
    | none => unterminated rest
    | some (pattern, rest) =>
      match delimited delimiter false (rest.length + 1) rest with
      | none => unterminated rest
      | some (replacement, rest) =>
        let (f, rest) ← flags rest.length {} rest
        let expression ← r.expression pattern f.letters rest
        let pieces := pieces replacement.length replacement
        let most := pieces.foldl (fun most p =>
          match p with
          | .group index => max most index
          | _ => most) 0
        match expression.regex with
        | some (_, regex) =>
          if regex.groupCount < most then
            failAt rest ("invalid reference \\" ++ toString most ++ " on \x60s' command's RHS")
        | none => pure ()
        pure
          ({ expression, pieces
             first := f.number.getD 1
             all := f.letters.contains 'g'
             prints := f.letters.contains 'p'
             file := f.file }, rest)

/-- The octets that are replaced by others, and what follows. -/
def transliteration (cs : Octets) : Except Fault (List (Char × Char) × Octets) := do
  let unterminated {α : Type} (rest : Octets) : Except Fault α :=
    failAt (lineRest rest) "unterminated \x60y' command"
  match cs with
  | [] => unterminated []
  | delimiter :: rest =>
    match delimited delimiter false (rest.length + 1) rest with
    | none => unterminated rest
    | some (source, rest) =>
      match delimited delimiter false (rest.length + 1) rest with
      | none => unterminated rest
      | some (image, rest) =>
        let source := plainText source.length source
        let image := plainText image.length image
        if source.length ≠ image.length then
          failAt rest "strings for \x60y' command are different lengths"
        pure ((source.zip image).reverse, ← commandEnd rest)

/-- Whether a version is later than the one that is understood. -/
def isLater (version : Octets) : Bool :=
  let parts := (version.splitOn '.').map Tools.number
  4 < parts.headD 0 || (parts.headD 0 = 4 && 9 < parts.getD 1 0)

/-- What the next command does, and what follows; nothing if it only says something about the
script. -/
def Reading.action (r : Reading) (s : Selection) (opened : Nat) :
    Octets → Except Fault (Option Action × Octets)
  | [] => failAt [] "missing command"
  | c :: rest => do
    let simple (action : Action) : Except Fault (Option Action × Octets) := do
      pure (some action, ← commandEnd rest)
    let withFile (action : Octets → Action) : Except Fault (Option Action × Octets) := do
      if r.sandboxed then failAt rest "e/r/w commands disabled in sandbox mode"
      let (name, rest) ← fileName rest
      pure (some (action name), rest)
    let withText (action : Octets → Action) : Except Fault (Option Action × Octets) := do
      let (text, rest) ← commandText rest
      pure (some (action text), rest)
    let withJump (when : Jump) : Except Fault (Option Action × Octets) :=
      let (name, rest) := labelName (· == '\x7d') rest
      pure (some (.jump when name), rest)
    let withNumber (usual : Option Nat) (action : Option Nat → Action) :
        Except Fault (Option Action × Octets) := do
      let start := skipBlanks rest
      let (n, after) := number start
      let given := if start.head?.any Char.isDigit then some n else usual
      pure (some (action given), ← commandEnd after)
    let single : Except Fault Unit :=
      if s.stop.isSome then failAt rest "command only uses one address" else pure ()
    match c with
    | '#' =>
      if s.first.isSome then failAt rest "comments don't accept any addresses"
      pure (none, lineRest rest)
    | 'v' =>
      let (version, rest) := labelName (fun _ => false) rest
      if isLater version then failAt rest "expected newer version of sed"
      pure (none, rest)
    | '\x7b' => pure (some .opening, rest)
    | '\x7d' =>
      if opened = 0 then failAt rest "unexpected \x60\x7d'"
      if s.first.isSome then failAt rest "\x60\x7d' doesn't want any addresses"
      simple .closing
    | ':' =>
      if s.first.isSome then failAt rest ": doesn't want any addresses"
      let (name, rest) := labelName (fun _ => false) rest
      if name.isEmpty then failAt rest "\":\" lacks a label"
      pure (some (.label name), rest)
    | 'b' => withJump .always
    | 't' => withJump .ifReplaced
    | 'T' => withJump .unlessReplaced
    | 'a' => withText .append
    | 'i' => withText .insert
    | 'c' => withText .change
    | 'r' => withFile .appendFile
    | 'R' => withFile .appendLine
    | 'w' => withFile .write
    | 'W' => withFile .writeFirst
    | 'p' => simple .print
    | 'P' => simple .printFirst
    | '=' => simple .printNumber
    | 'F' => simple .printName
    | 'd' => simple .delete
    | 'D' => simple .deleteFirst
    | 'n' => simple .next
    | 'N' => simple .joinNext
    | 'g' => simple .get
    | 'G' => simple .getAlso
    | 'h' => simple .hold
    | 'H' => simple .holdAlso
    | 'x' => simple .exchange
    | 'z' => simple .clear
    | 'l' => withNumber none .list
    | 'q' => do
      single
      withNumber none fun code => .quit (code.getD 0) true
    | 'Q' => do
      single
      withNumber none fun code => .quit (code.getD 0) false
    | 's' => do
      let (substitution, rest) ← r.substitution rest
      if r.sandboxed && substitution.file.isSome then
        failAt rest "e/r/w commands disabled in sandbox mode"
      pure (some (.substitute substitution), rest)
    | 'y' => do
      let (pairs, rest) ← transliteration rest
      pure (some (.transliterate pairs), rest)
    | c => failAt rest ("unknown command: \x60" ++ String.singleton c ++ "'")

/-- The commands of a script, some groups being open, each with what was left of the script where it
starts. -/
def Reading.commands (r : Reading) : Nat → List Nat → Octets → Except Fault (List Command)
  | 0, _, _ => .ok []
  | n + 1, groups, cs => do
    match cs.dropWhile fun c => c.isWhitespace || c == ';' with
    | [] =>
      match groups with
      | [] => pure []
      | left :: _ => throw ⟨.since left, "unmatched \x60\x7b'"⟩
    | cs =>
      let (selection, rest) ← r.selection cs
      let (action, rest) ← r.action selection groups.length rest
      let groups := match action with
        | some .opening => cs.length :: groups
        | some .closing => groups.drop 1
        | _ => groups
      let others ← commands r n groups rest
      pure (action.toList.map (⟨selection, ·⟩) ++ others)

/-- The script that a text is. -/
def Reading.script (r : Reading) (text : Octets) : Except Fault (List Command) := do
  let commands ← r.commands (text.length + 1) [] text
  let missing := commands.findSome? fun c =>
    match c.action with
    | .jump _ name =>
      if name.isEmpty || (labelPlace? commands name).isSome then none else some name
    | _ => none
  match missing with
  | some name =>
    throw ⟨.nowhere, "can't find label for jump to \x60" ++ String.ofList name ++ "'"⟩
  | none => pure commands

/-- Whether a script starts with the comment that keeps lines from being printed. -/
def isQuiet (text : Octets) : Bool :=
  text = ['#', 'n'] || text.take 3 = ['#', 'n', '\n']

end Fleet.Tools.Editing
