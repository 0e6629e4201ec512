import Fleet.Tools.Inputs
import Fleet.Tools.Regex.Parser

/-!
# Searching lines

The tool `grep`: it prints the lines of files that match one of several patterns, or only the parts
that match, their numbers, or the names of the files. Lines around them are printed if asked for.
-/

namespace Fleet.Tools

open Shell

namespace Searching

/-- How the patterns are read. -/
inductive Matcher : Type where
  | regex (form : Regex.Form)
  /-- They are texts. -/
  | texts
  deriving Repr, DecidableEq

/-- What is searched for. -/
structure Query : Type where
  dialect : Regex.Dialect
  /-- None of them matches nothing. -/
  regex : Option Regex
  /-- Whether matches have to be whole words. -/
  words : Bool
  deriving Repr

/-- The first match in a line from a position on. -/
def Query.find? (q : Query) (text : Array Char) (start : Nat) : Option (Nat × Nat) :=
  let isWord (i : Nat) : Bool := (text[i]?).any Regex.isWordOctet
  let fits (i j : Nat) : Bool := !q.words || (!(i ≠ 0 && isWord (i - 1)) && !isWord j)
  q.regex.bind fun r =>
    (Regex.findWith? q.dialect r fits text start).map fun (i, j, _) => (i, j)

/-- The matches in a line that are not empty; at most the given number. -/
def Query.all (q : Query) (text : Array Char) : Nat → Nat → List (Nat × Nat)
  | 0, _ => []
  | n + 1, start =>
    match q.find? text start with
    | none => []
    | some (i, j) =>
      if j = i then (if text.size ≤ j then [] else q.all text n (j + 1))
      else (i, j) :: q.all text n j

/-- What is printed. -/
inductive Mode : Type where
  | lines
  | count
  /-- The names of files with selected lines, or of those without. -/
  | names (selected : Bool)
  | nothing
  deriving Repr, DecidableEq

/-- How files are searched and what is printed of them. -/
structure Manner : Type where
  query : Query
  inverted : Bool
  mode : Mode
  onlyMatches : Bool
  numbers : Bool
  offsets : Bool
  most : Option Nat
  before : Nat
  after : Nat
  /-- What stands between groups of lines, if anything. -/
  separator : Option Octets
  mark : Char
  /-- What follows the names of files. -/
  nameEnd : Octets
  tabbed : Bool
  colored : Bool
  /-- Whether files with an octet 0 are searched like others, or not at all. -/
  asText : Bool
  skipsBinary : Bool
  silent : Bool
  inputName : Octets

/-- A line of a file. -/
structure Line : Type where
  number : Nat
  offset : Nat
  text : Octets
  deriving Repr

/-- The lines of a text, the first of which has the given number and offset. -/
def numberLines : Nat → Nat → List Octets → List Line
  | _, _, [] => []
  | n, offset, text :: rest =>
    ⟨n, offset, text⟩ :: numberLines (n + 1) (offset + text.length + 1) rest

/-- Whether a line is selected. -/
def Manner.selects (m : Manner) (line : Line) : Bool :=
  (m.query.find? line.text.toArray 0).isSome != m.inverted

/-! ## Printing lines -/

/-- A text in a color. -/
def Manner.tinted (m : Manner) (color : String) (text : Octets) : Octets :=
  if m.colored && !text.isEmpty then
    "\x1B[".toList ++ color.toList ++ "m\x1B[K".toList ++ text ++ "\x1B[m\x1B[K".toList
  else text

/-- What stands in front of a line: the name of its file, its number and its offset. -/
def Manner.lead (m : Manner) (name : Option Octets) (mark : Char) (number offset : Nat) : Octets :=
  let mark := m.tinted "36" [mark]
  let count (n : Nat) : Octets :=
    m.tinted "32" (if m.tabbed then rightAligned 2 (decimal n) else decimal n) ++ mark
  let name := match name with
    | some name => m.tinted "35" name ++ (if m.nameEnd = [':'] then mark else m.nameEnd)
    | none => []
  let parts := name ++ (if m.numbers then count number else []) ++
    (if m.offsets then count offset else [])
  if m.tabbed && !parts.isEmpty then parts ++ ['\t'] else parts

/-- A text with the parts that match in a color. -/
def Manner.highlighted (m : Manner) (text : Octets) : Octets :=
  if !m.colored then text
  else
    let all := m.query.all text.toArray (text.length + 1) 0
    let (shown, last) := all.foldl (fun (shown, last) (i, j) =>
      (shown ++ (text.take i).drop last ++ m.tinted "01;31" ((text.take j).drop i), j))
      (([] : Octets), 0)
    shown ++ text.drop last

/-- A line as it is printed, selected or only next to a selected one. -/
def Manner.shown (m : Manner) (name : Option Octets) (selected : Bool) (line : Line) : Octets :=
  let mark := if selected then ':' else '-'
  let matching := selected != m.inverted
  if m.onlyMatches then
    if !matching then []
    else
      (m.query.all line.text.toArray (line.text.length + 1) 0).flatMap fun (i, j) =>
        m.lead name mark line.number (line.offset + i) ++
          m.tinted "01;31" ((line.text.take j).drop i) ++ [m.mark]
  else
    m.lead name mark line.number line.offset ++
      (if matching then m.highlighted line.text else line.text) ++ [m.mark]

/-- The state of a search through a file. -/
structure Progress : Type where
  /-- The lines that were seen last and not printed, the latest first. -/
  waiting : List Line := []
  /-- The number of the line that was printed last. -/
  last : Option Nat := none
  /-- How many more lines are printed because one was selected. -/
  trailing : Nat := 0
  selected : Nat := 0
  /-- Where the last selected line ends. -/
  stop : Nat := 0
  /-- What was printed. -/
  printed : List Octets := []

/-- Goes through lines; `used` says whether lines were printed before. -/
def Manner.search (m : Manner) (name : Option Octets) (used : Bool) :
    List Line → Progress → Progress
  | [], s => s
  | line :: rest, s =>
    let isFull := m.most.any (· ≤ s.selected)
    let isSelected := m.selects line
    if isFull then
      if s.trailing = 0 then s
      else
        search m name used rest
          { s with
            trailing := s.trailing - 1
            last := some line.number
            printed := m.shown name false line :: s.printed }
    else if isSelected then
      let first := (s.waiting.getLast?.getD line).number
      let apart := match s.last with
        | some n => n + 1 != first
        | none => used
      let gap : List Octets :=
        match m.separator with
        | some text => if apart then [m.tinted "36" text ++ ['\n']] else []
        | none => []
      let lead := s.waiting.map (m.shown name false)
      search m name used rest
        { s with
          waiting := []
          last := some line.number
          trailing := m.after
          selected := s.selected + 1
          stop := line.offset + line.text.length + 1
          printed := m.shown name true line :: lead ++ gap ++ s.printed }
    else if 0 < s.trailing then
      search m name used rest
        { s with
          trailing := s.trailing - 1
          last := some line.number
          printed := m.shown name false line :: s.printed }
    else search m name used rest { s with waiting := (line :: s.waiting).take m.before }

/-! ## Searching files -/

/-- What has been found so far. -/
structure Findings : Type where
  found : Bool := false
  failed : Bool := false
  /-- Whether lines were printed. -/
  used : Bool := false
  /-- Whether nothing more is of interest. -/
  finished : Bool := false

/-- Reports that a file could not be searched. -/
def Manner.report (m : Manner) (f : Findings) (name message : Octets) :
    StateM Process Findings := do
  if !m.silent then fault (name ++ ": ".toList ++ message)
  pure { f with failed := true }

/-- Searches a text; the input gets back what is not needed. -/
def Manner.searchText (m : Manner) (f : Findings) (label : Octets) (named : Bool) (fromInput : Bool)
    (text : Octets) : StateM Process Findings := do
  let isBinary := text.contains '\x00' && !m.asText && m.mark = '\n'
  if isBinary && m.skipsBinary then return f
  let lines := numberLines 1 0 (recordsOf m.mark text)
  let name := if named then some label else none
  let early := m.mode matches .names _ || m.mode = .nothing
  let limited :=
    if early || isBinary && m.mode = .lines then { m with most := some 1, after := 0 } else m
  let s := limited.search name f.used lines {}
  let anySelected := 0 < s.selected
  let nameOnly := m.tinted "35" label ++ (if m.nameEnd = [':'] then [m.mark] else m.nameEnd)
  match m.mode with
  | .lines =>
    if isBinary then
      if anySelected then fault (label ++ ": binary file matches".toList)
    else say s.printed.reverse.flatten
  | .count =>
    let lead := match name with
      | some name => m.tinted "35" name ++
        (if m.nameEnd = [':'] then m.tinted "36" [':'] else m.nameEnd)
      | none => []
    say (lead ++ decimal s.selected ++ ['\n'])
  | .names selected => if anySelected == selected then say nameOnly
  | .nothing => pure ()
  if fromInput then
    let limited := m.most.any (· ≤ s.selected) && anySelected
    modify fun p =>
      if limited && p.inputSize?.isSome && !early then p.giveBack 0 (text.drop s.stop) else p
  pure
    { f with
      found := f.found || anySelected
      used := f.used || (m.mode = .lines && anySelected)
      finished := f.finished || (m.mode = .nothing && anySelected) }

/-- Which files are looked at. -/
structure Filter : Type where
  included : List Octets
  excluded : List Octets
  excludedDirectories : List Octets

/-- Whether a pattern stands for a name or for its last part. -/
def isNamedBy (patterns : List Octets) (name : Octets) : Bool :=
  patterns.any fun text =>
    let p := Pattern.ofText text
    p.covers name || p.covers (lastName name)

/-- Whether a file is looked at. -/
def Filter.takes (f : Filter) (name : Octets) : Bool :=
  (f.included.isEmpty || isNamedBy f.included name) && !isNamedBy f.excluded name

/-- What happens with directories. -/
inductive Descent : Type where
  | none
  | skipped
  /-- Their files are searched; links among them may be followed. -/
  | recursive (follows : Bool)
  deriving Repr, DecidableEq

/-- Whether output goes to the file that a path leads to. -/
def isOutput (p : Process) (path : Octets) : Bool :=
  match p.stream? 1, locationOf p path with
  | some (_, .file location _), .ok own => location = own
  | _, _ => false

/-- Searches the file with the given content. -/
def Manner.searchFile (m : Manner) (f : Findings) (path : Octets) (isNamed : Bool) :
    StateM Process Findings := do
  let p ← get
  if m.mode = .lines && m.most.all (1 < ·) && isOutput p path then
    m.report f path "input file is also the output".toList
  else
    match p.readFile path with
    | .ok text => m.searchText f path isNamed false text
    | .error e => m.report f path e.description.toList

/-- Searches the files below a directory; `implied` says whether its path was not given. At most the
given number of levels is gone through. -/
def Manner.searchBelow (m : Manner) (filter : Filter) (follows hidden implied : Bool) :
    Nat → Findings → Octets → Location → StateM Process Findings
  | 0, f, _, _ => pure f
  | n + 1, f, path, location => do
    let names := namesIn (← get) location
    names.foldlM (fun f name => do
      if f.finished then return f
      let p ← get
      let inner := if implied then name else within path name
      let isLink := match entryOf p inner false with
        | .ok (.link _) => true
        | _ => false
      if isLink && !follows then return f
      match entryOf p inner, locationOf p inner with
      | .ok (.directory _), .ok below =>
        if isNamedBy filter.excludedDirectories name then return f
        searchBelow m filter follows hidden false n f inner below
      | .ok .sink, _ => return f
      | .ok _, _ => if filter.takes name then m.searchFile f inner (!hidden) else return f
      | .error e, _ => m.report f inner e.description.toList) f

/-- How many levels of directories are gone through. -/
def depthLimit : Nat :=
  64

/-- Searches what an operand names. -/
def Manner.searchOperand (m : Manner) (filter : Filter) (descent : Descent) (named hidden : Bool)
    (f : Findings) (path : Octets) : StateM Process Findings := do
  if f.finished then return f
  let p ← get
  if path = ['-'] then
    match p.inputFault? with
    | some e => m.report f m.inputName e.description.toList
    | none => do
      let (text, p) := p.readAll 0
      set p
      m.searchText f m.inputName named true text
  else
    match entryOf p path, locationOf p path with
    | .error e, _ => m.report f path e.description.toList
    | .ok (.directory _), .ok location =>
      match descent with
      | .recursive follows =>
        if isNamedBy filter.excludedDirectories (withoutSlashes path) then pure f
        else m.searchBelow filter follows hidden false depthLimit f path location
      | .skipped => pure f
      | .none => m.report f path OsError.isDirectory.description.toList
    | .ok _, _ => if filter.takes path then m.searchFile f path named else pure f

/-! ## Options -/

/-- The options of the tool. -/
def known : List KnownOption :=
  [flag 'G' ["basic-regexp"], flag 'E' ["extended-regexp"],
    flag 'F' ["fixed-regexp", "fixed-strings"], flag 'P' ["perl-regexp"],
    valued 'A' ["after-context"], valued 'B' ["before-context"],
    named '[' "binary-files" .value, flag 'b' ["byte-offset"], valued 'C' ["context"],
    named 'K' "color" .perhaps, named 'K' "colour" .perhaps, flag 'c' ["count"],
    valued 'D' ["devices"], valued 'd' ["directories"], named 'X' "exclude" .value,
    named 'Y' "exclude-dir" .value, valued 'f' ["file"], flag 'l' ["files-with-matches"],
    flag 'L' ["files-without-match"], named 'S' "group-separator" .value,
    named 'J' "include" .value, flag 'i' ["ignore-case"], named 'k' "no-ignore-case",
    flag 'T' ["initial-tab"], named 'M' "label" .value, named '>' "line-buffered",
    flag 'n' ["line-number"], flag 'x' ["line-regexp"], valued 'm' ["max-count"],
    flag 'h' ["no-filename"], named 'N' "no-group-separator", flag 's' ["no-messages"],
    flag 'Z' ["null"], flag 'z' ["null-data"], flag 'o' ["only-matching"],
    flag 'q' ["quiet", "silent"], flag 'r' ["recursive"], flag 'R' ["dereference-recursive"],
    valued 'e' ["regexp"], flag 'v' ["invert-match"], flag 'a' ["text"], flag 'U' ["binary"],
    flag 'u' ["unix-byte-offsets"], flag 'H' ["with-filename"], flag 'w' ["word-regexp"],
    flag 'y', flag 'I'] ++
  "0123456789".toList.map fun d => flag d

/-- The number that an option for lines around others gives. -/
def contextOf (text : Octets) : Except Octets Nat :=
  if text.isEmpty || !text.all Char.isDigit then
    .error (text ++ ": invalid context length argument".toList)
  else .ok (number text)

/-- The greatest number of lines that an option gives; a negative one is no limit. -/
def mostOf (text : Octets) : Except Octets (Option Nat) :=
  match text with
  | '-' :: digits =>
    if !digits.isEmpty && digits.all Char.isDigit then .ok none
    else .error "invalid max count".toList
  | digits =>
    if !digits.isEmpty && digits.all Char.isDigit then .ok (some (number digits))
    else .error "invalid max count".toList

/-- How the patterns are read, as options say. -/
def matcherOf (usual : Matcher) (g : Given) : Except Octets Matcher := do
  let own := (g.options.map Prod.fst).filter ['G', 'E', 'F', 'P'].contains
  match own with
  | [] => pure usual
  | c :: rest =>
    if rest.any (· != c) then throw "conflicting matchers specified".toList
    pure (match c with
      | 'G' => .regex .basic
      | 'E' => .regex .extended
      | 'P' => .regex .ordered
      | _ => .texts)

/-- The expression for patterns, any of which may match. -/
def queryOf (matcher : Matcher) (g : Given) (patterns : List Octets) : Except Octets Query := do
  let ignoreCase := match g.lastOf ['i', 'y', 'k'] with
    | some c => c != 'k'
    | none => false
  let form := match matcher with
    | .regex form => form
    | .texts => .basic
  if matcher = .regex .ordered && 1 < patterns.length then
    throw "the -P option only supports a single pattern".toList
  let marked (text : Octets) : Bool := matcher = .regex .ordered && "(?i)".toList.isPrefixOf text
  let dialect : Regex.Dialect := { form, ignoreCase := ignoreCase || patterns.any marked }
  let read (text : Octets) : Except Octets Regex :=
    match matcher with
    | .texts => .ok (.literal text)
    | .regex form =>
      (Regex.parse dialect (if marked text then text.drop 4 else text)).mapError fun e =>
        (if form = .ordered then e.orderedMessage else e.message).toList
  let all ← patterns.mapM read
  let whole (r : Regex) : Regex :=
    if g.has 'x' then .both (.edge .textStart) (.both r (.edge .textEnd)) else r
  let regex := match all.map whole with
    | [] => none
    | r :: rest => some (rest.foldl .either r)
  pure { dialect, regex, words := g.has 'w' && !g.has 'x' }

/-- The repetitions in an extended expression that have nothing in front of them, as they are
called; `atStart` says whether there is nothing in front of the text. -/
def idleRepetitions (d : Regex.Dialect) : Nat → Bool → Octets → List String
  | 0, _, _ => []
  | n + 1, atStart, c :: rest =>
    match c with
    | '\\' => idleRepetitions d n false (rest.drop 1)
    | '[' =>
      match Regex.set d.form rest with
      | .ok (_, rest) => idleRepetitions d n false rest
      | .error _ => []
    | '(' | '|' => idleRepetitions d n true rest
    | '^' => idleRepetitions d n atStart rest
    | '*' | '+' | '?' =>
      (if atStart then [String.singleton c] else []) ++ idleRepetitions d n false rest
    | '\x7b' =>
      match Regex.bounds? d rest with
      | .ok (some (_, _, rest)) =>
        (if atStart then ["\x7b...\x7d"] else []) ++ idleRepetitions d n false rest
      | _ => idleRepetitions d n false rest
    | _ => idleRepetitions d n false rest
  | _, _, [] => []

/-- The warnings about a pattern. -/
def warnings (matcher : Matcher) (pattern : Octets) : List Octets :=
  match matcher with
  | .regex .extended =>
    (idleRepetitions { form := .extended } pattern.length true pattern).map fun what =>
      ("warning: " ++ what ++ " at start of expression").toList
  | _ => []

/-- How files are searched, as options say. -/
def mannerOf (query : Query) (g : Given) : Except Octets Manner := do
  let usual := (g.options.map Prod.fst).filter Char.isDigit
  let around ← match g.value? 'C' with
    | some text => (contextOf text).map some
    | none => pure (if usual.isEmpty then none else some (number usual))
  let own (key : Char) : Except Octets (Option Nat) :=
    match g.value? key with
    | some text => (contextOf text).map some
    | none => pure around
  let after ← own 'A'
  let before ← own 'B'
  let most ← match g.value? 'm' with
    | some text => mostOf text
    | none => pure none
  if let some kind := g.value? '[' then
    if !(["binary", "text", "without-match"].contains (String.ofList kind)) then
      throw "unknown binary-files type".toList
  let binary := (g.value? '[').map String.ofList
  let mode : Mode :=
    if g.has 'q' then .nothing
    else match g.lastOf ['l', 'L'] with
      | some c => .names (c = 'l')
      | none => if g.has 'c' then .count else .lines
  let separator := match g.lastOf ['S', 'N'] with
    | some 'N' => none
    | some _ => g.value? 'S'
    | none => some ['-', '-']
  let isContext := after.isSome || before.isSome
  let colors := ["always", "yes", "force"]
  pure
    { query, inverted := g.has 'v', mode
      onlyMatches := g.has 'o'
      numbers := g.has 'n', offsets := g.has 'b', most
      before := if g.has 'o' then 0 else before.getD 0
      after := if g.has 'o' then 0 else after.getD 0
      separator := if isContext && !g.has 'o' then separator else none
      mark := lineMark g
      nameEnd := if g.has 'Z' then ['\x00'] else [':']
      tabbed := g.has 'T'
      colored := (g.value? 'K').any fun text => colors.contains (String.ofList text)
      asText := g.has 'a' || binary = some "text"
      skipsBinary := g.has 'I' || binary = some "without-match"
      silent := g.has 's'
      inputName := (g.value? 'M').getD "(standard input)".toList }

/-- The patterns that options give, with those in files; a file that cannot be read is an error. -/
def patternsOf (g : Given) : StateM Process (Except Octets (List Octets)) := do
  let read (option : Char × Option Octets) : StateM Process (Except Octets (List Octets)) := do
    match option with
    | ('e', some text) => pure (.ok (text.splitOn '\n'))
    | ('f', some path) => do
      match ← readSource path with
      | .ok text => pure (.ok (linesOf text))
      | .error u => pure (.error (path ++ ": ".toList ++ u.error.description.toList))
    | _ => pure (.ok [])
  let all ← g.options.mapM read
  pure ((all.mapM id).map List.flatten)

/-- Reports a wrong use. -/
def misused (message : Option Octets) : StateM Process Nat := do
  match message with
  | some message => fault message
  | none => pure ()
  sayError "Usage: grep [OPTION]... PATTERNS [FILE]...\n".toList
  sayError "Try 'grep --help' for more information.\n".toList
  pure 2

/-- Searches as options say. -/
def run (usual : Matcher) (g : Given) : StateM Process Nat := do
  let isGiven := g.has 'e' || g.has 'f'
  if !isGiven && g.operands.isEmpty then return ← misused none
  let fromOptions ← patternsOf g
  let patterns := if isGiven then fromOptions else .ok ((g.operands.headD []).splitOn '\n')
  let operands := if isGiven then g.operands else g.operands.drop 1
  let manner : Except Octets (Manner × List Octets) := do
    let patterns ← patterns
    let matcher ← matcherOf usual g
    let all := patterns.flatMap (warnings matcher)
    let query ← queryOf matcher g patterns
    pure (← mannerOf query g, all)
  orFault manner (fun (m, warned) => do
    warned.forM fault
    if g.has 'u' then fault "warning: --unix-byte-offsets (-u) is obsolete".toList
    let matchesAll := patterns.toOption = some [[]]
    let isWhole := g.has 'x' || g.has 'w'
    let selectsNone := m.most = some 0 || (m.inverted && !isWhole && matchesAll)
    if selectsNone && m.mode ≠ .names false then return 1
    let action := (g.value? 'd').map String.ofList
    let recursive := g.has 'r' || g.has 'R' || action = some "recurse"
    let descent : Descent :=
      if recursive then .recursive (g.has 'R')
      else if action = some "skip" then .skipped
      else .none
    let filter : Filter :=
      { included := g.valuesOf 'J', excluded := g.valuesOf 'X'
        excludedDirectories := (g.valuesOf 'Y').map withoutSlashes }
    let hidden := g.lastOf ['h', 'H'] = some 'h'
    let named := g.lastOf ['h', 'H'] = some 'H' || (1 < operands.length && !hidden)
    let f ←
      match operands, recursive with
      | [], true =>
        match (← get).here? with
        | some location => m.searchBelow filter (g.has 'R') hidden true depthLimit {} [] location
        | none => pure {}
      | [], false => m.searchOperand filter descent named hidden {} ['-']
      | operands, _ => operands.foldlM (m.searchOperand filter descent named hidden) {}
    match (← get).refused with
    | some e => do
      fault ("write error: ".toList ++ e.description.toList)
      modify fun p => { p with refused := none }
      pure 2
    | none =>
      pure (if f.failed && !(f.found && m.mode = .nothing) then 2 else if f.found then 0 else 1)) 2

/-- Searches with arguments. -/
def withArguments (usual : Matcher) : Tool := fun arguments => do
  match OptionList.read known false arguments.length arguments with
  | .ok g => run usual g
  | .error e => misused (some e.message)

end Searching

/-- Prints the lines that match a regular expression. -/
def grep : Tool :=
  Searching.withArguments (.regex .basic)

/-- Searches under the name of the tool for searching. -/
def grepAs (matcher : Searching.Matcher) : Tool := fun arguments => do
  modify fun p => { p with name := "grep".toList }
  Searching.withArguments matcher arguments

/-- Prints the lines that match an extended regular expression. -/
def egrep : Tool :=
  grepAs (.regex .extended)

/-- Prints the lines that contain a text. -/
def fgrep : Tool :=
  grepAs .texts

/-- Prints the lines that match in all files of directories. -/
def rgrep : Tool := fun arguments => do
  modify fun p => { p with name := "grep".toList }
  Searching.withArguments (.regex .basic) (['-', 'r'] :: arguments)

end Fleet.Tools
