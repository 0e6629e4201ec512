import Fleet.Shell.Builtins.Jobs
import Fleet.Shell.Surroundings
import Fleet.Tools.Basic
import Fleet.Tools.Finding

/-!
# Programs that run programs

Programs such as `env`, `xargs` and `find`, which run another program: in a changed environment,
with arguments that they read, or for each file that they find. How a program is run is given to
them.
-/

namespace Fleet.Shell

/-- Runs a program in the place of the one that runs now; if that cannot be done, says so in the way
that is given. -/
abbrev Start : Type :=
  (complaint : OsError → Octets) → (name : Octets) → (arguments : List Octets) → Exec Unit

/-- What a tool says and the code that it ends with, as a step. -/
def finish (work : StateM Process Nat) : Exec Unit :=
  runTool (fun _ => work) []

/-- Says that a program cannot be run, after its name between quotes. -/
def quotedComplaint (name : Octets) (e : OsError) : Octets :=
  ['\''] ++ name ++ "': ".toList ++ e.description.toList

/-- Says that a program could not be run. -/
def fullComplaint (name : Octets) (e : OsError) : Octets :=
  "failed to run command ".toList ++ quotedComplaint name e

/-- Ends with a misuse. -/
def misused (message : Octets) (code : Nat) : Exec Unit :=
  finish do
    Tools.misuse message
    pure code

/-- Goes on with the options of a program, or ends because of them. -/
def withGiven (known : List Tools.KnownOption) (code : Nat) (arguments : List Octets)
    (work : Tools.Given → Exec Unit) : Exec Unit :=
  match Tools.OptionList.read known true arguments.length arguments with
  | .ok given => work given
  | .error e => misused e.message code

/-! ## In a changed environment -/

namespace Environs

open Tools (flag valued named)

/-- The options of `env`. -/
def options : List Tools.KnownOption :=
  [flag 'i' ["ignore-environment"], flag '0' ["null"], valued 'u' ["unset"], valued 'C' ["chdir"],
    valued 'S' ["split-string"], flag 'v' ["debug"], named 'B' "block-signal" .perhaps,
    named 'D' "default-signal" .perhaps, named 'I' "ignore-signal" .perhaps]

/-- The rest of a word, inside a quote or not, and what follows it. -/
def word (quote : Option Char) : Octets → Octets × Octets
  | [] => ([], [])
  | '\\' :: d :: after =>
    let (own, left) := word quote after
    if quote = some '\'' then
      if d = '\'' || d = '\\' then (d :: own, left)
      else ('\\' :: d :: own, left)
    else ((if d = 'n' then '\n' else if d = 't' then '\t' else d) :: own, left)
  | c :: rest =>
    if quote = some c then word none rest
    else if quote.isNone && (c == ' ' || c == '\t' || c == '\n') then ([], rest)
    else if quote.isNone && (c == '\'' || c == '"') then word (some c) rest
    else
      let (own, left) := word quote rest
      (c :: own, left)

/-- The words of a text that is one argument. -/
def words : Nat → Octets → List Octets
  | 0, _ => []
  | n + 1, text =>
    match text.dropWhile fun c => c == ' ' || c == '\t' || c == '\n' with
    | [] => []
    | start =>
      let (own, after) := word none start
      own :: words n after

/-- Arguments in which a text that is to be split stands as words. -/
def split : List Octets → List Octets
  | ['-', 'S'] :: text :: rest => words (text.length + 1) text ++ rest
  | ('-' :: 'S' :: c :: text) :: rest => words (text.length + 2) (c :: text) ++ rest
  | argument :: rest =>
    let name := "--split-string=".toList
    if name.isPrefixOf argument then
      let text := argument.drop name.length
      words (text.length + 1) text ++ rest
    else argument :: rest
  | [] => []

/-- The environment, each setting with an end behind it. -/
def shown (p : Process) (stop : Char) : Octets :=
  (p.vars.map fun v => v.name ++ '=' :: v.value.getD [] ++ [stop]).flatten

/-- The settings in front of other arguments, and those. -/
def settings (arguments : List Octets) : List (Octets × Octets) × List Octets :=
  let own := arguments.takeWhile (·.contains '=')
  (own.map fun argument =>
    let name := argument.takeWhile (· ≠ '=')
    (name, argument.drop (name.length + 1)), arguments.drop own.length)

/-- Runs a program in a changed environment, or shows that. -/
def run (start : Start) (arguments : List Octets) : Exec Unit :=
  withGiven options 125 (split arguments) fun g => do
    let (bare, operands) := match g.operands with
      | ['-'] :: rest => (true, rest)
      | rest => (false, rest)
    let (given, command) := settings operands
    match (g.valuesOf 'u').find? fun name => name.isEmpty || name.contains '=' with
    | some name =>
      finish do
        Tools.fault ("cannot unset ".toList ++ quotedComplaint name .invalidArgument)
        pure 125
    | none =>
      if bare || g.has 'i' then modify fun p => { p with vars := [] }
      else (g.valuesOf 'u').forM fun name => modify (·.dropVariable name)
      given.forM fun (name, value) => modify (·.setVariable name value true)
      match command with
      | [] =>
        if g.has 'C' then misused "must specify command with --chdir (-C)".toList 125
        else
          finish do
            say (shown (← get) (if g.has '0' then '\x00' else '\n'))
            pure 0
      | name :: rest =>
        if g.has '0' then misused "cannot specify --null (-0) with command".toList 125
        else
          let p ← get
          match (g.value? 'C').map fun path => (path, p.directoryAt path) with
          | some (path, .error e) =>
            finish do
              Tools.fault ("cannot change directory to ".toList ++ quotedComplaint path e)
              pure 125
          | some (_, .ok serial) => do
            modify fun p => { p with directory := serial }
            start (quotedComplaint name) name rest
          | none => start (quotedComplaint name) name rest

end Environs

/-- Runs a program with less care, or says how much care is taken. -/
def runNice (start : Start) (arguments : List Octets) : Exec Unit := do
  let modern := match arguments with
    | ('-' :: d :: more) :: rest =>
      if d.isDigit then ['-', 'n'] :: (d :: more) :: rest else arguments
    | other => other
  withGiven [Tools.valued 'n' ["adjustment"]] 125 modern fun g => do
    let level := ((g.value? 'n').map Tools.number).getD 10
    match g.operands with
    | [] =>
      if g.has 'n' then misused "a command must be given with an adjustment".toList 125
      else
        finish do
          say (decimal (← get).niceness ++ ['\n'])
          pure 0
    | name :: rest => do
      modify fun p => { p with niceness := min 19 (p.niceness + level) }
      start (quotedComplaint name) name rest

/-- Runs a program that is to go on when the one who has started it is gone. -/
def runLasting (start : Start) (arguments : List Octets) : Exec Unit :=
  withGiven [] 125 arguments fun g =>
    match g.operands with
    | [] => misused "missing operand".toList 125
    | name :: rest => start (fullComplaint name) name rest

/-- Runs a program whose streams are to be kept back as options say. -/
def runBuffered (start : Start) (arguments : List Octets) : Exec Unit :=
  withGiven [Tools.valued 'i' ["input"], Tools.valued 'o' ["output"],
    Tools.valued 'e' ["error"]] 125
    arguments fun g =>
    match g.operands with
    | [] => misused "missing operand".toList 125
    | name :: rest =>
      if g.options.isEmpty then misused "you must specify a buffering mode option".toList 125
      else start (fullComplaint name) name rest

/-- Runs a program for a time at most. -/
def runTimed (start : Start) (arguments : List Octets) : Exec Unit :=
  withGiven [Tools.valued 'k' ["kill-after"], Tools.valued 's' ["signal"],
    Tools.named 'p' "preserve-status", Tools.named 'f' "foreground", Tools.flag 'v' ["verbose"]] 125
    arguments fun g => do
    let signal? := match g.value? 's' with
      | some name => signal? false name
      | none => some 15
    match g.operands, signal? with
    | _, none =>
      misused (Tools.Quoting.value ((g.value? 's').getD []) ++ ": invalid signal".toList) 125
    | [], _ | [_], _ => do
      let p ← get
      (sayError ("Try '".toList ++ p.name ++ " --help' for more information.\n".toList) :
        StateM Process Unit)
      setStatus 125
    | time :: name :: rest, some signal =>
      match Tools.timeOf? time with
      | none => misused ("invalid time interval ".toList ++ Tools.Quoting.value time) 125
      | some duration => do
        let limit := (← get).clock + duration
        let outer := (← get).deadline
        let nearer := match outer with
          | some other => min other limit
          | none => limit
        modify fun p =>
          { p with deadline := if duration = 0 then outer else some nearer, timeSignal := signal }
        let fate : Option Nat ← tryCatch (do
          let _ ← inCopy (start (fullComplaint name) name rest)
          pure none) fun
          | .killed signal => pure (some signal)
          -- What goes on for longer than can be waited for also goes on for longer than that.
          | .exhausted => if duration = 0 then throw .exhausted else pure (some signal)
          | jump => throw jump
        modify fun p => { p with deadline := outer }
        match fate with
        | none => pure ()
        | some signal =>
          if signal = 9 then throw (.killed 9)
          else setStatus (if g.has 'p' then 128 + signal else 124)

/-! ## With arguments that are read -/

namespace Gathering

open Tools (flag valued perhapsValued named)

/-- The options of `xargs`. -/
def options : List Tools.KnownOption :=
  [flag '0' ["null"], valued 'a' ["arg-file"], valued 'd' ["delimiter"], valued 'E',
    perhapsValued 'e' ["eof"], valued 'I', perhapsValued 'i' ["replace"], valued 'L',
    perhapsValued 'l' ["max-lines"], valued 'n' ["max-args"], flag 'o' ["open-tty"],
    valued 'P' ["max-procs"], flag 'p' ["interactive"], flag 'r' ["no-run-if-empty"],
    valued 's' ["max-chars"], named 'h' "show-limits", flag 't' ["verbose"], flag 'x' ["exit"]]

/-- A word that was read, and whether a line ends behind it. -/
structure Item : Type where
  text : Octets
  endsLine : Bool
  deriving Repr

/-- A blank between words. -/
def isBlank (c : Char) : Bool :=
  c == ' ' || c == '\t'

/-- The rest of a word, what follows, or the quote that is not closed. With `lines` blanks are part
of words. -/
def word (lines : Bool) (quote : Option Char) : Octets → Except Char (Octets × Octets)
  | [] =>
    match quote with
    | some q => .error q
    | none => .ok ([], [])
  | c :: rest =>
    match quote with
    | some q =>
      if c = q then word lines none rest
      else if c = '\n' then .error q
      else (word lines quote rest).map fun (own, left) => (c :: own, left)
    | none =>
      if c = '\n' || (isBlank c && !lines) then .ok ([], c :: rest)
      else if c = '\'' || c = '"' then word lines (some c) rest
      else if c = '\\' then
        match rest with
        | d :: after => (word lines none after).map fun (own, left) => (d :: own, left)
        | [] => .ok (['\\'], [])
      else (word lines none rest).map fun (own, left) => (c :: own, left)

/-- The words of a text, and the quote that is not closed, if there is one. With `lines` each line
is a word. -/
def items (lines : Bool) : Nat → Octets → List Item × Option Char
  | 0, _ => ([], none)
  | n + 1, text =>
    match text.dropWhile fun c => isBlank c || c == '\n' with
    | [] => ([], none)
    | start =>
      match word lines none start with
      | .error quote => ([], some quote)
      | .ok (own, left) =>
        -- Blanks behind the last word of a line make the next line part of it.
        let blanks := left.takeWhile isBlank
        let after := left.drop blanks.length
        let endsLine := blanks.isEmpty && (after.head? == some '\n' || after.isEmpty)
        let (more, fault) := items lines n left
        ({ text := own, endsLine } :: more, fault)

/-- The words of a text that a character ends. -/
def delimited (mark : Char) (text : Octets) : List Item :=
  let pieces := text.splitOn mark
  let pieces := if pieces.getLast? == some [] then pieces.dropLast else pieces
  pieces.map fun text => { text, endsLine := true }

/-- The character that a text stands for that says what ends words. -/
def delimiter? (text : Octets) : Option Char :=
  match text with
  | [c] => some c
  | ['\\', c] =>
    [('a', '\x07'), ('b', '\x08'), ('f', '\x0C'), ('n', '\n'), ('r', '\r'), ('t', '\t'),
      ('v', '\x0B'), ('\\', '\\'), ('0', '\x00')].lookup c
  | _ => none

/-- Words in groups of lines. -/
def byLines (size : Nat) : Nat → List Octets → List Item → List (List Octets)
  | _, group, [] => if group.isEmpty then [] else [group.reverse]
  | count, group, item :: rest =>
    let group := item.text :: group
    if item.endsLine && count + 1 = size then group.reverse :: byLines size 0 [] rest
    else byLines size (if item.endsLine then count + 1 else count) group rest

/-- A text with others in the place of each mark. -/
def replaced (mark new : Octets) : Nat → Octets → Octets
  | 0, text => text
  | _, [] => []
  | n + 1, c :: rest =>
    if !mark.isEmpty && mark.isPrefixOf (c :: rest) then
      new ++ replaced mark new n ((c :: rest).drop mark.length)
    else c :: replaced mark new n rest

/-- How a program is run with what was read. -/
structure Plan : Type where
  start : Start
  name : Octets
  fixed : List Octets
  verbose : Bool

/-- Runs the program once. The code is that of all runs, or what ends them. -/
def Plan.once (plan : Plan) (code : Nat) (words : List Octets) : Exec (Nat × Bool) := do
  if plan.verbose then
    (sayError (List.intercalate [' '] ((plan.name :: words).map Tools.Quoting.lead) ++ ['\n']) :
      StateM Process Unit)
  let fate ← inCopy do
    modify (·.openStream 0 .silent)
    plan.start (fun e => Tools.Quoting.lead plan.name ++ ": ".toList ++ e.description.toList)
      plan.name words
  let status := (← get).status
  let tell (text : String) (n : Nat) (rest : String) : Exec Unit :=
    (Tools.fault (plan.name ++ text.toList ++ decimal n ++ rest.toList) : StateM Process Unit)
  match fate with
  | some signal => do
    tell ": terminated by signal " signal ""
    pure (125, true)
  | none =>
    if status = 0 then pure (code, false)
    else if status = 255 then do
      tell ": exited with status " 255 "; aborting"
      pure (124, true)
    else if status = 126 || status = 127 then pure (status, true)
    else pure (123, false)

/-- Runs the program for each group of words, until a run ends them. -/
def Plan.each (plan : Plan) (make : List Octets → List Octets) : Nat → List (List Octets) → Exec Nat
  | code, [] => pure code
  | code, group :: rest => do
    let (code, stops) ← plan.once code (make group)
    if stops then pure code else plan.each make code rest

/-- The number that an option gives, or what is wrong with it. -/
def countOf (g : Tools.Given) (key : Char) : Except (Octets × Bool) (Option Nat) :=
  match g.value? key with
  | none => .ok none
  | some text =>
    if text.isEmpty || !text.all Char.isDigit then
      let wrong := "invalid number \"".toList ++ text ++ "\" for -".toList ++ [key]
      .error (wrong ++ " option".toList, true)
    else if Tools.number text = 0 && key ≠ 'P' then
      .error ("value 0 for -".toList ++ [key] ++ " option should be >= 1".toList, true)
    else .ok (some (Tools.number text))

/-- Runs a program with what is read. -/
def run (start : Start) (arguments : List Octets) : Exec Unit :=
  withGiven options 1 arguments fun g => do
    let numbers : Except (Octets × Bool) (Option Nat × Option Nat × Option Char) := do
      let size ← countOf g 'n'
      let lines ← countOf g 'L'
      let short ← countOf g 'l'
      let mark ← match g.value? 'd' with
        | none => pure (if g.has '0' then some '\x00' else none)
        | some text =>
          match delimiter? text with
          | some c => pure (some c)
          | none =>
            throw (("Invalid input delimiter specification " ++ String.ofList text ++
              ": the delimiter must be either a single character or an escape sequence " ++
              "starting with \\.").toList, false)
      let lines := lines.or (if g.has 'l' then some (short.getD 1) else none)
      pure (size, lines, mark)
    match numbers with
    | .error (message, isMisuse) =>
      if isMisuse then misused message 1
      else
        finish do
          Tools.fault message
          pure 1
    | .ok (size, lines, mark) => do
      let source : Except Tools.Unread Octets ←
        match g.value? 'a' with
        | some path => (Tools.readSource path : StateM Process (Except Tools.Unread Octets))
        | none => do
          let (text, p) := (← get).readAll 0
          set p
          pure (.ok text)
      match source with
      | .error u =>
        finish do
          Tools.fault ("Cannot open input file ".toList ++ Tools.Quoting.name u.path ++
            ": ".toList ++
            u.error.description.toList)
          pure 1
      | .ok text => do
        let mode := g.lastOf ['I', 'i', 'L', 'l', 'n']
        let replaces := mode == some 'I' || mode == some 'i' ||
          (mode == some 'n' && (g.has 'I' || g.has 'i') && size == some 1)
        let (all, fault) := match mark with
          | some c => (delimited c text, none)
          | none => items replaces (text.length + 1) text
        let stop := (g.value? 'E').or (g.value? 'e')
        let all := match stop.filter fun _ => mark.isNone with
          | some word => all.takeWhile fun item => item.text ≠ word
          | none => all
        let words := all.map Item.text
        let (name, fixed) := match g.operands with
          | [] => ("echo".toList, [])
          | name :: fixed => (name, fixed)
        let plan : Plan := { start, name, fixed, verbose := g.has 't' || g.has 'p' }
        let code ←
          if replaces then
            let marker :=
              (if mode == some 'I' || g.has 'I' then g.value? 'I' else g.value? 'i').getD
              "\x7b\x7d".toList
            plan.each (fun group => fixed.map fun text =>
              replaced marker (group.headD []) (text.length + 1) text) 0 (words.map ([·]))
          else
            let several := match mode, size, lines with
              | some 'n', some size, _ => groups size words
              | _, none, some lines => byLines lines 0 [] all
              | some 'L', _, some lines | some 'l', _, some lines => byLines lines 0 [] all
              | _, some size, _ => groups size words
              | _, none, none => if words.isEmpty then [] else [words]
            let several := if several.isEmpty && !g.has 'r' && fault.isNone then [[]] else several
            plan.each (fixed ++ ·) 0 several
        match fault with
        | none => setStatus code
        | some quote =>
          finish do
            Tools.fault ("unmatched ".toList ++
              (if quote = '\'' then "single" else "double").toList ++
              " quote; by default quotes are special to xargs unless you use the -0 option".toList)
            pure 1

end Gathering

/-! ## For files that are found -/

namespace Finding

open Tools.Finding

/-- What comes of looking at a file. -/
structure Verdict : Type where
  holds : Bool
  /-- Whether what is below it is passed over. -/
  prunes : Bool := false
  /-- Whether the search is over. -/
  quits : Bool := false

/-- What a search has come to. -/
structure State : Type where
  code : Nat := 0
  /-- Files for programs that are run with many of them, the latest first. -/
  collected : List (Nat × Octets) := []
  quits : Bool := false

/-- A search that goes on. -/
abbrev Walk : Type → Type :=
  StateT State Exec

/-- The words of a program with a path in the place of each pair of braces. -/
def filled (path : Octets) (words : List Octets) : List Octets :=
  words.map fun word =>
    Gathering.replaced "\x7b\x7d".toList path (word.length + 1) word

/-- Runs a program; says whether it has succeeded. -/
def carryOut (start : Start) (p : Process) (within : Option Octets) (words : List Octets) :
    Exec Bool := do
  match words with
  | [] => pure false
  | name :: rest => do
    let _ ← inCopy do
      match within.map fun path => p.directoryAt path with
      | some (.ok serial) => modify fun p => { p with directory := serial }
      | _ => pure ()
      start (quotedComplaint name) name rest
    pure ((← get).status = 0)

/-- The directory of a path. -/
def folderOf (path : Octets) : Octets :=
  let name := path.reverse.takeWhile (· ≠ '/')
  if name.length = path.length then ['.']
  else if path.length = name.length + 1 then ['/']
  else path.take (path.length - name.length - 1)

/-- Does something with a file; says whether that has worked. -/
def act (start : Start) (f : Found) : Action → Walk Verdict
  | .print stop => do
    (say (f.path ++ [stop]) : StateM Process Unit)
    pure { holds := true }
  | .form text => do
    let (out, said) := shown (← getThe Process) f (text.length + 1) text
    (say out : StateM Process Unit)
    said.forM fun message => (Tools.fault message : StateM Process Unit)
    pure { holds := true }
  | .delete => do
    let p ← getThe Process
    let result := p.edit fun t here =>
      match f.entry with
      | .directory _ => t.removeDirectory here f.path.toText
      | _ => t.removeFile here f.path.toText
    if f.path = ['.'] then pure { holds := true }
    else
      match result with
      | .ok p => do
        set p
        pure { holds := true }
      | .error e => do
        (Tools.fileFault "cannot delete" f.path e : StateM Process Unit)
        modify fun s => { s with code := 1 }
        pure { holds := false }
  | .prune => pure { holds := true, prunes := true }
  | .quit => pure { holds := true, quits := true }
  | .run words within => do
    let p ← getThe Process
    let path := if within then "./".toList ++ f.name else f.path
    let folder := if within then some (folderOf f.path) else none
    pure { holds := ← carryOut start p folder (filled path words) }
  | .collect number _ within => do
    let path := if within then "./".toList ++ f.name else f.path
    modify fun s => { s with collected := (number, path) :: s.collected }
    pure { holds := true }

/-- Looks at a file. -/
def look (start : Start) (f : Found) : Expression → Walk Verdict
  | .test t => do pure { holds := passes (← getThe Process) f t }
  | .action a => act start f a
  | .negation inner => do
    let v ← look start f inner
    pure { v with holds := !v.holds }
  | .both first second => do
    let v ← look start f first
    if v.holds && !v.quits then
      let w ← look start f second
      pure { w with prunes := v.prunes || w.prunes }
    else pure v
  | .either first second => do
    let v ← look start f first
    if !v.holds && !v.quits then
      let w ← look start f second
      pure { w with prunes := v.prunes || w.prunes }
    else pure v
  | .sequence first second => do
    let v ← look start f first
    if v.quits then pure v
    else
      let w ← look start f second
      pure { w with prunes := v.prunes || w.prunes }

/-- Goes through a file and what is below it. -/
def walk (start : Start) (s : Search) : Nat → Found → Walk Unit
  | 0, _ => pure ()
  | n + 1, f => do
    let visit : Walk Verdict :=
      if s.settings.least ≤ f.level then look start f s.expression else pure { holds := false }
    let below : Walk Unit := do
      match f.entry with
      | .directory serial =>
        if s.settings.deepest.all (f.level < ·) then
          let p ← getThe Process
          let names := (p.tree.children ((p.tree.locate? serial).getD [])).map Octets.ofText
          names.forM fun name => do
            if !(← get).quits then
              let path := Tools.within f.path name
              let p ← getThe Process
              let follows := s.settings.follows = 'L'
              let entry := match Tools.entryOf p path follows with
                | .ok entry => some entry
                | .error _ => (Tools.entryOf p path false).toOption
              match entry with
              | some entry => walk start s n { f with path, level := f.level + 1, entry }
              | none => pure ()
      | _ => pure ()
    if s.settings.depthFirst then
      below
      if !(← get).quits then
        let v ← visit
        modify fun st => { st with quits := v.quits }
    else
      let v ← visit
      modify fun st => { st with quits := v.quits }
      if !v.prunes && !v.quits then below

/-- Goes through what a search starts from. -/
def walkAll (start : Start) (s : Search) : Walk Unit := do
  s.starts.forM fun path => do
    if !(← get).quits then
      let p ← getThe Process
      let follows := s.settings.follows ≠ 'P'
      let found : Except OsError Entry := match Tools.entryOf p path follows with
        | .ok entry => .ok entry
        | .error e => if follows then Tools.entryOf p path false else .error e
      match found with
      | .ok entry => walk start s 64 { path, start := path, level := 0, entry }
      | .error e => do
        (Tools.fault (quotedComplaint path e) : StateM Process Unit)
        modify fun st => { st with code := 1 }
  let collected := (← get).collected.reverse
  s.expression.collections.forM fun (number, words, _) => do
    let files := (collected.filter (·.1 == number)).map Prod.snd
    if !files.isEmpty then
      let p ← getThe Process
      if !(← carryOut start p none (words ++ files)) then
        modify fun st => { st with code := 1 }

/-- Looks for files and does something with them. -/
def run (start : Start) (arguments : List Octets) : Exec Unit := do
  match search (← get) arguments with
  | .error message =>
    finish do
      Tools.fault message
      pure 1
  | .ok s => do
    let ((), st) ← (walkAll start s).run {}
    setStatus st.code

end Finding

/-- The programs that run another program, by their names. -/
def wrappers : List (String × (Start → List Octets → Exec Unit)) :=
  [("env", Environs.run), ("find", Finding.run), ("nice", runNice), ("nohup", runLasting),
    ("setsid", runLasting), ("stdbuf", runBuffered), ("timeout", runTimed),
    ("xargs", Gathering.run)]

end Fleet.Shell
