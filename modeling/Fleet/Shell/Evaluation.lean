import Fleet.Awk.Command
import Fleet.Shell.Invocation
import Fleet.Shell.Loops
import Fleet.Shell.Parser
import Fleet.Shell.Starting
import Fleet.Shell.Waiting
import Fleet.Shell.Wrappers

/-!
# Running scripts

Commands are run one after the other, each changing the state of the process. What the stages of a
pipeline print is handed on when a stage is over. The fuel bounds how long a script may run; it is
chosen so large that only a script that never ends uses it up.
-/

namespace Fleet.Shell

/-- What is around a command. -/
structure Mode : Type where
  /-- Whether it is looked at whether the command fails. -/
  tested : Bool := false
  /-- Whether the process ends with the command. -/
  last : Bool := false
  deriving Repr

/-- The mode of commands that others follow. -/
def Mode.inner (mode : Mode) : Mode :=
  { mode with last := false }

/-- The mode of the body of a process of its own. -/
def Mode.whole : Mode :=
  { last := true }

/-- Whether the shell has to be there when a command is over, since something is to be run then. -/
def hasTraps (p : Process) : Bool :=
  p.traps.any fun (_, action) => !action.isEmpty

/-- A step of a process of its own; only a signal, or having run for too long, gets out of it. -/
def toItsEnd (step : Exec Unit) : Exec Unit :=
  tryCatch step fun
    | .killed signal => throw (.killed signal)
    | .exhausted => throw .exhausted
    | .asleep => throw .asleep
    | _ => pure ()

/-- Says that a signal has ended a process, where that is said. -/
def reportEnd (ending : Option Ending) : Exec Unit := do
  if (← get).dialect = .plain then
    (sayEpitaph (ending.getD (.code 0)) : StateM Process Unit)

/-- Writes text to the stream that stands behind a number. -/
def sayTo (stream : Option Nat) (text : Octets) : StateM Process Unit :=
  modify fun p =>
    let given := p.descriptors
    let p := { p with descriptors := (stream.map fun number => (2, number)).toList }
    { p.write 2 text with descriptors := given }

/-- What is printed in front of a command that is shown before it is run. In the rich shell its
first octet says how deep the script lies within others. -/
def traceLead (fuel : Nat) : Exec Octets := do
  let p ← get
  let lead := (p.valueOf? "PS4".toList).getD []
  let given : Exec Octets := pure lead
  let attempt (step : Exec Octets) : Exec Octets :=
    tryCatch step fun
      | .failed => given
      | jump => throw jump
  let broken (message : String) : Exec Octets :=
    attempt (fail message.toList)
  let starts (c : Octets) : Bool :=
    "$(".toList.isPrefixOf c && !"$((".toList.isPrefixOf c
  let text ←
    if (List.range lead.length).any fun i => starts (lead.drop i) then
      broken "Syntax error: end of file unexpected (expecting \")\")"
    else
      match readPrompt p.dialect lead with
      | .error e => broken e.message
      | .ok word => attempt (expandText (fun _ => pure []) fuel .nowhere word)
  modify fun q => { q with status := p.status }
  pure (List.replicate p.depth (text.take 1) |>.flatten |>.append text)

/-- Shows a simple command before it is run, if that is asked for. -/
def showCommand (fuel : Nat) (stream : Option Nat) (words : List Octets) : Exec Unit := do
  let p ← get
  if p.isOn 'x' then
    let lead ← traceLead fuel
    let words := if p.dialect = .rich then words.map Quoting.asNeeded else words
    (sayTo stream (lead ++ List.intercalate [' '] words ++ ['\n']) : StateM Process Unit)

/-- Shows an assignment of the rich shell before a command is run, if that is asked for. -/
def showAssignment (fuel : Nat) (stream : Option Nat) (head value : Octets) : Exec Unit := do
  if (← get).isOn 'x' then
    let lead ← traceLead fuel
    (sayTo stream (lead ++ head ++ value ++ ['\n']) : StateM Process Unit)

/-- Complains if a builtin could not write what it has printed. -/
def reportRefused (name : Octets) : Exec Unit := do
  let p ← get
  match p.refused with
  | none => pure ()
  | some e => do
    match p.dialect with
    | .plain => complain (name ++ ": I/O error".toList)
    | .rich => complain ("write error: ".toList ++ e.description.toList)
    modify fun p => { p with refused := none, status := p.status ||| 1 }

/-- Looks for the programs that the stages of a pipeline name, so that their places are kept. -/
def prehash (commands : List Command) : Exec Unit :=
  commands.forM fun command => do
    let p ← get
    let name? :=
      match command with
      | .simple _ _ (word :: _) _ => (plainOctets? word).filter isName
      | _ => none
    match name?.filter fun name => !isBuiltin .plain name && (p.functions.lookup name).isNone with
    | some name => do
      let _ ← trackProgram name
    | none => pure ()

/-- Where a text that is run comes from. -/
structure Origin : Type where
  /-- What complaints of the rich shell about how it is written name. -/
  label : Option String := none
  /-- Whether its lines are shown as they are read, if that is asked for. -/
  isFile : Bool := false
  deriving Repr

/-- Complains about how a text is written. The rich shell shows the line, if something in it is the
mistake. -/
def refuseText (origin : Origin) (input : Input) (e : SyntaxError) : Exec Unit := do
  modify fun p => { p with line := e.line }
  let p ← get
  match p.dialect with
  | .plain => fail e.message.toList
  | .rich => do
    let label := ((origin.label.map fun label => label ++ ": ").getD "").toList
    let lead := p.title ++ ": ".toList ++ label ++ "line ".toList ++ decimal e.line ++ ": ".toList
    let text := ((input.rest.splitOn '\n')[e.line - input.line]?).getD []
    let isNear := 1 < (e.message.splitOn " near ").length
    (do
      (e.message.splitOn "\n").forM fun line => sayError (lead ++ line.toList ++ ['\n'])
      if isNear then sayError (lead ++ '`' :: text ++ "'\n".toList) : StateM Process Unit)
    setStatus 2
    throw .failed

/-- Keeps the codes of the commands of a pipeline. -/
def keepCodes (codes : List Nat) : Exec Unit :=
  modify (·.putTable "PIPESTATUS".toList (codes.map decimal))

/-- Assigns a value to a variable for a command only. A variable that can no longer be changed stays
as it is. -/
def assignFor (name value : Octets) : Exec Unit := do
  let p ← get
  if p.isFixed name then complain (name ++ ": readonly variable".toList)
  else
    let old := p.declared? name
    let shadow : Shadow := match old with
      | some v => .variable v
      | none => .absent name
    let v : Variable := { name, value := some value, exported := true }
    modify fun p =>
      { p.putVariable v with
        shadows := shadow :: p.shadows, temporary := name :: p.temporary }
    followRich name value

/-- Runs a step, at the end of which the variables are restored that were assigned for it; `depth`
is how much there was to be restored before they were assigned. What the step has to be restored
besides is kept. -/
def withoutTemporary (depth : Nat) (assign step : Exec Unit) : Exec Unit := do
  assign
  let count := (← get).shadows.length - depth
  let restore : Exec Unit := do
    let p ← get
    let inner := p.shadows.take (p.shadows.length - depth - count)
    let own := (p.shadows.drop inner.length).take count
    set { p with shadows := own ++ p.shadows.drop (inner.length + count) }
    unshadow own.length
    modify fun p => { p with shadows := inner ++ p.shadows }
  tryCatch step fun jump => do
    match jump with
    | .leave _ | .breakOff _ | .nextRound _ | .discarded => restore
    | _ => pure ()
    throw jump
  restore

/-- What is to be restored, where some variables are to stay as they are now. -/
def keepingNow (p : Process) (names : List Octets) (shadows : List Shadow) : List Shadow :=
  let now (name : Octets) (shadow : Shadow) : Shadow :=
    if names.contains name then ((p.declared? name).map Shadow.variable).getD shadow else shadow
  shadows.map fun
    | .variable old => now old.name (.variable old)
    | .absent name => now name (.absent name)
    | .options letters => .options letters

/-- Whether a script only says that a file is to be read; its content stands for what it prints. -/
def readsOnly? : List Command → Option Redirection
  | [.simple _ [] [] [.read 0 file]] => some (.read 0 file)
  | _ => none

/-- What is said of a file that the rich shell cannot run, and the code for that. -/
def richStartFault (p : Process) (path : Octets) (e : OsError) : String × Nat :=
  let isThere := (p.tree.entryAt p.here? path.toText).isOk
  match e with
  | .noSuchFile =>
    if isThere then ("cannot execute: required file not found", 127) else (e.description, 127)
  | .permissionDenied =>
    if p.tree.isDirectory p.here? path.toText then (OsError.isDirectory.description, 126)
    else (e.description, 126)
  | e => (e.description, 126)

/-- The path of a program that may not be run, if a name without a slash leads to one. -/
def refusedPath? (p : Process) (name : Octets) : Option Octets :=
  ((searchPath p).map (Names.pathIn · name)).find? fun path => p.tree.isFile p.here? path.toText

/-- The value of the expression of an arithmetic command, if there is no mistake in it. -/
def tryExpression (run : List Command → Exec Octets) (fuel : Nat) (expression : Word) :
    Exec (Option Int) := do
  Leaving.tryCompute (← expandText run fuel .nowhere expression)

/-- The value of an expression of a loop, if there is no mistake in it; `missing` if it is empty. -/
def valueInLoop (run : List Command → Exec Octets) (fuel : Nat) (expression : Word)
    (missing : Int) :
    Exec (Option Int) := do
  let text ← expandText run fuel .nowhere expression
  if text.all Char.isWhitespace then pure (some missing)
  else do
    let outer := (← get).within
    modify fun p => { p with within := "((: ".toList }
    let value ← Leaving.tryCompute text
    modify fun p => { p with within := outer }
    pure value

/-- Opens the files of redirections; says whether all could be opened. The rich shell works out each
redirection when it is its turn. -/
def openGiven (run : List Command → Exec Octets) (fuel : Nat) (redirections : List Redirection) :
    Exec Bool := do
  match (← get).dialect with
  | .plain => openAll (← redirections.mapM (targetOf run fuel))
  | .rich =>
    tryCatch (do
      redirections.forM fun redirection => do
        openTarget (← targetOf run fuel redirection)
      pure true) fun
      | .failed => pure false
      | jump => throw jump

/-- Assigns a value to a variable or an array in the rich shell, and shows that if it is asked for.
-/
def runAssignment (run : List Command → Exec Octets) (fuel : Nat) : Assignment → Exec Unit
  | .assignment name subscript adds value => do
    let subscript? ← subscript.mapM (expandText run fuel .nowhere)
    let stream := (← get).descriptors.lookup 2
    let head := name ++ ((subscript?.map fun s => '[' :: s ++ [']']).getD []) ++
      (if adds then ['+', '='] else ['='])
    match value with
    | [.elements items] => do
      let given ← expandItems run fuel items
      let shown := given.map fun (key, adds, text) =>
        ((key.map fun key => '[' :: key ++ (if adds then "]+=" else "]=").toList).getD []) ++
          Quoting.asNeeded text
      showAssignment fuel stream head ('(' :: List.intercalate [' '] shown ++ [')'])
      storeTable name false adds given
    | value => do
      let text ← expandText run fuel .colons value
      showAssignment fuel stream head (if text.isEmpty then [] else Quoting.asNeeded text)
      store name subscript? adds text

/-- The variable and the value of an assignment in front of a command. -/
def temporaryValue (run : List Command → Exec Octets) (fuel : Nat) :
    Assignment → Exec (Octets × Octets)
  | .assignment name _ adds value => do
    let text ← expandText run fuel .colons value
    let p ← get
    let old := if adds then (p.valueOf? name).getD [] else []
    pure (name, ← valueFor (p.declared? name) none false (old ++ text))

mutual

/-- Runs commands one after the other. -/
def runCommands : Nat → Mode → List Command → Exec Unit
  | 0, _, _ => throw .exhausted
  | _, _, [] => pure ()
  | n + 1, mode, [command] => runCommand n mode command
  | n + 1, mode, command :: rest => do
    runCommand n mode.inner command
    runCommands n mode rest

/-- Runs commands as those of a whole process, and at their end what is to be run there. -/
def runToEnd : Nat → Mode → List Command → Exec Unit
  | 0, _, _ => throw .exhausted
  | n + 1, mode, commands => do
    toItsEnd (runCommands n mode commands)
    runExitTrap n

/-- Runs what is to be run at the end of a process. -/
def runExitTrap : Nat → Exec Unit
  | 0 => throw .exhausted
  | n + 1 => do
    let p ← get
    match p.traps.lookup 0 with
    | none => pure ()
    | some action => do
      set
        { p with
          traps := p.traps.filter (·.1 != 0), interrupted := some p.status, loops := 0 }
      tryCatch (do
        let _ ← runText n {} { label := some "exit trap" } { rest := action, line := 1 }
        setStatus p.status) fun
        | .killed signal => throw (.killed signal)
        | .exhausted => throw .exhausted
        | .asleep => throw .asleep
        | .exit | .failed => pure ()
        | _ => setStatus p.status

/-- Runs what is to be run on the signals that have arrived. -/
def runSignals : Nat → Exec Unit
  | 0 => throw .exhausted
  | n + 1 => do
    heedSignals
    let p ← get
    match p.calls? with
    | none => pure ()
    | some signal => do
      let outer := p.interrupted
      let before := outer.getD p.status
      let action := (p.traps.lookup signal).getD []
      set
        { p with
          interrupted := some before
          signals := p.signals.filter fun sent => sent != (p.number, signal) }
      tryCatch (do
        let _ ← runText n {} { label := some "trap" } { rest := action, line := 1 }) fun jump => do
        match jump with
        | .leave true => modify fun p => { p with interrupted := outer }
        | .leave false | .breakOff _ | .nextRound _ =>
          modify fun p => { p with interrupted := outer, status := before }
        | _ => pure ()
        throw jump
      modify fun p => { p with interrupted := outer, status := before }
      runSignals n

/-- Runs what is to be run on an occasion in the rich shell. -/
def runOccasion : Nat → Nat → String → Exec Unit
  | 0, _, _ => throw .exhausted
  | n + 1, number, label => do
    let p ← get
    match (p.traps.lookup number).filter fun action => !action.isEmpty with
    | none => pure ()
    | some action => do
      set { p with traps := p.traps.filter (·.1 != number) }
      let back (q : Process) : Process :=
        if (q.traps.lookup number).isSome then q
        else { q with traps := (number, action) :: q.traps }
      puttingBack back do
        let _ ← runText n { tested := true } { label := some label }
          { rest := action, line := p.line }
      setStatus p.status

/-- Runs a step as a process of its own, for the end of which one waits. What runs beside comes
first. -/
def runFork : Nat → Exec Unit → Exec Unit
  | 0, _ => throw .exhausted
  | n + 1, step => do
    runDue n
    modify Jobs.clearPlace
    let fate ← inCopy step
    modify Jobs.notice
    heedSignals
    reportEnd (fate.map Ending.signal)

/-- Runs what stands in the place of a word, and gives what it prints. -/
def runWithin : Nat → List Command → Exec Octets
  | 0, _ => throw .exhausted
  | n + 1, script => do
    runDue n
    modify Jobs.clearPlace
    let before := (← get).status
    let inside : Exec Unit := do
      let p ← get
      if p.dialect = .rich then
        -- Failures end a script within another one only if an option says so.
        let kept := p.extras.contains "inherit_errexit"
        set
          { p with
            depth := p.depth + 1
            options := if kept then p.options else p.options.filter (· != 'e') }
      match (readsOnly? script).filter fun _ => p.dialect = .rich with
      | some redirection => do
        let target ← targetOf (runWithin n) n redirection
        if ← openAll [target] then
          let (text, p) := (← get).readAll 0
          set p
          (say text : StateM Process Unit)
          setStatus 0
      | none => runToEnd n .whole script
    let (text, fate) ← captured inside
    modify Jobs.notice
    heedSignals
    reportEnd (fate.map Ending.signal)
    modify fun p =>
      { p with
        substituted := p.status
        status := if p.dialect = .rich then p.status else before }
    pure text

/-- Runs a command that is part of a script. -/
def runCommand : Nat → Mode → Command → Exec Unit
  | 0, _, _ => throw .exhausted
  | n + 1, mode, command => do
    if !(← get).isOn 'n' then
      runSignals n
      let checked ← runKind n mode command
      runSignals n
      let p ← get
      if checked && !mode.tested && p.status ≠ 0 then
        if p.dialect = .rich then runOccasion n Traps.onFailure "error trap"
        if p.isOn 'e' then throw .exit
    if mode.last then throw .exit

/-- Runs a command of any kind; says whether its failure counts where failures end the script. -/
def runKind : Nat → Mode → Command → Exec Bool
  | 0, _, _ => throw .exhausted
  | n + 1, mode, command => do
    let tested : Mode := { tested := true }
    match command with
    | .simple line assignments words redirections => do
      modify fun p => { p with line }
      if (← get).dialect = .rich then
        runRich n mode assignments words redirections
        keepCodes [(← get).status]
      else runPlain n mode assignments words redirections
      pure true
    | .pipeline commands => do
      runDue n
      modify Jobs.clearPlace
      let p ← get
      if p.dialect = .plain then prehash commands
      let endings ← runStages n mode commands
      modify Jobs.notice
      heedSignals
      if p.dialect = .plain then (endings.forM sayEpitaph : StateM Process Unit)
      else do
        let codes := endings.map Ending.status
        keepCodes codes
        if p.extras.contains "pipefail" then
          setStatus ((codes.reverse.find? (· ≠ 0)).getD 0)
      pure true
    | .background line command => do
      modify fun p => { p with line }
      let size := match command with
        | .pipeline commands => commands.length
        | _ => 1
      modify fun p => { p.startTask command size with status := 0 }
      pure true
    | .negated command => do
      runCommand n tested command
      modify fun p => { p with status := if p.status = 0 then 1 else 0 }
      pure false
    | .andThen first second => do
      runCommand n tested first
      if (← get).status = 0 then runCommand n mode second
      pure false
    | .orElse first second => do
      runCommand n tested first
      if (← get).status ≠ 0 then runCommand n mode second
      pure false
    | .subshell line body redirections => do
      modify fun p => { p with line }
      let started ← get
      let fault := if started.dialect = .rich then 1 else 2
      let targets ← redirections.mapM (targetOf (runWithin n) n)
      let inside : Exec Unit := do
        if started.dialect = .rich then modify fun p => { p with loops := 0 }
        if ← openAll targets then runCommands n { mode with last := true } body
        else setStatus fault
      if mode.last && !hasTraps (← get) then
        modify fun p => { p with traps := Traps.handedOn p, jobs := [] }
        toItsEnd inside
        runExitTrap n
        throw .exit
      runFork n do
        toItsEnd inside
        runExitTrap n
      if started.dialect = .rich then
        modify (restoringDescriptors started.descriptors)
        keepCodes [(← get).status]
      pure true
    | .redirected line command redirections => do
      modify fun p => { p with line }
      let started ← get
      let back := restoringDescriptors started.descriptors
      if ← openGiven (runWithin n) n redirections then
        puttingBack back (runCommand n mode.inner command)
        runChannels n started.channels.length
        pure false
      else
        modify back
        setStatus (if started.dialect = .rich then 1 else 2)
        pure true
    | .group body => do
      runCommands n mode body
      pure false
    | .conditional test thenBranch elseBranch => do
      runCommands n tested test
      if (← get).status = 0 then runCommands n mode thenBranch
      else if elseBranch.isEmpty then setStatus 0
      else runCommands n mode elseBranch
      pure false
    | .loop whileFails test body => do
      inLoop (runLoop whileFails (runCommands n tested test) (runCommands n mode.inner body) n 0)
      pure false
    | .forEach line name words body => do
      modify fun p => { p with line }
      let started ← get
      let items ←
        match words with
        | some words => do
          pure (← words.mapM (expandFields (runWithin n) n)).flatten
        | none => pure started.arguments
      if items.isEmpty then setStatus 0
      if started.dialect = .rich && !isName name then
        complain ('`' :: name ++ "': not a valid identifier".toList)
        setStatus 1
        pure true
      else
        inLoop (runForEach name (runCommands n mode.inner body) items)
        modify (restoringDescriptors started.descriptors)
        pure false
    | .choose line word branches => do
      modify fun p => { p with line }
      let text ← expandText (runWithin n) n .start word
      let covers (word : Word) : Exec Bool := do
        let pattern ← expandPattern (runWithin n) n word
        pure (((← get).comparing pattern).covers text)
      let run (ends : Bool) (body : List Command) : Exec Unit :=
        runCommands n (if ends then mode else mode.inner) body
      if !(← runBranches covers run false branches) then setStatus 0
      pure false
    | .define _ name body => do
      modify fun p =>
        { p with
          functions := (name, body) :: p.functions.filter (·.1 != name)
          origins := (p.source.map fun file => (name, file)).toList ++
            p.origins.filter (·.1 != name)
          status := 0 }
      pure false
    | .timed short command => do
      runCommand n mode.inner command
      let line (name : String) : String :=
        if short then name ++ " 0.00\n" else name ++ "\t0m0.000s\n"
      let times := line "real" ++ line "user" ++ line "sys"
      (sayError (if short then times else "\n" ++ times).toList : StateM Process Unit)
      pure false
    | .condition line condition => do
      modify fun p => { p with line }
      Conditions.run (expand (runWithin n) n) n condition
      keepCodes [(← get).status]
      pure true
    | .compute line expression => do
      modify fun p => { p with line }
      naming "((: ".toList do
        match ← tryExpression (runWithin n) n expression with
        | some value => setStatus (if value = 0 then 1 else 0)
        | none => setStatus 1
      keepCodes [(← get).status]
      pure true
    | .counting line start test step body => do
      modify fun p => { p with line }
      let within (expression : Word) (missing : Int) : Exec (Option Int) :=
        valueInLoop (runWithin n) n expression missing
      if (← within start 0).isSome then
        inLoop (runCounting (within test 1) (within step 1) (runCommands n mode.inner body) n 0)
      else setStatus 1
      pure false
    | .select line name words body => do
      modify fun p => { p with line }
      let items ←
        match words with
        | some words => do
          pure (← words.mapM (expandFields (runWithin n) n)).flatten
        | none => do pure (← get).arguments
      setStatus 0
      if !items.isEmpty then
        inLoop (runSelection name items (runCommands n mode.inner body) n true)
      pure false

/-- Runs what takes what was written to the streams of a command, but for the given number of those.
-/
def runChannels : Nat → Nat → Exec Unit
  | 0, _ => throw .exhausted
  | n + 1, before => do
    let p ← get
    if before < p.channels.length then
      let fresh := p.channels.drop before
      set { p with channels := p.channels.take before }
      fresh.forM fun channel => do
        let text := (← get).writtenTo channel.stream
        runFork n do
          modify fun p => { p with descriptors := channel.descriptors }
          modify (·.openStream 0 (.input text))
          runToEnd n .whole channel.script
      setStatus p.status

/-- Runs a simple command of the plain shell. -/
def runPlain : Nat → Mode → List Assignment → List Word → List Redirection → Exec Unit
  | 0, _, _, _, _ => throw .exhausted
  | n + 1, mode, assignments, words, redirections => do
    let within := runWithin n
    modify fun p => { p with substituted := 0 }
    let i ← Invocation.ofWords within n words
    let name := i.fields.headD []
    let arguments := i.fields.drop 1
    let isSpecial := i.special == some true
    let isExec := i.isOfBuiltin (← get) && name = "exec".toList
    let targets ← redirections.mapM (targetOf within n)
    let outer := (← get).descriptors
    let back (p : Process) : Process := { p with descriptors := outer }
    let rest : Exec Unit := do
      let assigned ← assignments.mapM fun (.assignment name _ _ value) => do
        let text ← expandText within n .colons value
        if i.fields.isEmpty || isSpecial then
          assignVariable name text (isExec && !arguments.isEmpty)
        else shadowVariable name (some text) true
        pure (name ++ '=' :: text)
      showCommand n (outer.lookup 2) (assigned ++ i.shown)
      if i.fields.isEmpty then modify fun p => { p with status := p.substituted }
      else
        match ((← get).functions.lookup name).filter fun _ => !i.direct && !name.contains '/' with
        | some body => runFunction n mode.inner body arguments
        | none =>
          if i.isOfBuiltin (← get) then
            tryCatch (runBuiltin n mode.inner name arguments) fun jump =>
              if jump = .failed && !isSpecial then pure () else throw jump
          else runProgram n mode i.directories name arguments
    if ← openAll targets then
      let kept : Process → Process := if isExec then id else back
      tryCatch (if i.fields.isEmpty || isSpecial then rest else withShadows rest) fun jump => do
        modify back
        throw jump
      modify kept
    else
      modify back
      setStatus 2
      if isSpecial then throw .failed

/-- Runs a simple command of the rich shell. -/
def runRich : Nat → Mode → List Assignment → List Word → List Redirection → Exec Unit
  | 0, _, _, _, _ => throw .exhausted
  | n + 1, mode, assignments, words, redirections => do
    modify fun p => { p with substituted := 0 }
    let started ← get
    let back := restoringDescriptors started.descriptors
    let keepLast (text : Octets) : Exec Unit :=
      modify fun p =>
        let v := (p.declared? ['_']).getD { name := ['_'], value := none }
        p.putVariable { v with value := some text, exported := false }
    let arguments ← Invocation.argumentsOf (runWithin n) n words
    let fields := arguments.map Argument.octets
    match arguments with
    | [] => do
      assignments.forM (runAssignment (runWithin n) n)
      let opened ← openGiven (runWithin n) n redirections
      modify fun p => { back p with status := if opened then p.substituted else 1 }
      runChannels n started.channels.length
      keepLast []
    | head :: rest => do
      let isExec := fields = ["exec".toList] && (started.functions.lookup head.octets).isNone
      let values ← assignments.mapM (temporaryValue (runWithin n) n)
      let stream := started.descriptors.lookup 2
      if ← openGiven (runWithin n) n redirections then
        let assign : Exec Unit :=
          values.forM fun (name, value) => do
            showAssignment n stream (name ++ ['=']) (Quoting.asNeeded value)
            assignFor name value
        let body : Exec Unit := do
          showCommand n stream fields
          runCall n mode false none arguments
          if head.octets = "export".toList || head.octets = "readonly".toList then
            -- What is marked for good is more than for the command.
            let kept := (rest.map fun a => (Declaring.parts a.octets).name).filter
              (values.map Prod.fst).contains
            modify fun p => { p with shadows := keepingNow p kept p.shadows }
        let forget (p : Process) : Process := { p with temporary := started.temporary }
        let tidy (p : Process) : Process := forget (if isExec then p else back p)
        puttingBack tidy (withoutTemporary started.shadows.length assign body)
        if !isExec then runChannels n started.channels.length
      else
        modify fun p => { back p with status := 1 }
      keepLast (fields.getLastD [])

/-- Runs what a name stands for in the rich shell; functions may be left out. -/
def runCall : Nat → Mode → Bool → Option (List Octets) → List Argument → Exec Unit
  | 0, _, _, _, _ => throw .exhausted
  | _, _, _, _, [] => setStatus 0
  | n + 1, mode, direct, directories, head :: rest => do
    let name := head.octets
    match ((← get).functions.lookup name).filter fun _ => !direct with
    | some body => runRichFunction n mode.inner name body (rest.map Argument.octets)
    | none =>
      if isBuiltin .rich name then runRichBuiltin n mode name rest
      else runFound n mode directories name (rest.map Argument.octets)

/-- Runs a function of the rich shell with arguments. -/
def runRichFunction : Nat → Mode → Octets → Command → List Octets → Exec Unit
  | 0, _, _, _, _ => throw .exhausted
  | n + 1, mode, name, body, arguments => do
    let p ← get
    let hidden := [Traps.onFailure, Traps.onReturn].filter fun number => !Traps.isKept p number
    let back (q : Process) : Process :=
      let old := p.traps.filter fun (number, _) =>
        hidden.contains number && (q.traps.lookup number).isNone
      { q with
        arguments := p.arguments
        loops := p.loops
        inFunction := p.inFunction
        calls := p.calls
        frame := p.frame
        source := p.source
        traps := old ++ q.traps }
    set
      { p with
        arguments
        loops := 0
        inFunction := true
        calls := name :: p.calls
        frame := p.shadows.length
        source := p.origins.lookup name
        temporary := []
        traps := p.traps.filter fun (number, _) => !hidden.contains number }
    puttingBack back (withShadows do
      tryCatch (runCommand n mode body) fun
        | .leave _ => pure ()
        | jump => throw jump
      runOccasion n Traps.onReturn "return trap")

/-- Runs a builtin of the rich shell. No mistake in its arguments ends the script. -/
def runRichBuiltin : Nat → Mode → Octets → List Argument → Exec Unit
  | 0, _, _, _ => throw .exhausted
  | n + 1, mode, name, arguments =>
    naming (name ++ ": ".toList) do
      modify fun p => { p with refused := none }
      let text := String.ofList name
      let texts := arguments.map Argument.octets
      tryCatch (match declaringBuiltins.lookup text, textBuiltins.lookup text with
        | some run, _ => run arguments
        | none, some run => run texts
        | none, none => runRichOther n mode text arguments) fun
        | .failed => pure ()
        | jump => throw jump
      reportRefused name

/-- Runs a builtin of the rich shell that runs something else. -/
def runRichOther : Nat → Mode → String → List Argument → Exec Unit
  | 0, _, _, _ => throw .exhausted
  | n + 1, mode, name, arguments => do
    let texts := arguments.map Argument.octets
    let deeper (step : Exec Unit) : Exec Unit := do
      let depth := (← get).depth
      modify fun p => { p with depth := depth + 1 }
      puttingBack (fun p => { p with depth }) (naming [] step)
    match name with
    | "eval" => do
      let text := List.intercalate [' '] (Leaving.withoutDashes texts)
      let line := (← get).line
      deeper do
        let found ← runText n mode.inner { label := some "eval" } { rest := text, line }
        if !found then setStatus 0
    | "exec" => runExec n texts
    | "wait" => Waiting.runRich (runTill n) texts
    | "." | "source" => do
      let (_, rest) ← Letters.take ⟨[], []⟩ texts
      match rest with
      | [] => do
        complain "filename argument required".toList
        explainUse
      | file :: given => deeper (runSource n file given)
    | "command" => do
      let isOption (argument : Argument) : Bool :=
        match argument.octets with
        | ['-', '-'] => true
        | '-' :: _ :: _ => true
        | _ => false
      let (options, _) ← Letters.take ⟨['p', 'v', 'V'], []⟩ texts
      let has (c : Char) : Bool := options.any (·.1 == c)
      let before := arguments.takeWhile isOption
      -- What follows two hyphens is no option.
      let ended := before.findIdx fun argument => argument.octets == ['-', '-']
      let rest := arguments.drop (min (ended + 1) before.length)
      if has 'v' || has 'V' then Names.inquire (has 'p') (has 'V') (rest.map Argument.octets)
      else
        naming [] (runCall n mode true (if has 'p' then some standardPath else none) rest)
    | "builtin" => do
      let (_, rest) ← Letters.take ⟨[], []⟩ texts
      match arguments.drop (arguments.length - rest.length) with
      | [] => setStatus 0
      | head :: rest =>
        if isBuiltin .rich head.octets then naming [] (runRichBuiltin n mode head.octets rest)
        else failWith 1 (head.octets ++ ": not a shell builtin".toList)
    | "logout" => failWith 1 "not login shell: use `exit'".toList
    | "suspend" => failWith 1 "cannot suspend: no job control".toList
    | _ => setStatus 0

/-- Runs a program in the place of the rich shell. -/
def runExec : Nat → List Octets → Exec Unit
  | 0, _ => throw .exhausted
  | n + 1, arguments => do
    let (options, rest) ← Letters.take ⟨['c', 'l'], ['a']⟩ arguments
    match rest with
    | [] => setStatus 0
    | name :: given => do
      let p ← get
      let path? := if name.contains '/' then some name
        else ((Program.search p.tree p.here? name false 0 (searchPath p)).toOption).map Prod.snd
      let failing (code : Nat) : Exec Unit := do
        setStatus code
        if !p.extras.contains "execfail" then throw .exit
      match path? with
      | none => do
        complain (name ++ ": not found".toList)
        failing 127
      | some path =>
        let path := if name.contains '/' then Directory.reach p.reached path else path
        let name := if name.contains '/' then path else name
        match Program.atPath p.tree p.here? name path given with
        | .error .notExecutable | .ok _ => do
          if (options.lookup 'c').isSome then
            modify fun p => { p with vars := p.vars.map fun v => { v with exported := false } }
          modify leavingShell
          runAt n ((options.lookup 'a').getD name) path given
        | .error e => do
          let (what, code) := richStartFault p path e
          complain (path ++ ": ".toList ++
            (if code = 126 then "cannot execute: " else "").toList ++ what.toList)
          failing code

/-- Runs the script in a file in the process of the rich shell itself. -/
def runSource : Nat → Octets → List Octets → Exec Unit
  | 0, _, _ => throw .exhausted
  | n + 1, file, given => do
    let p ← get
    let found : Except OsError (Octets × Octets) :=
      match sourceOf p file with
      | .ok found => .ok found
      | .error e => if file.contains '/' then .error e else (p.readFile file).map (file, ·)
    match found with
    | .error e => failWith 1 (file ++ ": ".toList ++ e.description.toList)
    | .ok (path, text) =>
      if p.tree.isDirectory p.here? path.toText then
        failWith 1 (path ++ ": is a directory".toList)
      else
        let back (q : Process) : Process :=
          { q with
            source := p.source
            arguments := if given.isEmpty then q.arguments else p.arguments }
        modify fun p =>
          { p with
            source := some path
            arguments := if given.isEmpty then p.arguments else given }
        puttingBack back (tryCatch (do
          let found ← runText n {} { isFile := true } { rest := text, line := 1 }
          if !found then setStatus 0) fun
          | .leave _ => pure ()
          | jump => throw jump)

/-- Runs a program for the rich shell as a process of its own, or in the place of a shell that ends
with it. -/
def runFound : Nat → Mode → Option (List Octets) → Octets → List Octets → Exec Unit
  | 0, _, _, _, _ => throw .exhausted
  | n + 1, mode, directories, name, arguments => do
    let p ← get
    let found : Except OsError Octets ←
      if name.contains '/' then pure (.ok name)
      else if name.isEmpty then pure (.error .noSuchFile)
      else
        match directories with
        | some list => pure ((Program.search p.tree p.here? name false 0 list).map Prod.snd)
        | none => trackRich name 1
    match found with
    | .ok path =>
      let path := if path = name && !name.contains '/' then "./".toList ++ name else path
      if mode.last && !hasTraps p then
        modify leavingShell
        runAt n name path arguments
      else runFork n (toItsEnd (runAt n name path arguments))
    | .error e =>
      match (p.functions.lookup "command_not_found_handle".toList) with
      | some body =>
        runFork n (toItsEnd
          (runRichFunction n {} "command_not_found_handle".toList body (name :: arguments)))
      | none =>
        match (refusedPath? p name).filter fun _ => e = .permissionDenied with
        | some path => do
          complain (path ++ ": ".toList ++ e.description.toList)
          setStatus 126
        | none => do
          complain (name ++ ": command not found".toList)
          setStatus 127

/-- Runs the program at a path in the place of the rich shell. -/
def runAt : Nat → Octets → Octets → List Octets → Exec Unit
  | 0, _, _, _ => throw .exhausted
  | n + 1, name, path, arguments => do
    let p ← get
    match Program.atPath p.tree p.here? name path arguments with
    | .ok program => do
      set (p.putVariable { name := ['_'], value := some path, exported := true })
      runResolved n program
    | .error .notExecutable => runScript n .rich path arguments
    | .error e => do
      let (what, code) := richStartFault p path e
      complain (path ++ ": ".toList ++ what.toList)
      setStatus code
    throw .exit

/-- Runs the stages of a pipeline, each with what the one before has printed; says how each has
ended. A stage that goes on for too long while others wait for what it prints is ended by a signal,
since in the end no one takes what it prints. -/
def runStages : Nat → Mode → List Command → Exec (List Ending)
  | 0, _, _ => throw .exhausted
  | _, _, [] => pure []
  | n + 1, mode, [last] => do
    let p ← get
    let fate ←
      if p.dialect = .rich && p.extras.contains "lastpipe" then do
        runCommand n mode.inner last
        pure none
      else inCopy (runToEnd n { mode with last := true } [last])
    pure [(fate.map Ending.signal).getD (.code (← get).status)]
  | n + 1, mode, stage :: rest => do
    let (printed, fate) ← captured
      (tryCatch (runToEnd (min n 100000) { mode with last := true } [stage]) fun
        | .exhausted => throw (.killed 13)
        | jump => throw jump)
    let ending := (fate.map Ending.signal).getD (.code (← get).status)
    let outer := (← get).descriptors
    modify (·.openStream 0 (.input printed))
    let endings ← runStages n mode rest
    modify fun p => { p with descriptors := outer }
    pure (ending :: endings)

/-- Runs a function with arguments. -/
def runFunction : Nat → Mode → Command → List Octets → Exec Unit
  | 0, _, _, _ => throw .exhausted
  | n + 1, mode, body, arguments => do
    let p ← get
    let back (q : Process) : Process :=
      { q with
        arguments := p.arguments
        loops := p.loops
        inFunction := p.inFunction
        optionPlace := p.optionPlace
        optionOffset := p.optionOffset }
    set
      { p with
        arguments, loops := 0, inFunction := true, optionPlace := 1, optionOffset := none }
    puttingBack back (tryCatch (runCommand n mode body) fun
      | .leave _ => pure ()
      | jump => throw jump)

/-- Runs a builtin. -/
def runBuiltin : Nat → Mode → Octets → List Octets → Exec Unit
  | 0, _, _, _ => throw .exhausted
  | n + 1, mode, name, arguments =>
    naming (name ++ ": ".toList) do
      modify fun p => { p with refused := none }
      match builtins.lookup (String.ofList name) with
      | some run => run arguments
      | none =>
        match String.ofList name with
        | "eval" => do
          let text := List.intercalate [' '] arguments
          let found ← runText n mode.inner {} { rest := text, line := 1 }
          if !found then setStatus 0
        | "exec" => do
          match arguments with
          | [] => setStatus 0
          | program :: rest => do
            let p ← get
            runInPlace n program (candidates program 0 (searchPath p)) rest
        | "wait" => Waiting.run (runTill n) arguments
        | _ => do
          match ← noOptions arguments with
          | [] => setStatus 0
          | file :: _ => runFile n file
      reportRefused name

/-- Runs the script in a file in the process itself. -/
def runFile : Nat → Octets → Exec Unit
  | 0, _ => throw .exhausted
  | n + 1, file => do
    match sourceOf (← get) file with
    | .error e =>
      if file.contains '/' then
        fail ("cannot open ".toList ++ file ++ ": ".toList ++ (openFault false e).toList)
      else fail (file ++ ": not found".toList)
    | .ok (path, text) =>
      tryCatch (naming (path ++ ": ".toList) do
        let found ← runText n {} { isFile := true } { rest := text, line := 1 }
        if !found then setStatus 0) fun
        | .leave _ => pure ()
        | jump => throw jump

/-- Runs a program as a process of its own, or in the place of a shell that ends with it. -/
def runProgram : Nat → Mode → Option (List Octets) → Octets → List Octets → Exec Unit
  | 0, _, _, _, _ => throw .exhausted
  | n + 1, mode, directories, name, arguments => do
    let p ← get
    let list := directories.getD (searchPath p)
    let found : Except OsError Nat ←
      if name.contains '/' then pure (.ok 0)
      else
        match directories with
        | some list => pure ((Program.search p.tree p.here? name false 0 list).map Prod.fst)
        | none => trackProgram name
    match found with
    | .error e => do
      complain (name ++ ": ".toList ++ startFault e)
      setStatus 127
    | .ok place =>
      let paths := candidates name place list
      if mode.last && !hasTraps p then runInPlace n name paths arguments
      else runFork n (toItsEnd (runInPlace n name paths arguments))

/-- Runs the program at the first of some paths at which one can be run, in the place of the
shell. -/
def runInPlace : Nat → Octets → List Octets → List Octets → Exec Unit
  | 0, _, _, _ => throw .exhausted
  | n + 1, name, paths, arguments => do
    let p ← get
    match Program.firstOrScript p.tree p.here? name arguments .noSuchFile paths with
    | .ok (.inl program) => runResolved n program
    | .ok (.inr path) => runScript n .plain path arguments
    | .error e => do
      complain (name ++ ": ".toList ++ startFault e)
      let missing := [OsError.noSuchFile, .notDirectory, .tooManyLinks, .nameTooLong].contains e
      setStatus (if missing then 127 else 126)
    throw .exit

/-- Runs the script at a path as a shell of its own. -/
def runScript : Nat → Dialect → Octets → List Octets → Exec Unit
  | 0, _, _, _ => throw .exhausted
  | n + 1, dialect, path, arguments => do
    let text := ((← get).readFile path).toOption.getD []
    modify (·.forProgram path)
    startShell dialect
    modify fun p =>
      { p with arguments, source := if dialect = .rich then some path else none }
    toItsEnd do
      let _ ← runText n {} { isFile := true } { rest := text, line := 1 }
    runExitTrap n

/-- Runs a program that has been found. -/
def runResolved : Nat → Program → Exec Unit
  | 0, _ => throw .exhausted
  | n + 1, ⟨name, called, arguments⟩ => do
    modify (·.forProgram called)
    match Tools.all.lookup name with
    | some run => do
      runTool run arguments
      (Tools.reportRefused : StateM Process Unit)
    | none =>
      if Tools.interpreters.contains name then
        if name = "bash" then runRichInterpreter n arguments else runInterpreter n arguments
      else
        match (Awk.commands ++ wrappers).lookup name with
        | some run => run (runInstead n) arguments
        | none => runSleep n arguments

/-- Waits for as long as arguments say. -/
def runSleep : Nat → List Octets → Exec Unit
  | 0, _ => throw .exhausted
  | n + 1, arguments => do
    match ← (Tools.sleepTime arguments : StateM Process (Except Nat Nat)) with
    | .error code => setStatus code
    | .ok time => do
      let p ← get
      match p.deadline.filter fun limit => limit < p.clock + time with
      | some limit => do
        runUntil n limit
        throw (.killed p.timeSignal)
      | none => do
        runUntil n (p.clock + time)
        setStatus 0

/-- Runs a program in place of the one that runs now. -/
def runInstead : Nat → Start
  | 0, _, _, _ => throw .exhausted
  | n + 1, complaint, name, arguments => do
    let p ← get
    match Program.resolveScripts p.tree p.here? (directoriesOf p) name arguments with
    | .ok program => runResolved n program
    | .error e => do
      let code := if e = .noSuchFile || e = .notDirectory then 127 else 126
      finish do
        Tools.fault (complaint e)
        pure code

/-- Runs the program of a shell: a script among its arguments, in a file, or from its input. -/
def runInterpreter : Nat → List Octets → Exec Unit
  | 0, _ => throw .exhausted
  | n + 1, arguments => do
    let readInput : Exec Unit := do
      let (text, p) := (← get).readAll 0
      set p
      let _ ← runText n {} { isFile := true } { rest := text, line := 1 }
    toItsEnd do
      startShell .plain
      let given ← Switches.switchAll true arguments.length arguments
      let fromInput := (← get).isOn 's'
      match given.scripted, given.arguments with
      | true, [] => fail "-c requires an argument".toList
      | true, script :: rest => do
        modify fun p => { p with name := rest.headD p.name, arguments := rest.tail }
        Switches.withoutTerminal
        modify fun p => { p with line := 1 }
        let _ ← runText n { last := !fromInput } {} { rest := script, line := 1 }
        if fromInput then readInput
      | false, [] => do
        Switches.switch true 's'
        Switches.withoutTerminal
        readInput
      | false, file :: rest =>
        if fromInput then
          modify fun p => { p with arguments := file :: rest }
          Switches.withoutTerminal
          readInput
        else
          let p ← get
          match p.readFile file with
          | .ok text => do
            set { p with name := file, arguments := rest }
            Switches.withoutTerminal
            let _ ← runText n {} { isFile := true } { rest := text, line := 1 }
          | .error .isDirectory => setStatus 0
          | .error e =>
            fail ("cannot open ".toList ++ file ++ ": ".toList ++ (openFault false e).toList)
    runExitTrap n

/-- Runs a script in the rich shell: it stands among the arguments, in a file, or comes from the
input. -/
def runRichInterpreter : Nat → List Octets → Exec Unit
  | 0, _ => throw .exhausted
  | n + 1, arguments => do
    let sayLine (text : Octets) : Exec Unit := do
      let p ← get
      (sayError (p.name ++ ": ".toList ++ text ++ ['\n']) : StateM Process Unit)
    toItsEnd do
      startShell .rich
      match ← Starting.request arguments with
      | .answered => pure ()
      | .script none _ => do
        sayLine "-c: option requires an argument".toList
        setStatus 2
      | .script (some script) rest => do
        let last := !(← get).isOn 's'
        modify fun p =>
          { p with name := rest.headD p.name, arguments := rest.tail, inline := true, line := 1 }
        modify (·.putValue "BASH_EXECUTION_STRING".toList script)
        let _ ← runText n { last } { label := some "-c" } { rest := script, line := 1 }
      | .input rest => do
        modify fun p => { p with arguments := rest }
        runInput n 1
      | .file file rest => do
        let p ← get
        match sourceFor p file with
        | .error e => do
          sayLine (file ++ ": ".toList ++ e.description.toList)
          setStatus 127
        | .ok (path, text) =>
          if p.tree.isDirectory p.here? path.toText then
            (sayError (file ++ ": ".toList ++ file ++ ": Is a directory\n".toList) :
              StateM Process Unit)
            setStatus 126
          else
            set { p with name := file, arguments := rest, source := some file }
            let _ ← runText n {} { isFile := true } { rest := text, line := 1 }
    runExitTrap n
    runChannels n 0

/-- Runs the script that comes from the input, from which its commands may read as well. -/
def runInput : Nat → Nat → Exec Unit
  | 0, _ => throw .exhausted
  | n + 1, line => do
    let (text, p) := (← get).readAll 0
    set p
    let input := inputFor p { rest := text, line }
    match nextLine input with
    | .error e => refuseText {} input e
    | .ok (none, _) => pure ()
    | .ok (some commands, rest) => do
      modify (·.giveBack 0 rest.rest)
      runLine n {} commands
      runInput n rest.line

/-- Runs what was read of a script at a time. -/
def runLine : Nat → Mode → Line → Exec Unit
  | 0, _, _ => throw .exhausted
  | n + 1, mode, line => do
    let run := runCommands n { mode with last := mode.last && line.ended } line.commands
    match (← get).dialect with
    | .plain => run
    | .rich =>
      tryCatch run fun jump => do
        if jump ≠ .discarded then throw jump
        setStatus 1
        let p ← get
        if p.number ≠ p.shell then throw .exit

/-- Runs the lines of a script one after the other; says whether there are any. The lines of a file
are shown as they are read, if that is asked for. -/
def runText : Nat → Mode → Origin → Input → Exec Bool
  | 0, _, _, _ => throw .exhausted
  | n + 1, mode, origin, input => do
    let p ← get
    let input := inputFor p input
    let showRead (left : Octets) : StateM Process Unit :=
      if origin.isFile && p.isOn 'v' then
        sayError (input.rest.take (input.rest.length - left.length))
      else pure ()
    match nextLine input with
    | .error e => do
      (showRead [] : StateM Process Unit)
      refuseText origin input e
      pure false
    | .ok (none, rest) => do
      (showRead rest.rest : StateM Process Unit)
      pure false
    | .ok (some line, rest) => do
      (showRead rest.rest : StateM Process Unit)
      runLine n mode line
      let _ ← runText n mode origin rest
      pure true

/-- Runs a task until it sleeps or ends. -/
def runTask : Nat → Task → Exec Unit
  | 0, _ => throw .exhausted
  | n + 1, task => do
    let p ← get
    set (p.ofTask task)
    let ending : Option Ending ← tryCatch (do
      runToEnd n .whole [task.command]
      pure (some (.code ((← get).status % 256)))) fun
      | .killed signal => pure (some (.signal signal))
      | .asleep => pure none
      | jump => throw jump
    let after ← get
    set (p.afterTask task ending after)

/-- Runs what runs beside, as far as it is to be woken by now. -/
def runDue : Nat → Exec Unit
  | 0 => throw .exhausted
  | n + 1 => do
    let p ← get
    match nextTask? p.tasks (some p.clock) with
    | some task => do
      runTask n task
      runDue n
    | none => pure ()

/-- Lets time pass until some time, while other things run beside. -/
def runUntil : Nat → Nat → Exec Unit
  | 0, _ => throw .exhausted
  | n + 1, time => do
    let p ← get
    if p.aside then
      runDue n
      sleepAside time
    else
      match nextTask? p.tasks (some time) with
      | some task => do
        runTask n task
        runUntil n time
      | none => modify fun p => { p with clock := max p.clock time }

/-- Lets time pass until something is so, or there is nothing to wait for; says whether no signal
has come in between. -/
def runTill : Nat → (Process → Bool) → Exec Bool
  | 0, _ => throw .exhausted
  | n + 1, isOver => do
    let p ← get
    if isOver p then pure true
    else if p.calls?.isSome then pure false
    else
      match nextTask? p.tasks none with
      | some task => do
        if p.aside && p.clock < task.wake then sleepAside task.wake else runTask n task
        heedSignals
        runTill n isOver
      | none =>
        if p.again.isEmpty then pure true
        else do
          sleepAside p.clock
          runTill n isOver

end

/-- Runs what still runs beside when all else is over. -/
def runRest (fuel : Nat) : Exec Unit := do
  let _ ← runTill fuel fun p => p.tasks.isEmpty

end Fleet.Shell
