import Fleet.Tools.Editing.Parser
import Fleet.Tools.Editing.Running
import Fleet.Tools.Inputs

/-!
# The tool for editing lines

The tool `sed` runs a script over the lines of files and prints the result, or writes it back to
each file.
-/

namespace Fleet.Tools

open Shell

namespace Editing

/-- A part of the script, as an argument or from a file. -/
structure Part : Type where
  text : Octets
  file : Option Octets
  deriving Repr

/-- The place in a script that is put together from parts, given how much of it is in front: the
part, by its number among those of its kind, and how much of it is in front. -/
def locate (consumed : Nat) : Nat → List Part → Option (Nat × Part × Nat)
  | _, [] => none
  | n, [part] => some (n, part, min consumed part.text.length)
  | n, part :: rest =>
    if consumed ≤ part.text.length then some (n, part, consumed)
    else
      locate (consumed - part.text.length - 1) (if part.file.isNone then n + 1 else n) rest

/-- What is said about a fault in a script. -/
def Fault.report (f : Fault) (parts : List Part) : Octets :=
  let length := (parts.map fun part => part.text.length + 1).foldl (· + ·) 0 - 1
  let place (left : Nat) (isKnown : Bool) : Octets :=
    match locate (length - left) 1 parts with
    | none => []
    | some (_, ⟨text, some file⟩, column) =>
      let line := (text.take column).count '\n' + 1
      "file ".toList ++ file ++ " line ".toList ++ decimal line ++ ": ".toList
    | some (n, _, column) =>
      "-e expression #".toList ++ decimal n ++ ", char ".toList ++
        decimal (if isKnown then column else 0) ++ ": ".toList
  (match f.place with
    | .left count => place count true
    | .since count => place count false
    | .nowhere => []) ++ f.message.toList

/-- The files with the given contents as lines; line numbers start again with each file if
`separate` says so. -/
def linesOf (mark : Char) (separate : Bool) (files : List (Octets × Octets)) : List Line :=
  let split := files.map fun (name, text) => (name, splitLines mark text)
  let own (start : Nat) (file : Octets × List (Octets × Bool)) : List Line :=
    (file.2.zipIdx 1).map fun ((text, ended), n) =>
      { text, ended, number := start + n
        isLast := separate && n = file.2.length
        isFirst := if separate then n = 1 else start + n = 1
        source := file.1 }
  if separate then split.flatMap (own 0)
  else
    let (all, _) := split.foldl (fun (all, start) file =>
      (all ++ own start file, start + file.2.length)) (([] : List Line), 0)
    match all.reverse with
    | last :: before => ({ last with isLast := true } :: before).reverse
    | [] => []

/-- The state before the first line. -/
def start (lines : List Line) : State :=
  { line := ⟨[], true, 0, false, false, []⟩, rest := lines }

/-- Writes a file, or reports that it cannot be opened. -/
def store (path text : Octets) : StateM Process Bool := do
  match (← get).save path text.toBytes with
  | .ok p =>
    set p
    pure true
  | .error e => do
    fault ("couldn't open file ".toList ++ path ++ ": ".toList ++ e.description.toList)
    pure false

/-- The files that a script writes to. -/
def written (commands : List Command) : List Octets :=
  (commands.filterMap fun c =>
    match c.action with
    | .write path | .writeFirst path => some path
    | .substitute u => u.file
    | _ => none).eraseDups

/-- The code of a script that has ended; without a code of its own that of the files. -/
def codeOf (finish : Finish) (code : Nat) : StateM Process Nat := do
  match finish with
  | .done | .quit 0 => pure code
  | .quit n => pure n
  | .failed => do
    fault "-e expression #1, char 0: no previous regular expression".toList
    pure 1

/-- Reads files up to the first that is no file: their contents, and the code of those that cannot
be read. -/
def readAll : List Octets → StateM Process (List (Octets × Octets) × Nat)
  | [] => pure ([], 0)
  | path :: rest => do
    match ← readSource path with
    | .ok text =>
      let (others, code) ← readAll rest
      pure ((path, text) :: others, code)
    | .error u =>
      if u.opened then
        let name := if isInput path then "stdin".toList else path
        fault ("read error on ".toList ++ name ++ ": ".toList ++ u.error.description.toList)
        pure ([], 4)
      else
        fault ("can't read ".toList ++ path ++ ": ".toList ++ u.error.description.toList)
        let (others, code) ← readAll rest
        pure (others, max code 2)

/-- Gives back what is left of an input that is a file, once a script has ended early. -/
def leave (g : Setting) (s : State) : StateM Process Unit := do
  let left := (s.rest.filter fun line => isInput line.source).map fun line =>
    if line.ended then line.text ++ [g.mark] else line.text
  modify fun p => if p.inputSize?.isSome then p.giveBack 0 left.flatten else p

/-- Prints files as a script edits them. -/
def printAll (g : Setting) (separate : Bool) (paths : List Octets) : StateM Process Nat := do
  let (files, code) ← readAll (if paths.isEmpty then [['-']] else paths)
  let (s, finish) := (start (linesOf g.mark separate files)).runAll g
  say s.output.text
  let stored ← s.files.mapM fun (path, o) => store path o.text
  if finish ≠ .done then leave g s
  if !stored.all id then pure 4 else codeOf finish code

/-- The name of the copy of a file: an asterisk in the ending stands for its name. -/
def copyName (ending path : Octets) : Octets :=
  let name := lastName path
  let folder := path.take (path.length - name.length)
  let own :=
    if ending.contains '*' then ending.flatMap fun c => if c = '*' then name else [c]
    else name ++ ending
  if own.contains '/' then own else folder ++ own

/-- Puts a text in the place of a file; a link, or one of several names, gets a file of its own. -/
def replace (path text : Octets) : StateM Process Unit :=
  modify fun p =>
    let mode := ((entryOf p path).toOption.map p.tree.modeOf).getD 0o644
    let isShared := match entryOf p path false, locationOf p path false with
      | .ok (.link _), _ => true
      | _, .ok location => 1 < (p.tree.namesOf location).length
      | _, _ => false
    let edited := p.edit fun t here => do
      let t ← if isShared then t.removeFile here path.toText else pure t
      t.writeFile here path.toText text.toBytes mode
    edited.toOption.getD p

/-- Edits files in their places, one after the other. -/
def editAll (g : Setting) (ending : Octets) : List Octets → State → Nat → StateM Process Nat
  | [], s, code => do
    let stored ← s.files.mapM fun (path, o) => store path o.text
    pure (if stored.all id then code else 4)
  | path :: rest, s, code => do
    match (← get).readFile path with
    | .error .isDirectory => do
      fault ("couldn't edit ".toList ++ path ++ ": not a regular file".toList)
      pure 4
    | .error e => do
      fault ("can't read ".toList ++ path ++ ": ".toList ++ e.description.toList)
      editAll g ending rest s (max code 2)
    | .ok text => do
      let (s, finish) :=
        { s with rest := linesOf g.mark true [(path, text)], output := {} }.runAll g
      if finish ≠ .failed then
        if !ending.isEmpty then
          modify fun p =>
            let copied := p.edit fun t here =>
              t.writeFile here (copyName ending path).toText text.toBytes
            copied.toOption.getD p
        replace path s.output.text
      match finish with
      | .done => editAll g ending rest s code
      | finish => do
        let _ ← s.files.mapM fun (path, o) => store path o.text
        codeOf finish code

/-- The options of the tool. -/
def known : List KnownOption :=
  [flag 'b' ["binary"], flag 'r' ["regexp-extended"], flag 'E', perhapsValued 'i' ["in-place"],
    valued 'e' ["expression"], valued 'f' ["file"], valued 'l' ["line-length"],
    flag 'z' ["null-data", "zero-terminated"], flag 'n' ["quiet", "silent"],
    flag 's' ["separate"], flag 'u' ["unbuffered"], named 'p' "posix", named 'S' "sandbox",
    named 'D' "debug", named 'L' "follow-symlinks"]

/-- Reports a wrong use. -/
def misused (message : Option Octets) : StateM Process Nat := do
  match message with
  | some message => fault message
  | none => pure ()
  sayError
    "Usage: sed [OPTION]... \x7bscript-only-if-no-other-script\x7d [input-file]...\n\n".toList
  pure 1

/-- The parts of the script that options give, or why one of them cannot be read. -/
def partsOf (g : Given) : StateM Process (Except Octets (List Part)) := do
  let read (option : Char × Option Octets) : StateM Process (Except Octets (List Part)) := do
    match option with
    | ('e', some text) => pure (.ok [⟨text, none⟩])
    | ('f', some path) => do
      match ← readSource path with
      | .ok text =>
        let text := if text.getLast? == some '\n' then text.dropLast else text
        pure (.ok [⟨text, some path⟩])
      | .error u =>
        pure (.error ("couldn't open file ".toList ++ path ++ ": ".toList ++
          u.error.description.toList))
    | _ => pure (.ok [])
  let all ← g.options.mapM read
  pure ((all.mapM id).map List.flatten)

/-- Runs with options. -/
def run (given : Given) : StateM Process Nat := do
  let isGiven := given.has 'e' || given.has 'f'
  if !isGiven && given.operands.isEmpty then return ← misused none
  let fromOptions ← partsOf given
  let parts := if isGiven then fromOptions else .ok [⟨given.operands.headD [], none⟩]
  let paths := if isGiven then given.operands else given.operands.drop 1
  orFault parts (fun parts => do
    let text := joined ['\n'] (parts.map (·.text))
    let reading : Reading :=
      { form := if given.has 'E' || given.has 'r' then .extended else .basic
        sandboxed := given.has 'S' }
    match reading.script text with
    | .error e => do
      fault (e.report parts)
      pure (if e.place = .nowhere then 4 else 1)
    | .ok commands => do
      let p ← get
      let files := written commands
      let inPlace := given.has 'i'
      let g : Setting :=
        { commands := commands.toArray
          quiet := given.has 'n' || isQuiet ((parts.headD ⟨[], none⟩).text)
          mark := lineMark given
          width := ((given.value? 'l').map Tools.number).getD 70
          sharesOutput := !inPlace
          content := fun path =>
            if path = "/dev/stdin".toList then some (p.readAll 0).1
            else (p.readFile path).toOption }
      let opened ← (files.filter fun path => !"/dev/".toList.isPrefixOf path).mapM fun path =>
        store path []
      if !opened.all id then pure 4
      else if inPlace then
        if paths.isEmpty then do
          fault "no input files".toList
          pure 4
        else editAll g ((given.value? 'i').getD []) paths (start []) 0
      else
        let code ← printAll g (given.has 's') paths
        match (← get).refused with
        | none => pure code
        | some e => do
          let action := if e = .badDescriptor then "close" else "flush"
          fault (("couldn't " ++ action ++ " stdout: ").toList ++ e.description.toList)
          modify fun p => { p with refused := none }
          pure 4) 4

end Editing

/-- Edits lines by a script. -/
def sed : Tool := fun arguments => do
  match OptionList.read Editing.known false arguments.length arguments with
  | .ok given => Editing.run given
  | .error e => Editing.misused (some e.message)

end Fleet.Tools
