import Fleet.Shell.Arrays
import Fleet.Shell.Builtins.Naming
import Fleet.Shell.Lookup
import Fleet.Shell.Quoting

/-!
# Names in the rich shell

The builtins that say what names stand for, that keep where programs are, and that make aliases.
-/

namespace Fleet.Shell.Names

/-- What a name stands for. -/
inductive Sense : Type where
  | alias (text : Octets)
  | keyword
  | function
  | builtin
  /-- A program that was found before. -/
  | hashed (path : Octets)
  | file (path : Octets)
  deriving Repr

/-- How names are looked up. -/
structure Lookup : Type where
  /-- Whether everything is given that a name stands for. -/
  all : Bool := false
  /-- Whether only programs count. -/
  onlyFiles : Bool := false
  /-- Whether functions are left out. -/
  skipsFunctions : Bool := false
  directories : Option (List Octets) := none

/-- The path of a program in a directory, where a relative one is shown to start here. -/
def pathIn (directory name : Octets) : Octets :=
  if directory.isEmpty then "./".toList ++ name else directory ++ '/' :: name

/-- The paths of the programs that a name stands for in some directories. -/
def programs (p : Process) (directories : List Octets) (name : Octets) : List Octets :=
  let paths := directories.map (pathIn · name)
  paths.filter fun path => (Program.entryAt p.tree p.here? path).isOk

/-- All that a name stands for, what counts first. -/
def sensesOf (p : Process) (how : Lookup) (name : Octets) : List Sense :=
  let text := ((p.aliases.lookup name).filter fun _ => p.extras.contains "expand_aliases").map
    Sense.alias
  let when (holds : Bool) (sense : Sense) : List Sense := if holds then [sense] else []
  let inner : List Sense :=
    text.toList ++
      when (Dialect.rich.reservedWords.contains (String.ofList name)) .keyword ++
      when (!how.skipsFunctions && (p.functions.lookup name).isSome) .function ++
      when (isBuiltin p.dialect name) .builtin
  let hashed := if how.all || how.onlyFiles then [] else
    ((p.tracked.find? (·.name == name)).map fun t => Sense.hashed (trackedPath p t)).toList
  let files : List Sense :=
    if name.contains '/' then when (Program.entryAt p.tree p.here? name).isOk (.file name)
    else (programs p (how.directories.getD (searchPath p)) name).map .file
  (if how.onlyFiles then [] else inner) ++ hashed ++ files

/-- How a sense is given. -/
inductive Manner : Type where
  /-- A sentence. -/
  | full
  /-- A word. -/
  | kind
  /-- What may be typed instead. -/
  | reusable
  /-- The path of a program only. -/
  | path
  deriving Repr, DecidableEq

/-- A sense in the given manner. -/
def shown (manner : Manner) (name : Octets) (sense : Sense) : Octets :=
  let line (text : String) : Octets := name ++ text.toList ++ ['\n']
  match manner, sense with
  | .full, .alias text => name ++ " is aliased to `".toList ++ text ++ "'\n".toList
  | .full, .keyword => line " is a shell keyword"
  | .full, .function => line " is a function"
  | .full, .builtin => line " is a shell builtin"
  | .full, .hashed path => name ++ " is hashed (".toList ++ path ++ ")\n".toList
  | .full, .file path => name ++ " is ".toList ++ path ++ ['\n']
  | .kind, .alias _ => "alias\n".toList
  | .kind, .keyword => "keyword\n".toList
  | .kind, .function => "function\n".toList
  | .kind, .builtin => "builtin\n".toList
  | .kind, _ => "file\n".toList
  | .reusable, .alias text => "alias ".toList ++ name ++ '=' :: Quoting.single text ++ ['\n']
  | .reusable, .keyword | .reusable, .function | .reusable, .builtin => name ++ ['\n']
  | .reusable, .hashed path | .reusable, .file path => path ++ ['\n']
  | .path, .hashed path | .path, .file path => path ++ ['\n']
  | .path, _ => []

/-- Says what a name stands for; says also whether it stands for anything. -/
def describe (how : Lookup) (manner : Manner) (name : Octets) : Exec Bool := do
  let senses := sensesOf (← get) how name
  let given := if how.all then senses else senses.take 1
  (say (given.map (shown manner name)).flatten : StateM Process Unit)
  if given.isEmpty && manner = .full then complain (name ++ ": not found".toList)
  pure !given.isEmpty

/-- Says what names stand for. -/
def type (arguments : List Octets) : Exec Unit := do
  let (options, names) ← Letters.take ⟨['a', 'f', 'p', 't', 'P'], []⟩ arguments
  let has (c : Char) : Bool := options.any (·.1 == c)
  let manner : Manner :=
    match ((options.map Prod.fst).filter fun c => c != 'a' && c != 'f').getLast? with
    | some 't' => .kind
    | some _ => .path
    | none => .full
  let how : Lookup :=
    { all := has 'a', onlyFiles := has 'P' || (has 'a' && has 'p'), skipsFunctions := has 'f' }
  let codes ← names.mapM (describe how manner)
  setStatus (if codes.all id then 0 else 1)

/-- Says how names are run. -/
def inquire (standard full : Bool) (names : List Octets) : Exec Unit := do
  let how : Lookup := { directories := if standard then some standardPath else none }
  let codes ← names.mapM (describe how (if full then .full else .reusable))
  setStatus (if names.isEmpty || codes.any id then 0 else 1)

/-! ## Programs that are kept -/

/-- The programs that were found before, in the order in which they are listed. -/
def tracked (p : Process) : List Tracked :=
  p.tracked.reverse.mergeSort fun a b =>
    (hashOf a.name).toNat % 256 ≤ (hashOf b.name).toNat % 256

/-- Lists the programs that were found before. -/
def listTracked (reusable : Bool) : StateM Process Unit := do
  let p ← get
  let all := tracked p
  let padded (n : Nat) : Octets := List.replicate (4 - (decimal n).length) ' ' ++ decimal n
  if reusable then
    say (all.map fun t =>
      "builtin hash -p ".toList ++ trackedPath p t ++ ' ' :: t.name ++ ['\n']).flatten
  else if all.isEmpty then say "hash: hash table empty\n".toList
  else
    say ("hits\tcommand\n".toList ++
      (all.map fun t => padded t.uses ++ '\t' :: trackedPath p t ++ ['\n']).flatten)

/-- The path of a program that was found before in a line; says whether there is one. -/
def showTracked (reusable several : Bool) (name : Octets) : Exec Bool := do
  let p ← get
  match p.tracked.find? (·.name == name) with
  | some t => do
    let path := trackedPath p t
    let line :=
      if reusable then "builtin hash -p ".toList ++ path ++ ' ' :: name
      else if several then name ++ '\t' :: path
      else path
    (say (line ++ ['\n']) : StateM Process Unit)
    pure true
  | none => do
    complain (name ++ ": not found".toList)
    pure false

/-- Looks for programs and keeps where they are, forgets them or lists them. -/
def hash (arguments : List Octets) : Exec Unit := do
  let (options, names) ← Letters.take ⟨['l', 'r', 'd', 't'], ['p']⟩ arguments
  let has (c : Char) : Bool := options.any (·.1 == c)
  let settle (codes : List Bool) : Exec Unit := setStatus (if codes.all id then 0 else 1)
  let forget (name : Octets) : Exec Unit :=
    modify fun p => { p with tracked := p.tracked.filter (·.name != name) }
  if has 'r' then modify fun p => { p with tracked := [] }
  if names.isEmpty then
    if has 't' || has 'd' then
      let letter := if has 't' then 't' else 'd'
      failWith 1 (['-', letter] ++ ": option requires an argument".toList)
    if !has 'r' then (listTracked (has 'l') : StateM Process Unit)
    setStatus 0
  else if has 't' then settle (← names.mapM (showTracked (has 'l') (1 < names.length)))
  else if has 'd' then
    settle (← names.mapM fun name => do
      let known := (← get).tracked.any (·.name == name)
      if known then forget name else complain (name ++ ": not found".toList)
      pure known)
  else
    match options.lookup 'p' with
    | some path => do
      names.forM fun name => do
        forget name
        modify fun p =>
          { p with tracked := p.tracked ++ [{ name, place := 0, path := some path }] }
      setStatus 0
    | none =>
      settle (← names.mapM fun name => do
        let p ← get
        let isOther := name.contains '/' || isBuiltin p.dialect name ||
          (p.functions.lookup name).isSome
        if isOther then pure true
        else do
          forget name
          match ← trackRich name 0 with
          | .ok _ => pure true
          | .error _ => do
            complain (name ++ ": not found".toList)
            pure false)

/-! ## Aliases -/

/-- An alias as the command that makes it. -/
def shownAlias (entry : Octets × Octets) : Octets :=
  "alias ".toList ++ entry.1 ++ '=' :: Quoting.single entry.2 ++ ['\n']

/-- Lists the aliases in the order of their names. -/
def listAliases : StateM Process Unit := do
  let all := (← get).aliases.mergeSort fun a b => !decide (b.1 < a.1)
  say (all.map shownAlias).flatten

/-- Whether a text may be the name of an alias. -/
def mayBeAlias (name : Octets) : Bool :=
  name.all fun c => !isMeta c && !"/$`'\"\\".toList.contains c

/-- Makes aliases or lists them. -/
def defineAliases (arguments : List Octets) : Exec Unit := do
  let (options, names) ← Letters.take ⟨['p'], []⟩ arguments
  if names.isEmpty || !options.isEmpty then (listAliases : StateM Process Unit)
  let codes ← names.mapM fun argument => do
    match Aliases.split? argument with
    | some (name, text) =>
      if mayBeAlias name then do
        modify fun p => { p with aliases := Aliases.put p.aliases (name, text) }
        pure true
      else do
        complain ('`' :: name ++ "': invalid alias name".toList)
        pure false
    | none =>
      match (← get).aliases.lookup argument with
      | some text => do
        (say (shownAlias (argument, text)) : StateM Process Unit)
        pure true
      | none => do
        complain (argument ++ ": not found".toList)
        pure false
  setStatus (if codes.all id then 0 else 1)

/-- Forgets aliases. -/
def forgetAliases (arguments : List Octets) : Exec Unit := do
  let (options, names) ← Letters.take ⟨['a'], []⟩ arguments
  if !options.isEmpty then
    modify fun p => { p with aliases := [] }
    setStatus 0
  else if names.isEmpty then explainUse
  else
    let codes ← names.mapM fun name => do
      let known := (← get).aliases.any (·.1 == name)
      if known then modify fun p => { p with aliases := p.aliases.filter (·.1 != name) }
      else complain (name ++ ": not found".toList)
      pure known
    setStatus (if codes.all id then 0 else 1)

end Fleet.Shell.Names
