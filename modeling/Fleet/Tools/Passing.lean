import Fleet.Tools.Inputs

/-!
# Passing text on

Tools that print what they read, with marks or in another order.
-/

namespace Fleet.Tools

open Shell

/-! ## One after the other -/

/-- How text is shown. -/
structure Showing : Type where
  numbers : Bool
  /-- Whether only lines that are not empty have numbers. -/
  filled : Bool
  squeezed : Bool
  ends : Bool
  tabs : Bool
  others : Bool
  deriving Repr

namespace Showing

/-- An octet as it is shown. -/
def octet (s : Showing) (c : Char) : Octets :=
  let low (n : Nat) : Octets :=
    if n < 32 then ['^', Char.ofNat (n + 64)]
    else if n = 127 then ['^', '?']
    else [Char.ofNat n]
  if c = '\t' then (if s.tabs then ['^', 'I'] else [c])
  else if !s.others then [c]
  else if c.toNat < 128 then low c.toNat
  else ['M', '-'] ++ low (c.toNat - 128)

/-- Lines as they are shown, given the number of the next one and whether the one before was
empty. -/
def lines (s : Showing) : Nat → Bool → List Octets → Octets
  | _, _, [] => []
  | n, emptyBefore, line :: rest =>
    let isEmpty := line == ['\n']
    if isEmpty && emptyBefore && s.squeezed then lines s n true rest
    else
      let counts := s.numbers && !(s.filled && isEmpty)
      let lead := if counts then rightAligned 6 (decimal n) ++ ['\t'] else []
      let ended := line.getLast? == some '\n'
      let body := if ended then line.dropLast else line
      let shown := body.flatMap s.octet
      let shown :=
        if s.ends && ended && !s.others && body.getLast? == some '\r' then
          shown.dropLast ++ ['^', 'M']
        else shown
      let close := if ended then (if s.ends then ['$', '\n'] else ['\n']) else []
      lead ++ shown ++ close ++ lines s (if counts then n + 1 else n) isEmpty rest

end Showing

/-- Whether what is printed goes to the end of the file that a path leads to. -/
def isOwnOutput (p : Process) (path : Octets) : Bool :=
  match p.stream? 1, locationOf p path with
  | some (_, .file location offset), .ok own =>
    location = own && 0 < offset.getD (p.contentAt location).length
  | _, _ => false

/-- Prints files one after the other. -/
def cat : Tool :=
  withOptions [flag 'A' ["show-all"], flag 'b' ["number-nonblank"], flag 'e',
    flag 'E' ["show-ends"], flag 'n' ["number"], flag 's' ["squeeze-blank"], flag 't',
    flag 'T' ["show-tabs"], flag 'u', flag 'v' ["show-nonprinting"]] fun g => do
  let s : Showing :=
    { numbers := g.has 'n' || g.has 'b'
      filled := g.has 'b'
      squeezed := g.has 's'
      ends := g.has 'E' || g.has 'A' || g.has 'e'
      tabs := g.has 'T' || g.has 'A' || g.has 't'
      others := g.has 'v' || g.has 'A' || g.has 'e' || g.has 't' }
  let plain := g.options.all (·.1 == 'u')
  let paths := if g.operands.isEmpty then [['-']] else g.operands
  if ((← get).stream? 1).isNone then
    fault ("standard output: ".toList ++ OsError.badDescriptor.description.toList)
    return 1
  let closed := (← get).inputFault? == some .badDescriptor && paths.any isInput
  let step (state : Octets × Nat) (path : Octets) : StateM Process (Octets × Nat) := do
    let (before, code) := state
    if !isInput path && isOwnOutput (← get) path then
      fault (Quoting.lead path ++ ": input file is output file".toList)
      pure (before, 1)
    else
      match ← readSource path with
      | .ok text =>
        if plain then
          say text
          pure ([], code)
        else pure (before ++ text, code)
      | .error u => do
        fault u.report
        pure (before, 1)
  let (text, code) ← paths.foldlM step ([], 0)
  if !plain then say (s.lines 1 false (keepEnds '\n' text))
  if closed then
    fault ("closing standard input: ".toList ++ OsError.badDescriptor.description.toList)
  pure code

/-- A text cut behind each separator, or before each if it leads. -/
def cutAt (separator : Octets) (leads : Bool) : Nat → Octets → Octets → List Octets
  | 0, piece, text => [piece.reverse ++ text]
  | _, piece, [] => [piece.reverse]
  | n + 1, piece, c :: rest =>
    if separator.isPrefixOf (c :: rest) then
      let after := (c :: rest).drop separator.length
      if leads then piece.reverse :: cutAt separator leads n separator.reverse after
      else (piece.reverse ++ separator) :: cutAt separator leads n [] after
    else cutAt separator leads n (c :: piece) rest

/-- Prints files with their lines in reverse order. -/
def tac : Tool :=
  withOptions [flag 'b' ["before"], flag 'r' ["regex"], valued 's' ["separator"]] fun g => do
  let separator := (g.value? 's').getD ['\n']
  let separator := if separator.isEmpty then ['\x00'] else separator
  let report (u : Unread) : Octets :=
    if u.opened then Quoting.lead u.path ++ ": read error: Invalid argument".toList
    else
      "failed to open ".toList ++ Quoting.name u.path ++ " for reading: ".toList ++
        u.error.description.toList
  let (texts, good) ← sourcesOr report g.operands
  texts.forM fun (_, text) =>
    say (cutAt separator (g.has 'b') (text.length + 1) [] text).reverse.flatten
  pure (codeOf good)

/-- Prints lines backwards. -/
def rev : Tool :=
  withOptions [] fun g => do
  let report (u : Unread) : Octets :=
    "cannot open ".toList ++ u.path ++ ": ".toList ++ u.error.description.toList
  let (texts, good) ← sourcesOr report g.operands
  texts.forM fun (_, text) =>
    say ((keepEnds '\n' text).map fun line =>
      if line.getLast? == some '\n' then line.dropLast.reverse ++ ['\n'] else line.reverse).flatten
  pure (codeOf good)

/-- Passes the input on, and writes it to files too. -/
def tee : Tool :=
  withOptions [flag 'a' ["append"], flag 'i' ["ignore-interrupts"], flag 'p',
    named 'o' "output-error" .perhaps] fun g => do
  let (text, p) := (← get).readAll 0
  set p
  let code ← overAll g.operands fun path => do
    let p ← get
    let old := if g.has 'a' then (p.readFile path).toOption.getD [] else []
    match p.save path (Octets.toBytes (old ++ text)) with
    | .ok p =>
      set p
      pure 0
    | .error e => do
      fault (Quoting.lead path ++ ": ".toList ++ e.description.toList)
      pure 1
  say text
  pure code

end Fleet.Tools
