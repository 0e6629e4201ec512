import Fleet.Shell.Expansion
import Fleet.Shell.Lookup

/-!
# What commands are called with

The words of a simple command become the name of what is run and its arguments. In the plain shell
the first words are worked out before the others, since they may say that assignments follow.
-/

namespace Fleet.Shell

/-- The words of a simple command once they are worked out. -/
structure Invocation : Type where
  /-- All fields. -/
  shown : List Octets := []
  /-- The fields from the name of the command on. -/
  fields : List Octets := []
  /-- Whether functions are left out. -/
  direct : Bool := false
  /-- The directories to look for programs in, if they are not the usual ones. -/
  directories : Option (List Octets) := none
  /-- Whether the first name is that of a special builtin, if it is that of a builtin. -/
  special : Option Bool := none
  deriving Repr

namespace Invocation

/-- Whether the name of the command is that of a builtin. -/
def isOfBuiltin (i : Invocation) (p : Process) : Bool :=
  match i.fields with
  | name :: _ =>
    isBuiltin .plain name && !name.contains '/' && (i.direct || (p.functions.lookup name).isNone)
  | [] => false

/-- Works out words until there is a field; the words after that are left. -/
def firstFields (run : List Command → Exec Octets) (fuel : Nat) :
    List Word → Exec (List Octets × List Word)
  | [] => pure ([], [])
  | word :: rest => do
    let fields ← expandFields run fuel word
    if fields.isEmpty then firstFields run fuel rest else pure (fields, rest)

/-- The fields after the builtin that runs a name directly and its options, if it does that. -/
def direct? (run : List Command → Exec Octets) (fuel : Nat) :
    Nat → List Octets → List Word → Bool →
      Exec (List Octets × List Word × Option (List Octets × Bool))
  | 0, seen, words, _ => pure (seen, words, none)
  | n + 1, seen, words, standard => do
    -- What was seen so far holds at least the builtin itself.
    let (more, words) ←
      match seen.drop 1 with
      | [] => firstFields run fuel words
      | _ => pure ([], words)
    let seen := seen ++ more
    match seen with
    | builtin :: next :: rest =>
      match next with
      | ['-', '-'] => do
        let (rest, words) ← if rest.isEmpty then firstFields run fuel words else pure (rest, words)
        pure (builtin :: next :: rest, words,
          if rest.isEmpty then none else some (rest, standard))
      | '-' :: c :: letters =>
        if (c :: letters).all (· == 'p') then do
          let (all, words, found) ← direct? run fuel n (builtin :: rest) words true
          pure (builtin :: next :: all.tail, words, found)
        else pure (seen, words, none)
      | _ => pure (seen, words, some (next :: rest, standard))
    | _ => pure (seen, words, none)

/-- Works out what a command is called by its first words; the words after those are left. -/
def start (run : List Command → Exec Octets) (fuel : Nat) :
    Nat → Invocation → List Word → Exec (Invocation × List Word)
  | 0, i, words => pure (i, words)
  | n + 1, i, words => do
    match i.fields with
    | [] => pure (i, words)
    | name :: _ => do
      if i.isOfBuiltin (← get) then
        let special := i.special.or (some (specialBuiltins.contains (String.ofList name)))
        let i := { i with special }
        if name = "command".toList then
          let before := i.shown.take (i.shown.length - i.fields.length)
          let (seen, words, found) ← direct? run fuel (fuel + 1) i.fields words false
          let i := { i with shown := before ++ seen, fields := seen }
          match found with
          | none => pure (i, words)
          | some (fields, standard) =>
            let directories := if standard then some standardPath else i.directories
            start run fuel n { i with fields, direct := true, directories } words
        else pure (i, words)
      else pure (i, words)

/-- Works out words. What follows the name of certain builtins may be assignments. -/
def ofWords (run : List Command → Exec Octets) (fuel : Nat) (words : List Word) :
    Exec Invocation := do
  let (fields, rest) ← firstFields run fuel words
  let (i, rest) ← start run fuel (words.length + 1) { shown := fields, fields } rest
  let assigning := ["alias", "export", "local", "readonly"]
  let assigns := i.isOfBuiltin (← get) && assigning.contains (String.ofList (i.fields.headD []))
  let more ← rest.mapM fun word =>
    match (assignedHead? .plain word).filter fun _ => assigns with
    | some head => do pure [← expandAssignment run fuel head word]
    | none => expandFields run fuel word
  pure { i with shown := i.shown ++ more.flatten, fields := i.fields ++ more.flatten }

/-- How many words at the start of a command name a builtin of the rich shell whose arguments may be
assignments. -/
def declaring? : List Word → Option Nat
  | [] => none
  | word :: rest =>
    match plainOctets? word with
    | some name =>
      let text := String.ofList name
      if text = "command" || text = "builtin" then (declaring? rest).map (· + 1)
      else if ["alias", "declare", "export", "local", "readonly", "typeset"].contains text then
        some 1
      else none
    | none => none

/-- Works out the words of a command of the rich shell. -/
def argumentsOf (run : List Command → Exec Octets) (fuel : Nat) (words : List Word) :
    Exec (List Argument) := do
  let plain (word : Word) : Exec (List Argument) := do
    pure ((← expandFields run fuel word).map .word)
  match declaring? words with
  | none => do pure (← words.mapM plain).flatten
  | some n => do
    let named ← (words.take n).mapM plain
    pure (named ++ (← (words.drop n).mapM (expandArgument run fuel))).flatten

end Invocation

end Fleet.Shell
