import Fleet.Tools.Quoting
import Fleet.Tools.Tool

/-!
# Options of tools

Options are letters after a hyphen, or names after two hyphens, of which a beginning is enough that
no other name has. Some take a value. Options may stand between other arguments; two hyphens end
them.
-/

namespace Fleet.Tools

open Shell

/-- Whether an option takes a value. -/
inductive Takes : Type where
  | nothing
  | value
  /-- A value only if it is attached. -/
  | perhaps
  deriving Repr, DecidableEq

/-- An option that a tool knows. -/
structure KnownOption : Type where
  /-- What the option is called where it is looked up. -/
  key : Char
  names : List String
  takes : Takes
  /-- Whether the key is also its letter. -/
  lettered : Bool
  deriving Repr

/-- An option without a value, by its letter. -/
def flag (key : Char) (names : List String := []) : KnownOption :=
  ⟨key, names, .nothing, true⟩

/-- An option with a value, by its letter. -/
def valued (key : Char) (names : List String := []) : KnownOption :=
  ⟨key, names, .value, true⟩

/-- An option that may have a value, by its letter. -/
def perhapsValued (key : Char) (names : List String := []) : KnownOption :=
  ⟨key, names, .perhaps, true⟩

/-- An option that has a name only. -/
def named (key : Char) (name : String) (takes : Takes := .nothing) : KnownOption :=
  ⟨key, [name], takes, false⟩

/-- What was given to a tool. -/
structure Given : Type where
  /-- The options, by their keys, with their values, in their order. -/
  options : List (Char × Option Octets) := []
  operands : List Octets := []
  deriving Repr

namespace Given

/-- Whether an option was given. -/
def has (g : Given) (key : Char) : Bool :=
  g.options.any (·.1 == key)

/-- All values of an option. -/
def valuesOf (g : Given) (key : Char) : List Octets :=
  g.options.filterMap fun (k, v) => if k == key then v else none

/-- The last value of an option. -/
def value? (g : Given) (key : Char) : Option Octets :=
  (g.valuesOf key).getLast?

/-- The last of some options that was given. -/
def lastOf (g : Given) (keys : List Char) : Option Char :=
  ((g.options.map Prod.fst).filter keys.contains).getLast?

end Given

/-- What is wrong with an option. -/
inductive OptionFault : Type where
  | unknownLetter (c : Char)
  | letterLacksValue (c : Char)
  | unknownName (text : Octets)
  | ambiguous (text : Octets) (names : List String)
  | nameLacksValue (name : String)
  | nameTakesNone (name : String)
  deriving Repr

/-- What is said about an option. -/
def OptionFault.message : OptionFault → Octets
  | unknownLetter c => "invalid option -- '".toList ++ [c, '\'']
  | letterLacksValue c => "option requires an argument -- '".toList ++ [c, '\'']
  | unknownName text => "unrecognized option '--".toList ++ text ++ ['\'']
  | ambiguous text names =>
    "option '--".toList ++ text ++ "' is ambiguous; possibilities:".toList ++
      (names.map fun name => (" '--" ++ name ++ "'").toList).flatten
  | nameLacksValue name => ("option '--" ++ name ++ "' requires an argument").toList
  | nameTakesNone name => ("option '--" ++ name ++ "' doesn't allow an argument").toList

namespace OptionList

/-- The option that a name or the beginning of one stands for. -/
def ofName (known : List KnownOption) (text : Octets) (whole : Octets) :
    Except OptionFault (KnownOption × String) :=
  let all := known.flatMap fun o => o.names.map (o, ·)
  match all.find? fun (_, name) => name.toList == text with
  | some found => .ok found
  | none =>
    match all.filter fun (_, name) => text.isPrefixOf name.toList with
    | [] => .error (.unknownName whole)
    | (o, name) :: rest =>
      if rest.all fun (other, _) => other.key == o.key then .ok (o, name)
      else .error (.ambiguous whole (name :: rest.map Prod.snd))

/-- The options in the letters of an argument; `rest` are the arguments after it. -/
def letters (known : List KnownOption) (rest : List Octets) :
    Octets → Except OptionFault (List (Char × Option Octets) × List Octets)
  | [] => .ok ([], rest)
  | c :: more =>
    match known.find? fun o => o.lettered && o.key == c with
    | none => .error (.unknownLetter c)
    | some o =>
      match o.takes with
      | .nothing => (letters known rest more).map fun (options, rest) =>
        ((c, none) :: options, rest)
      | .perhaps => .ok ([(c, if more.isEmpty then none else some more)], rest)
      | .value =>
        match more, rest with
        | [], value :: rest => .ok ([(c, some value)], rest)
        | [], [] => .error (.letterLacksValue c)
        | more, rest => .ok ([(c, some more)], rest)

/-- The option in an argument after its two hyphens; `rest` are the arguments after it. -/
def long (known : List KnownOption) (rest : List Octets) (text : Octets) :
    Except OptionFault (List (Char × Option Octets) × List Octets) := do
  let name := text.takeWhile (· ≠ '=')
  let attached := (text.drop name.length).tail?
  let (o, full) ← ofName known name text
  match o.takes, attached, rest with
  | .nothing, none, rest => pure ([(o.key, none)], rest)
  | .nothing, some _, _ => throw (.nameTakesNone full)
  | .perhaps, value, rest => pure ([(o.key, value)], rest)
  | .value, some value, rest => pure ([(o.key, some value)], rest)
  | .value, none, value :: rest => pure ([(o.key, some value)], rest)
  | .value, none, [] => throw (.nameLacksValue full)

/-- The options and the other arguments. If `stops` says so, the first argument that is no option
ends the options. -/
def read (known : List KnownOption) (stops : Bool) : Nat → List Octets → Except OptionFault Given
  | 0, arguments => .ok { operands := arguments }
  | _, [] => .ok {}
  | n + 1, argument :: rest => do
    match argument with
    | ['-', '-'] => pure { operands := rest }
    | '-' :: '-' :: text =>
      let (options, rest) ← long known rest text
      let g ← read known stops n rest
      pure { g with options := options ++ g.options }
    | '-' :: c :: more =>
      let (options, rest) ← letters known rest (c :: more)
      let g ← read known stops n rest
      pure { g with options := options ++ g.options }
    | argument =>
      if stops then pure { operands := argument :: rest }
      else
        let g ← read known stops n rest
        pure { g with operands := argument :: g.operands }

end OptionList

/-- Runs a tool with its options, or reports what is wrong with them and ends with a code. -/
def withOptions (known : List KnownOption) (tool : Given → StateM Process Nat) (code : Nat := 1)
    (stops : Bool := false) : Tool := fun arguments => do
  match OptionList.read known stops arguments.length arguments with
  | .ok given => tool given
  | .error e => do
    misuse e.message
    pure code

/-- The one of several words that a text is the beginning of; words that mean the same stand
together. What is wrong with it is said with what it is for and with the words that there are. -/
def choiceFor (purpose : String) (choices : List (List String)) (text : Octets) :
    Except Octets String :=
  let matching := choices.filter fun words => words.any fun word => text.isPrefixOf word.toList
  let exact := choices.find? fun words => words.any fun word => word.toList == text
  let quoted (word : String) : String := "'" ++ word ++ "'"
  let listed := choices.flatMap fun words =>
    ("\n  - " ++ String.intercalate ", " (words.map quoted)).toList
  let wrong (kind : String) : Octets :=
    (kind ++ " argument ").toList ++ Quoting.value text ++ (" for " ++ purpose).toList ++
      "\nValid arguments are:".toList ++ listed
  match exact, matching with
  | some words, _ => .ok (words.headD "")
  | none, [words] => .ok (words.headD "")
  | none, [] => .error (wrong "invalid")
  | none, _ => .error (wrong "ambiguous")

/-- The one of several words that a value of an option is the beginning of. -/
def choiceOf (option : String) (choices : List (List String)) (text : Octets) :
    Except Octets String :=
  choiceFor ("'--" ++ option ++ "'") choices text

/-- Goes on with a value, or reports a misuse and ends with a code. -/
def orMisuse {α : Type} (value : Except Octets α) (go : α → StateM Process Nat) (code : Nat := 1) :
    StateM Process Nat := do
  match value with
  | .ok a => go a
  | .error message => do
    misuse message
    pure code

end Fleet.Tools
