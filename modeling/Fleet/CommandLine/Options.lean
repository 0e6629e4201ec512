/-!
# Options of a command line

Options stand before everything else. A long one is written `--name`, with its value after `=` or
as the next argument; short ones may stand together after one hyphen, the value of the last one
after it or as the next argument. After `--` no more options are read. Where something may follow
the options, an argument that looks like options but is made of unknown ones is what follows.
-/

namespace Fleet.CommandLine

/-- What an option does. -/
inductive OptionKind : Type where
  /-- It asks for the help text. -/
  | help
  /-- It asks for the version. -/
  | version
  /-- It is on once it is given, which may happen once. -/
  | switch
  /-- It takes a value that passes a check, and may be given once. -/
  | single (accepts : String → Bool)
  /-- It takes values with commas between them, any number of times. -/
  | many

namespace OptionKind

/-- Whether an option takes a value. -/
def takesValue : OptionKind → Bool
  | single _ | many => true
  | _ => false

end OptionKind

/-- An option with its names. -/
structure OptionRule : Type where
  short : Option Char
  long : String
  kind : OptionKind

/-- The options of a command line, and whether anything may follow them. -/
structure Grammar : Type where
  options : List OptionRule
  takesRest : Bool

/-- Why arguments are not carried out as they stand. -/
inductive Refusal : Type where
  /-- They ask for the help text. -/
  | help
  /-- They ask for the version. -/
  | version
  /-- They are not understood. -/
  | usage
  deriving Repr, DecidableEq

/-- What was read from arguments. -/
structure Reading : Type where
  /-- The long names of switches that are on. -/
  switches : List String := []
  /-- The values of options, by long name, in order. -/
  values : List (String × String) := []
  /-- What follows the options. -/
  rest : List String := []
  deriving Repr, DecidableEq

namespace Reading

/-- Whether a switch is on. -/
def isOn (r : Reading) (name : String) : Bool :=
  r.switches.contains name

/-- The value of an option that is given once. -/
def value? (r : Reading) (name : String) : Option String :=
  r.values.lookup name

/-- The values of an option, in order. -/
def valuesOf (r : Reading) (name : String) : List String :=
  (r.values.filter (·.1 == name)).map Prod.snd

/-- The reading after an option with a value. -/
def give (r : Reading) (rule : OptionRule) (value : String) : Except Refusal Reading :=
  match rule.kind with
  | .single accepts =>
    if (r.value? rule.long).isSome || !accepts value then .error .usage
    else .ok { r with values := r.values ++ [(rule.long, value)] }
  | .many =>
    let values := (value.toList.splitOn ',').map fun part => (rule.long, String.ofList part)
    .ok { r with values := r.values ++ values }
  | _ => .error .usage

/-- The reading after an option without a value. -/
def turnOn (r : Reading) (rule : OptionRule) : Except Refusal Reading :=
  match rule.kind with
  | .help => .error .help
  | .version => .error .version
  | .switch =>
    if r.isOn rule.long then .error .usage
    else .ok { r with switches := r.switches ++ [rule.long] }
  | _ => .error .usage

end Reading

/-- What an argument looks like. -/
inductive Token : Type where
  /-- The end of the options. -/
  | divider
  /-- A long option, with a value if one is attached. -/
  | long (rule : OptionRule) (value : Option String)
  /-- Short options, and a value if the last one takes one. -/
  | cluster (letters : List Char)
  /-- An option that is not known. -/
  | unknown
  /-- Anything else. -/
  | plain

namespace Grammar

/-- The option with a short name. -/
def short? (g : Grammar) (c : Char) : Option OptionRule :=
  g.options.find? (·.short == some c)

/-- The option with a long name. -/
def long? (g : Grammar) (name : String) : Option OptionRule :=
  g.options.find? (·.long == name)

/-- What an argument looks like. -/
def tokenOf (g : Grammar) (argument : String) : Token :=
  let stranger : Token := if g.takesRest then .plain else .unknown
  match argument.toList with
  | ['-', '-'] => .divider
  | '-' :: '-' :: text =>
    let name := text.takeWhile (· ≠ '=')
    let value := (text.drop name.length).tail?
    match g.long? (String.ofList name) with
    | some rule => .long rule (value.map String.ofList)
    | none => stranger
  | '-' :: c :: letters =>
    if g.takesRest && (c :: letters).any fun c => (g.short? c).isNone then .plain
    else .cluster (c :: letters)
  | _ => .plain

/-- Reads short options that stand together. The last one may still need its value. -/
def readCluster (g : Grammar) (r : Reading) :
    List Char → Except Refusal (Reading × Option OptionRule)
  | [] => .ok (r, none)
  | c :: letters =>
    match g.short? c with
    | none => .error .usage
    | some rule =>
      if rule.kind.takesValue then
        if letters = [] then .ok (r, some rule)
        else (r.give rule (String.ofList letters)).map (·, none)
      else
        match r.turnOn rule with
        | .ok r => readCluster g r letters
        | .error e => .error e

/-- Ends reading with what follows the options. -/
def finish (g : Grammar) (r : Reading) (rest : List String) : Except Refusal Reading :=
  if rest = [] || g.takesRest then .ok { r with rest } else .error .usage

/-- Reads arguments. There may be an option that needs its value, and takes it from the first
argument if that does not look like options. -/
def readFrom (g : Grammar) (r : Reading) :
    Option OptionRule → List String → Except Refusal Reading
  | none, [] => .ok r
  | some _, [] => .error .usage
  | waiting, argument :: rest =>
    match g.tokenOf argument, waiting with
    | .plain, none => g.finish r (argument :: rest)
    | .plain, some rule => do readFrom g (← r.give rule argument) none rest
    | .divider, none => g.finish r rest
    | .long rule value, none =>
      match rule.kind.takesValue, value with
      | true, none => readFrom g r (some rule) rest
      | true, some value => do readFrom g (← r.give rule value) none rest
      | false, none => do readFrom g (← r.turnOn rule) none rest
      | false, some _ => .error .usage
    | .cluster letters, none =>
      match g.readCluster r letters with
      | .ok (r, waiting) => readFrom g r waiting rest
      | .error e => .error e
    | .unknown, none | _, some _ => .error .usage

/-- Reads arguments. -/
def read (g : Grammar) (arguments : List String) : Except Refusal Reading :=
  g.readFrom {} none arguments

end Grammar

end Fleet.CommandLine
