import Fleet.CommandLine.Options
import Fleet.Project.Basic

/-!
# Requests

What a user can ask for: the actions with their names, and what the arguments of each one mean.
-/

namespace Fleet.CommandLine

/-- The name of the program. -/
def programName : String :=
  "repomux"

/-- What can be done with a project. -/
inductive Action : Type where
  /-- Runs commands in repositories. -/
  | execute
  /-- Shows the table of repositories. -/
  | list
  /-- Shows what would be run. -/
  | plan
  deriving Repr, DecidableEq

namespace Action

/-- The actions, as they are listed. -/
def all : List Action :=
  [execute, list, plan]

/-- The name of an action. -/
def name : Action → String
  | execute => "exec"
  | list => "list"
  | plan => "plan"

/-- Other names of an action. -/
def aliases : Action → List String
  | execute => ["x", "run"]
  | list => ["ls"]
  | plan => []

/-- What an action does, in one line. -/
def summary : Action → String
  | execute => "Run commands in each selected repository."
  | list => "Show the repository table."
  | plan => "Print the assembled argv for each repository without running it."

/-- The action with a name. -/
def ofName? (name : String) : Option Action :=
  all.find? fun action => action.name == name || action.aliases.contains name

/-- Every action is found by its name. -/
theorem ofName?_name (action : Action) : ofName? action.name = some action := by
  cases action <;> decide

end Action

/-- The option that asks for the help text. -/
def helpOption : OptionRule :=
  ⟨some 'h', "help", .help⟩

/-- The options before the name of an action. -/
def topGrammar : Grammar where
  options := [⟨some 'c', "config", .single (· ≠ "")⟩, helpOption, ⟨some 'V', "version", .version⟩]
  takesRest := true

/-- The options that select repositories and say how commands are launched. -/
def launchOptions : List OptionRule :=
  [⟨some 'r', "repos", .many⟩, ⟨none, "shell", .switch⟩,
    ⟨none, "sep", .single fun value => (Separator.ofString? value).isOk⟩,
    ⟨none, "venv", .single fun _ => true⟩, ⟨none, "debug", .switch⟩]

/-- The grammar of the arguments of an action. -/
def Action.grammar : Action → Grammar
  | execute => ⟨launchOptions ++ [⟨some 'k', "keep-going", .switch⟩, helpOption], true⟩
  | list => ⟨[⟨some 'a', "attributes", .switch⟩, helpOption], false⟩
  | plan => ⟨launchOptions ++ [⟨none, "json", .switch⟩, helpOption], true⟩

/-- Commands for some repositories. -/
structure Order : Type where
  commands : List String
  /-- The selected ids; nothing is selected by name if there are none. -/
  repositories : List String
  overrides : Overrides
  deriving Repr, DecidableEq

/-- What a user asks for. -/
inductive Request : Type where
  | execute (order : Order) (keepGoing : Bool)
  | list (attributes : Bool)
  | plan (order : Order) (json : Bool)
  deriving Repr, DecidableEq

namespace Order

/-- The ids of the repositories that an order is for: those that it names, or else all. -/
def selection (o : Order) (p : Project) : List String :=
  if o.repositories = [] then p.repositories.map Repository.id else o.repositories

/-- The order that was read from arguments. There has to be a command. -/
def ofReading (r : Reading) : Except Refusal Order :=
  let asked (name : String) : Option Bool := if r.isOn name then some true else none
  if r.rest = [] then .error .usage
  else
    .ok {
      commands := r.rest
      repositories := r.valuesOf "repos"
      overrides := {
        shell := asked "shell"
        separator := (r.value? "sep").bind fun name => (Separator.ofString? name).toOption
        virtualenv := r.value? "venv"
        debug := asked "debug" } }

end Order

/-- What the arguments of an action ask for. -/
def Action.request (action : Action) (arguments : List String) : Except Refusal Request := do
  let r ← action.grammar.read arguments
  match action with
  | execute => pure (.execute (← Order.ofReading r) (r.isOn "keep-going"))
  | list => pure (.list (r.isOn "attributes"))
  | plan => pure (.plan (← Order.ofReading r) (r.isOn "json"))

end Fleet.CommandLine
