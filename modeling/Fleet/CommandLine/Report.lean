import Fleet.CommandLine.Requests
import Fleet.Config.Environment
import Fleet.Project.Directory
import Fleet.Project.Loading
import Fleet.Sweep.Basic
import Fleet.Sweep.Error
import Fleet.Text.Json

/-!
# Reports and failures

What the user is told about a project, its repositories and the command lines for them, or about why
a request could not be carried out, and the colours that this is shown in.
-/

/-!
## Styled text

Colours and weights for what a person reads on a terminal. Each style is an escape sequence before
the text and a reset after it; a reset inside the text is followed by the style again, so that the
style reaches to the end.
-/

namespace Fleet.CommandLine

/-- How a piece of text is shown. -/
inductive Style : Type where
  | heading
  | identifier
  | faint
  | good
  | bad
  | note
  | mark
  | name
  | alarm
  deriving Repr, DecidableEq

namespace Style

/-- The numbers that select a style on a terminal. -/
def code : Style → String
  | heading => "1;33"
  | identifier => "1;36"
  | faint => "2"
  | good => "32"
  | bad => "31"
  | note => "33"
  | mark => "34"
  | name => "36"
  | alarm => "1;31"

/-- The sequence that starts a style. -/
def start (style : Style) : String :=
  "\x1b[" ++ style.code ++ "m"

end Style

/-- The sequence that ends every style. -/
def reset : String :=
  "\x1b[0m"

/-- A text in a style, if there are colours. -/
def paint (coloured : Bool) (style : Style) (text : String) : String :=
  if coloured then style.start ++ text.replace reset (reset ++ style.start) ++ reset else text

/-- Whether the environment asks for colours where no terminal is there to show them. -/
def wantsColours (e : Environment) : Bool :=
  match e.get? "CLICOLOR_FORCE" with
  | some value => value ≠ "0"
  | none => false

end Fleet.CommandLine

/-!
## Reports

What is printed about a project, its repositories, the command lines for them, and the actions.
-/

namespace Fleet.CommandLine

/-- Text with blanks after it, up to a width. -/
def padded (width : Nat) (text : String) : String :=
  text ++ String.ofList (List.replicate (width - text.length) ' ')

/-- The actions with their other names and what they do. -/
def actionLines (coloured : Bool) : List String :=
  paint coloured .heading "Actions:" :: Action.all.map fun action =>
    let aliases :=
      if action.aliases = [] then ""
      else " (" ++ String.intercalate ", " action.aliases ++ ")"
    "  " ++ paint coloured .identifier (padded 6 action.name) ++ paint coloured .faint aliases ++
      " " ++ action.summary

/-- The value of an attribute, its templates left as they are. -/
def attributeText : Attribute → String
  | .scalar value => value.render
  | .list values => "[" ++ String.intercalate ", " (values.map Scalar.render) ++ "]"

/-- A line for each attribute, ordered by name. -/
def attributeLines (repository : Repository) : List String :=
  (repository.attributes.mergeSort fun a b => !decide (b.1 < a.1)).map fun (name, value) =>
    "      " ++ name ++ " = " ++ attributeText value

/-- What is said about the directory of a repository. -/
def directoryState (coloured : Bool) : Except PathError NormalPath → String
  | .ok _ => paint coloured .good "ok"
  | .error (.missing _) => paint coloured .bad "missing"
  | .error _ => paint coloured .bad "invalid path"

/-- The lines about a repository. -/
def repositoryLines (coloured attributes : Bool) (w : World) (root : String)
    (repository : Repository) : List String :=
  ("  " ++ paint coloured .identifier repository.id ++ " " ++
    paint coloured .faint repository.path ++ " [" ++
    directoryState coloured (w.repositoryDirectory root repository.path) ++ "]") ::
  if attributes then attributeLines repository else []

/-- The lines about a project and its repositories. -/
def projectLines (coloured attributes : Bool) (w : World) (p : Project) : List String :=
  (paint coloured .heading "Project:" ++ " " ++ p.root) ::
  if p.repositories.isEmpty then [paint coloured .faint "No repositories defined."]
  else p.repositories.flatMap (repositoryLines coloured attributes w p.root)

/-- The line about the command line of a repository. -/
def planLine (coloured : Bool) (a : Assignment) : String :=
  paint coloured .heading a.repository ++ " " ++ paint coloured .good (Words.display a.words)

/-- The command lines of repositories as JSON. -/
def planJson (items : List Assignment) : String :=
  Text.Json.list 0 (items.map fun a =>
    Text.Json.object 1
      [("repository", Text.Json.string a.repository),
        ("argv", Text.Json.list 2 (a.words.map Text.Json.string)),
        ("workdir", Text.Json.string a.directory)])

/-- The usage of the program or an action, with its options. -/
def helpText (action : Option Action) : String :=
  let grammar := (action.map Action.grammar).getD topGrammar
  let usage := String.intercalate " " (["Usage:", programName] ++
    (action.map Action.name).toList ++ ["[OPTIONS]"] ++
    if grammar.takesRest then ["[--]", "[ARGUMENTS]..."] else [])
  let option (rule : OptionRule) : String :=
    let short := match rule.short with
      | some c => "-" ++ String.singleton c ++ ", "
      | none => "    "
    "  " ++ short ++ "--" ++ rule.long ++ if rule.kind.takesValue then " <VALUE>" else ""
  String.intercalate "\n" ([usage, "", "Options:"] ++ grammar.options.map option)

end Fleet.CommandLine

/-!
## Failures of a request

Why a request could not be carried out, what the user is told, and the exit code.
-/

namespace Fleet.CommandLine

/-- Why a request could not be carried out. -/
inductive Failure : Type where
  /-- The working directory is gone. -/
  | noWorkingDirectory (cause : OsError)
  /-- There is no project. -/
  | load (cause : LoadError)
  /-- There is no such action. -/
  | unknownAction (name : String)
  /-- The arguments of the action are not understood. -/
  | usage (action : Action)
  /-- No command line was found for a repository. -/
  | sweep (cause : SweepError)
  /-- The command line of a repository failed. -/
  | execution (repository : String) (cause : ExecutionError)
  /-- Some repositories failed, and the others were gone through all the same. -/
  | some (failed total : Nat)
  deriving Repr, DecidableEq

/-- What is said about arguments that are not understood. -/
def usageMessage (action : Option Action) : String :=
  let words := [programName] ++ (action.map Action.name).toList ++
    (if action = Option.some .list then ["[OPTIONS]"] else ["[OPTIONS] [--] [COMMAND]..."])
  "error: the arguments are not understood\n\nUsage: " ++ String.intercalate " " words ++
    "\n\nFor more information, try '--help'."

namespace Failure

/-- The messages about a failure: its own, and those of the causes below it, outermost first. -/
def messages (coloured : Bool) : Failure → List String
  | noWorkingDirectory cause => [cause.message]
  | load cause => cause.message :: cause.sources
  | unknownAction name =>
    ["Unknown action '" ++ paint coloured .name name ++ "'. Available actions: " ++
      String.intercalate ", " (Action.all.map Action.name) ++ "."]
  | usage action => [usageMessage (Option.some action)]
  | sweep cause => cause.message :: cause.sources
  | execution repository cause =>
    ("Repository '" ++ repository ++ "' failed") :: cause.message :: cause.sources
  | some failed total => [toString failed ++ " of " ++ toString total ++ " repositories failed."]

/-- The messages about a failure in one line. -/
def line (coloured : Bool) (f : Failure) : String :=
  String.intercalate ": " (f.messages coloured)

/-- The exit code: that of a failed command line, otherwise 1. -/
def exitCode : Failure → Nat
  | execution _ cause => cause.exitCode
  | _ => 1

end Failure

end Fleet.CommandLine
