import Fleet.Assembly.Separator
import Fleet.Path.Basic
import Fleet.Template.Evaluation
import Fleet.Words.Quoting
import Fleet.Words.Splitting

/-!
# Assembling a command line

The commands of a run become the words of one command line. A single command is split into words
as it stands. Several commands, or a run in a virtualenv, need a shell: the commands are chained
into one script, the activation of the virtualenv is put before it, and the shell is given the
script as one word.
-/

namespace Fleet

/-- How commands are turned into a command line. -/
structure Launch : Type where
  /-- Use the shell for a single command too. -/
  forceShell : Bool := false
  separator : Separator := .andThen
  /-- The directory of the virtualenv to activate. -/
  virtualenv : Option String := none
  /-- Show the command line. -/
  debug : Bool := false
  deriving Repr, DecidableEq

/-- Why no command line could be assembled. -/
inductive AssemblyError : Type where
  /-- A command has no value as a template. -/
  | template (cause : TemplateError)
  /-- The text cannot be split into words, or cannot be a word. -/
  | unsplittable (line : String)
  deriving Repr, DecidableEq

namespace AssemblyError

/-- The sentence that reports the failure. -/
def message : AssemblyError → String
  | template cause => cause.message
  | unsplittable line => "Command line '" ++ line ++ "' could not be split into arguments."

/-- The messages of the causes below the failure, outermost first. -/
def sources : AssemblyError → List String
  | template cause => cause.sources
  | unsplittable _ => []

end AssemblyError

/-- The script that activates a virtualenv. -/
def activationScript (virtualenv : String) : String :=
  Path.join virtualenv "bin/activate"

namespace Launch

/-- A word, quoted. -/
def quote (word : String) : Except AssemblyError String :=
  match Words.quote? word with
  | some quoted => .ok quoted
  | none => .error (.unsplittable word)

/-- The command that activates a virtualenv. -/
def activation (virtualenv : String) : Except AssemblyError String :=
  (quote (activationScript virtualenv)).map (". " ++ ·)

/-- The commands as one script, after the activation if there is one. -/
def script (launch : Launch) (activation : Option String) (commands : List String) : String :=
  let joined := launch.separator.join commands
  match activation with
  | some first => Separator.andThen.join [first, joined]
  | none => joined

/-- The command line of commands that are no longer templates. -/
def line (launch : Launch) (shell : String) (commands : List String) :
    Except AssemblyError String := do
  let activation ← launch.virtualenv.mapM activation
  if launch.forceShell || 1 < commands.length || activation.isSome then
    let shell ← quote shell
    let script ← quote (launch.script activation commands)
    pure (shell ++ " -c " ++ script)
  else pure (Separator.andThen.join commands)

/-- The words of the command line. -/
def words (launch : Launch) (shell : String) (commands : List String) :
    Except AssemblyError (List String) := do
  let line ← launch.line shell commands
  match Words.split? line with
  | some words => pure words
  | none => throw (.unsplittable line)

variable {σ : Type}

/-- The words of the command line of command templates. -/
def assemble (launch : Launch) (capture : Capture σ) (shell : String) (bindings : Bindings)
    (commands : List String) : Attempting σ AssemblyError (List String) := do
  let values ← ExceptT.adapt .template (Template.substituteAll capture bindings commands)
  liftExcept (launch.words shell values)
where
  /-- A computation that uses no state. -/
  liftExcept {ε α : Type} (x : Except ε α) : Attempting σ ε α :=
    ExceptT.mk (pure x)

end Launch

end Fleet
