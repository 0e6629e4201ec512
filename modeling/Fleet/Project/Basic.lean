import Fleet.Assembly.Launch
import Fleet.Config.Parameters

/-!
# Projects

A project is a table of repositories below one root, together with the values their templates can
use, the virtualenvs commands can be run in, and the shell that runs them. The caller of a run may
ask for some of what decides how commands are run; whatever is left open keeps its usual value.
-/

namespace Fleet

/-- What the caller of a run asks for. -/
structure Overrides : Type where
  /-- Use the shell for a single command too. -/
  shell : Option Bool := none
  separator : Option Separator := none
  /-- The name of the virtualenv to activate. -/
  virtualenv : Option String := none
  /-- Show each command line. -/
  debug : Option Bool := none
  deriving Repr, DecidableEq

namespace Overrides

/-- A truth value as text. -/
def flag (value : Bool) : String :=
  if value then "true" else "false"

/-- What is asked for, as it is shown. -/
def parts (o : Overrides) : List String :=
  (o.shell.map ("shell=" ++ flag ·)).toList ++
    (o.separator.map ("sep=" ++ Separator.symbol ·)).toList ++
    (o.virtualenv.map ("venv=" ++ ·)).toList ++
    (o.debug.map ("debug=" ++ flag ·)).toList

/-- The overrides as messages show them. -/
def describe (o : Overrides) : String :=
  if o.parts.isEmpty then "none" else String.intercalate ", " o.parts

end Overrides

/-- A project, ready to run commands in its repositories. -/
structure Project : Type where
  root : String
  shell : String
  repositories : List Repository := []
  /-- The directories of virtualenvs, by name. -/
  virtualenvs : List (String × String) := []
  /-- The texts of constants, by name. -/
  constants : List (String × String) := []
  /-- The values of environment variables, by tagged name. -/
  environment : List (String × String) := []
  deriving Repr

namespace Project

/-- How commands are turned into command lines: as asked for, except that several commands and a
virtualenv always need the shell. A virtualenv that is not known is returned as the error. -/
def launch (p : Project) (commands : List String) (overrides : Overrides) :
    Except String Launch := do
  let forced := overrides.shell.getD false || 1 < commands.length
  let separator := overrides.separator.getD .andThen
  let debug := overrides.debug.getD false
  match overrides.virtualenv with
  | none => pure ⟨forced, separator, none, debug⟩
  | some name =>
    match p.virtualenvs.lookup name with
    | some directory => pure ⟨true, separator, some directory, debug⟩
    | none => throw name

/-- The repositories with a selected id, in the order of the table. -/
def select (p : Project) (selection : List String) : List Repository :=
  p.repositories.filter fun repository => selection.contains repository.id

end Project

end Fleet
