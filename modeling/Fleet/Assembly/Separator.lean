import Fleet.Text.Blank

/-!
# Separators of commands

How several commands are chained in one line of a shell.
-/

namespace Fleet

/-- What stands between two commands of a line. -/
inductive Separator : Type where
  /-- Go on after a success. -/
  | andThen
  /-- Go on after a failure. -/
  | orElse
  /-- Go on in any case. -/
  | always
  deriving Repr, DecidableEq, Inhabited

namespace Separator

/-- The operator itself. -/
def symbol : Separator → String
  | andThen => "&&"
  | orElse => "||"
  | always => ";"

/-- The text between two commands. -/
def joiner : Separator → String
  | andThen => " && "
  | orElse => " || "
  | always => "; "

/-- The separator that a symbol or its word names, blanks around it aside. -/
def ofString? (s : String) : Except String Separator :=
  let name := Text.trim s
  if name = "&&" ∨ name = "and" then .ok andThen
  else if name = "||" ∨ name = "or" then .ok orElse
  else if name = ";" ∨ name = "seq" then .ok always
  else .error ("unknown separator '" ++ name ++ "' (expected '&&', '||' or ';')")

/-- Commands chained in one line. -/
def join (separator : Separator) (commands : List String) : String :=
  String.intercalate separator.joiner commands

end Separator

end Fleet
