import Fleet.Shell.Process

/-!
# What a tool is

A tool does something with its arguments and ends with a code. What goes wrong is said on the stream
for errors, after the name of the tool.
-/

namespace Fleet.Tools

open Shell

/-- What a tool does with its arguments, and the code it ends with. -/
abbrev Tool : Type :=
  List Octets → StateM Process Nat

/-- Writes a line of a tool about what went wrong. -/
def fault (message : Octets) : StateM Process Unit := do
  sayError ((← get).name ++ ": ".toList ++ message ++ ['\n'])

/-- Writes a line of a tool about what went wrong, and how to get help. -/
def misuse (message : Octets) : StateM Process Unit := do
  fault message
  sayError ("Try '".toList ++ (← get).name ++ " --help' for more information.\n".toList)

/-- Octets with a separator between them. -/
def joined (separator : Octets) (texts : List Octets) : Octets :=
  List.intercalate separator texts

/-- The value of decimal digits. -/
def number (digits : Octets) : Nat :=
  digits.foldl (fun n d => n * 10 + (d.toNat - '0'.toNat)) 0

end Fleet.Tools
