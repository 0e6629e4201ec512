import Fleet.Text.Quoted

/-!
# JSON text

Strings, lists and objects as JSON for people to read: an item a line, indented by two blanks for
each level.
-/

namespace Fleet.Text.Json

/-- One character within a string. -/
def escape (c : Char) : String :=
  match c with
  | '"' => "\\\""
  | '\\' => "\\\\"
  | '\n' => "\\n"
  | '\r' => "\\r"
  | '\t' => "\\t"
  | '\x08' => "\\b"
  | '\x0c' => "\\f"
  | c =>
    if c.toNat < 0x10 then "\\u000" ++ hexDigits c.toNat
    else if c.toNat < 0x20 then "\\u00" ++ hexDigits c.toNat
    else String.singleton c

/-- A string. -/
def string (s : String) : String :=
  "\"" ++ String.join (s.toList.map escape) ++ "\""

/-- The blanks in front of a line. -/
def indent (level : Nat) : String :=
  String.ofList (List.replicate (2 * level) ' ')

/-- Items between brackets; the brackets stand at the given level. -/
def block (opening closing : String) (level : Nat) (items : List String) : String :=
  if items = [] then opening ++ closing
  else
    opening ++ "\n" ++ String.intercalate ",\n" (items.map (indent (level + 1) ++ ·)) ++ "\n" ++
      indent level ++ closing

/-- A list of items that are JSON. -/
def list (level : Nat) (items : List String) : String :=
  block "[" "]" level items

/-- An object with fields that are JSON. -/
def object (level : Nat) (fields : List (String × String)) : String :=
  block "\x7b" "\x7d" level (fields.map fun (name, value) => string name ++ ": " ++ value)

end Fleet.Text.Json
