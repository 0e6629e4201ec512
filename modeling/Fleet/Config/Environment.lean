import Fleet.Text.Utf8

/-!
# Environment variables

The environment of a process holds octets. Only what is text can be used in a template, where the
name of a variable is tagged so that it cannot be mistaken for a constant.
-/

namespace Fleet

/-- The variables of a process, each at most once. -/
structure Environment : Type where
  settings : List (Bytes × Bytes)
  deriving Repr

namespace Environment

/-- The environment that a block of octets holds, in which a name, an equals sign and a value make
up each variable, and a zero ends it. -/
def ofBlock (block : Bytes) : Environment :=
  let equals : UInt8 := 61
  ⟨(block.splitOn 0).filterMap fun entry =>
    match entry.dropWhile (· != equals) with
    | [] => none
    | _ :: value => some (entry.takeWhile (· != equals), value)⟩

/-- What follows certain octets in front. -/
def afterPrefix? : (front entry : Bytes) → Option Bytes
  | [], entry => some entry
  | _, [] => none
  | a :: front, b :: entry => if a = b then afterPrefix? front entry else none

/-- The value of a variable, if it is set. The name is looked up in the variables as they stand in
the block, where an equals sign in it is as good as the one that ends a name. -/
def octets? (e : Environment) (name : String) : Option Bytes :=
  let equals : UInt8 := 61
  if name.isEmpty then none
  else
    e.settings.findSome? fun (own, value) =>
      afterPrefix? (Text.encodeUtf8 name ++ [equals]) (own ++ equals :: value)

/-- The value of a variable, if it is set and is text. -/
def get? (e : Environment) (name : String) : Option String :=
  (e.octets? name).bind Text.decodeUtf8?

/-- The environment with a variable set. -/
def set (e : Environment) (name value : Bytes) : Environment :=
  if e.settings.any (·.1 == name) then
    ⟨e.settings.map fun old => if old.1 == name then (name, value) else old⟩
  else ⟨e.settings ++ [(name, value)]⟩

/-- The name of a variable as templates know it. -/
def tag (name : String) : String :=
  "$" ++ name

/-- The variables that are text, under their tagged names. -/
def snapshot (e : Environment) : List (String × String) :=
  e.settings.filterMap fun (name, value) =>
    match Text.decodeUtf8? name, Text.decodeUtf8? value with
    | some name, some value => some (tag name, value)
    | _, _ => none

end Environment

end Fleet
