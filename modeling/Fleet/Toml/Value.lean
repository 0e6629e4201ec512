/-!
# TOML values

What a TOML document says. A table remembers how it came about, because that decides whether later
lines may still add to it. A number that is written like one may still have no value: such a value
stands in the document, and is refused where it is used.
-/

namespace Fleet.Toml

/-- How a table came about. -/
inductive Form : Type where
  /-- By a header of its own. -/
  | explicit
  /-- By a header of a table inside it. -/
  | implied
  /-- By a dotted key. -/
  | dotted
  /-- Between braces. -/
  | inlined
  deriving Repr, DecidableEq

/-- A value. -/
inductive Value : Type where
  | text (value : String)
  | integer (value : Int)
  | float (value : Float)
  | bool (value : Bool)
  /-- A date, a time or both, as `Moment.render` writes it. -/
  | moment (text : String)
  /-- A number that no integer or float stands for. -/
  | unrepresentable
  /-- Values between brackets. -/
  | array (values : List Value)
  /-- A table, in the order of its keys' first appearance. -/
  | table (form : Form) (entries : List (String × Value))
  /-- Tables that share one header, each an entry of an array. -/
  | tables (elements : List (List (String × Value)))
  deriving Repr

/-- The keys of a table and their values. -/
abbrev Entries : Type :=
  List (String × Value)

namespace Entries

/-- The entries with a key set to a value. -/
def put (key : String) (value : Value) : Entries → Entries
  | [] => [(key, value)]
  | (other, old) :: rest =>
    if other = key then (key, value) :: rest else (other, old) :: put key value rest

end Entries

end Fleet.Toml
