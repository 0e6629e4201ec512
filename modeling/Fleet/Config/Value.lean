import Fleet.Decimal.Shortest

/-!
# Configured values

The values that a configuration gives to names: single scalars, and for the attributes of a
repository also lists of them.
-/

namespace Fleet

/-- A single value. -/
inductive Scalar : Type where
  | bool (value : Bool)
  | integer (value : Int)
  | float (value : Float)
  | text (value : String)
  deriving Repr, BEq

/-- The text of a value. -/
def Scalar.render : Scalar → String
  | bool b => if b then "true" else "false"
  | integer n => toString n
  | float x => Decimal.ofFloat x
  | text s => s

/-- The value of an attribute. -/
inductive Attribute : Type where
  | scalar (value : Scalar)
  | list (values : List Scalar)
  deriving Repr, BEq

/-- A repository of the fleet: its id, its path below the project's root, and its attributes in
the order they are given in. -/
structure Repository : Type where
  id : String
  path : String
  attributes : List (String × Attribute) := []
  deriving Repr, BEq

/-- The texts of constants. -/
def renderConstants (constants : List (String × Scalar)) : List (String × String) :=
  constants.map fun (name, value) => (name, value.render)

end Fleet
