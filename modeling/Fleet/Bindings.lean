/-!
# Bindings

The values that names stand for in a template. A later binding of a name hides the earlier ones.

* `get?_insert`: a binding changes the value of its own name only.
* `get?_merge`: in a merge of two tables the second decides.
-/

namespace Fleet

/-- A table of names and their values, the latest binding first. -/
structure Bindings : Type where
  entries : List (String × String)
  deriving Repr

namespace Bindings

/-- No names at all. -/
def empty : Bindings :=
  ⟨[]⟩

/-- The value of a name. -/
def get? (b : Bindings) (name : String) : Option String :=
  b.entries.lookup name

/-- The table with one more binding. -/
def insert (b : Bindings) (name value : String) : Bindings :=
  ⟨(name, value) :: b.entries⟩

/-- The table of the given bindings, of which a later one hides an earlier one. -/
def ofList (entries : List (String × String)) : Bindings :=
  ⟨entries.reverse⟩

/-- Both tables, the second of which decides about names that both have. -/
def merge (first second : Bindings) : Bindings :=
  ⟨second.entries ++ first.entries⟩

/-- A binding changes the value of its own name only. -/
theorem get?_insert (b : Bindings) (name value other : String) :
    (b.insert name value).get? other = if other = name then some value else b.get? other := by
  by_cases h : other = name
  · simp [get?, insert, h]
  · have ne : (other == name) = false := by simpa using h
    simp [get?, insert, List.lookup_cons, h, ne]

/-- In a merge of two tables the second decides. -/
theorem get?_merge (first second : Bindings) (name : String) :
    (first.merge second).get? name = (second.get? name).or (first.get? name) := by
  simp only [get?, merge]
  induction second.entries with
  | nil => simp
  | cons entry rest ih =>
    obtain ⟨key, value⟩ := entry
    by_cases h : name == key <;> simp [List.lookup_cons, h, ih]

end Bindings

end Fleet
