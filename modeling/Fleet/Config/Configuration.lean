import Fleet.Config.Value
import Fleet.Toml.Document

/-!
# Configurations

A configuration is a TOML document of four parts, each of which may be missing: `settings`,
`constants`, `venvs` and `repos`. Anything else in it is refused. The ids of repositories must
differ.
-/

namespace Fleet

/-- What a configuration says. -/
structure Configuration : Type where
  /-- The shell asked for. -/
  shell : Option String := none
  constants : List (String × Scalar) := []
  /-- The directories of virtualenvs by name, as they are written. -/
  virtualenvs : List (String × String) := []
  /-- The repositories, in the order of the document. -/
  repositories : List Repository := []
  deriving Repr

namespace Configuration

open Toml (Value Entries)

/-- A text. -/
def text? : Value → Option String
  | .text s => some s
  | _ => none

/-- A single value. -/
def scalar? : Value → Option Scalar
  | .text s => some (.text s)
  | .integer n => some (.integer n)
  | .float x => some (.float x)
  | .bool b => some (.bool b)
  | _ => none

/-- A single value or a list of such. -/
def attribute? : Value → Option Attribute
  | .array values => (values.mapM scalar?).map .list
  | value => (scalar? value).map .scalar

/-- The key under which a moment counts as a table. -/
def momentKey : String :=
  "$__toml_private_datetime"

/-- The entries of a table. A moment where a table is asked for is one with a single entry. -/
def entries? : Value → Option Entries
  | .table _ entries => some entries
  | .moment text => some [(momentKey, .text text)]
  | _ => none

/-- Entries with their values decoded. -/
def decodeEntries? {α : Type} (decode : Value → Option α) (entries : Entries) :
    Option (List (String × α)) :=
  entries.mapM fun (key, value) => (decode value).map (key, ·)

/-- A table with its values decoded. -/
def table? {α : Type} (decode : Value → Option α) (value : Value) :
    Option (List (String × α)) := do
  decodeEntries? decode (← entries? value)

/-- A repository: its id, its path, and any other entry as an attribute. -/
def repository? (entries : Entries) : Option Repository := do
  let id ← text? (← entries.lookup "id")
  let path ← text? (← entries.lookup "path")
  let others := entries.filter fun (key, _) => key ≠ "id" && key ≠ "path"
  pure ⟨id, path, ← decodeEntries? attribute? others⟩

/-- Repositories, written under headers or between brackets. -/
def repositories? : Value → Option (List Repository)
  | .tables elements => elements.mapM repository?
  | .array values => values.mapM fun value => do repository? (← entries? value)
  | _ => none

/-- The shell that the settings ask for. Settings may also be written as a list, whose first value
is the shell. -/
def settings? : Value → Option (Option String)
  | .table _ [] => some none
  | .table _ [(key, value)] => if key = "shell" then (text? value).map some else none
  | .array (value :: _) => (text? value).map some
  | _ => none

/-- The configuration with one part added. -/
def add (c : Configuration) : String × Value → Option Configuration
  | (key, value) =>
    match key with
    | "settings" => do pure { c with shell := ← settings? value }
    | "constants" => do pure { c with constants := ← table? scalar? value }
    | "venvs" => do pure { c with virtualenvs := ← table? text? value }
    | "repos" => do pure { c with repositories := ← repositories? value }
    | _ => none

/-- The configuration that a table amounts to. -/
def ofEntries? (entries : Entries) : Option Configuration :=
  entries.foldlM add {}

/-- The first of several ids that equals an earlier one. -/
def firstRepeated? (seen : List String) : List String → Option String
  | [] => none
  | id :: rest => if seen.contains id then some id else firstRepeated? (id :: seen) rest

/-- Why a text is no configuration. -/
inductive Refusal : Type where
  /-- It is not TOML, or not of the shape of a configuration. -/
  | malformed
  /-- An id is given to two repositories. -/
  | repeated (id : String)
  deriving Repr, DecidableEq

/-- The configuration that a text is. -/
def parse (text : String) : Except Refusal Configuration :=
  match (Toml.parse? text).bind ofEntries? with
  | none => .error .malformed
  | some c =>
    match firstRepeated? [] (c.repositories.map Repository.id) with
    | some id => .error (.repeated id)
    | none => .ok c

theorem firstRepeated?_eq_none_iff (seen ids : List String) :
    firstRepeated? seen ids = none ↔ ids.Nodup ∧ ∀ id ∈ ids, id ∉ seen := by
  induction ids generalizing seen with
  | nil => simp [firstRepeated?]
  | cons id rest ih =>
    simp only [firstRepeated?]
    split
    · next h => simp_all
    · next h =>
      rw [ih]
      constructor
      · rintro ⟨nodup, fresh⟩
        refine ⟨List.nodup_cons.2 ⟨fun mem => fresh id mem (by simp), nodup⟩, ?_⟩
        intro x mem
        rcases List.mem_cons.1 mem with rfl | mem
        · simpa using h
        · exact fun seen => fresh x mem (List.mem_cons_of_mem _ seen)
      · rintro ⟨nodup, fresh⟩
        obtain ⟨not_mem, nodup⟩ := List.nodup_cons.1 nodup
        refine ⟨nodup, fun x mem seen => ?_⟩
        rcases List.mem_cons.1 seen with rfl | seen
        · exact not_mem mem
        · exact fresh x (List.mem_cons_of_mem _ mem) seen

/-- The ids before the first one that equals an earlier one are all new. -/
theorem firstRepeated?_eq_some_iff {seen : List String} (distinct : seen.Nodup)
    (ids : List String) (id : String) :
    firstRepeated? seen ids = some id ↔
      ∃ before after, ids = before ++ id :: after ∧ (before.reverse ++ seen).Nodup ∧
        id ∈ before.reverse ++ seen := by
  induction ids generalizing seen with
  | nil =>
    constructor
    · intro found
      cases found
    · rintro ⟨before, after, whole, -⟩
      cases (List.append_eq_nil_iff.1 whole.symm).2
  | cons first rest ih =>
    -- what is seen after the first id is seen with it
    have shift : ∀ before : List String,
        (first :: before).reverse ++ seen = before.reverse ++ first :: seen := fun before => by
      rw [List.reverse_cons, List.append_assoc, List.singleton_append]
    rw [firstRepeated?]
    split
    · next again =>
      have old : first ∈ seen := List.contains_iff_mem.1 again
      constructor
      · rintro ⟨rfl⟩
        exact ⟨[], rest, rfl, distinct, old⟩
      · rintro ⟨before, after, whole, nodup, -⟩
        cases before with
        | nil => exact congrArg some (List.cons.inj whole).1
        | cons other before =>
          obtain ⟨rfl, -⟩ := List.cons.inj whole
          rw [shift] at nodup
          exact absurd old (List.nodup_cons.1 (List.nodup_append.1 nodup).2.1).1
    · next new =>
      have young : first ∉ seen := fun old => new (List.contains_iff_mem.2 old)
      rw [ih (List.nodup_cons.2 ⟨young, distinct⟩)]
      constructor
      · rintro ⟨before, after, rfl, found⟩
        exact ⟨first :: before, after, rfl, by rwa [shift]⟩
      · rintro ⟨before, after, whole, found⟩
        cases before with
        | nil =>
          obtain ⟨rfl, -⟩ := List.cons.inj whole
          exact absurd found.2 young
        | cons other before =>
          obtain ⟨rfl, rfl⟩ := List.cons.inj whole
          exact ⟨before, after, rfl, by rwa [shift] at found⟩

end Configuration

end Fleet
