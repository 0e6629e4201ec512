import Fleet.Assembly.Launch
import Fleet.Config.Parameters
import Fleet.Proofs.Attempts

/-!
# What texts mention

The atoms of a template are those of its directives, the alternatives of chains among them. To
evaluate a template is to evaluate some of its atoms in some order, and attributes and command
lines are made of the templates in their texts. So whatever two ways of evaluating atoms have in
common, the evaluations of everything that is made of these atoms have in common too.

* `Template.alike_substitute`, `Repository.alike_bindings`, `Launch.alike_assemble`: evaluations
  are alike if those of the atoms are.
* `Repository.within_bindings`, `Launch.within_assemble`: what captures keep is kept.
-/

namespace Fleet

/-! ## Atoms and texts -/

/-- The atoms of a directive, in order. -/
def Directive.atoms : Directive → List Atom
  | .escape _ => []
  | .atom a => [a]
  | .chain alternatives => alternatives.map Alternative.atom

/-- The atoms of a piece. -/
def Piece.atoms : Piece → List Atom
  | .text _ => []
  | .directive d => d.atoms

/-- The atoms of a template. -/
def Template.atoms (t : Template) : List Atom :=
  t.pieces.flatMap Piece.atoms

/-- The text of a value that is read as a template. -/
def Scalar.texts : Scalar → List String
  | .text s => [s]
  | _ => []

/-- The texts of an attribute. -/
def Attribute.texts : Attribute → List String
  | .scalar value => value.texts
  | .list values => values.flatMap Scalar.texts

/-- The texts of the attributes that are evaluated. -/
def textsOf (attributes : List (String × Attribute)) : List String :=
  attributes.flatMap fun (name, value) => if isReservedName name then [] else value.texts

/-- The texts of a repository that are read as templates. -/
def Repository.texts (repository : Repository) : List String :=
  textsOf repository.attributes

/-! ## Evaluating the same atoms -/

open Attempting

variable {σ τ : Type} {S : σ → τ → Prop} {capture : Capture σ} {capture' : Capture τ}
  {bindings bindings' : Bindings}

/-- Atoms are evaluated alike if their names have the same value and their lines are captured
alike. -/
theorem Atom.alike_evaluate {a : Atom}
    (bound : ∀ key, a = .name key → bindings.get? key = bindings'.get? key)
    (captured : ∀ line, a = .command line → Alike S (capture line) (capture' line)) :
    Alike S (a.evaluate capture bindings) (a.evaluate capture' bindings') := by
  cases a with
  | name key =>
    rw [evaluate, evaluate, bound key rfl]
    cases bindings'.get? key with
    | some value => exact alike_pure value
    | none => exact alike_throw _
  | command line => exact alike_adapt (alike_map (captured line rfl))
  | invalid span => exact alike_throw _

theorem Alternative.alike_firstValue {alternatives : List Alternative}
    (each : ∀ a ∈ alternatives.map atom,
      Alike S (a.evaluate capture bindings) (a.evaluate capture' bindings')) :
    Alike S (firstValue capture bindings alternatives)
      (firstValue capture' bindings' alternatives) := by
  induction alternatives with
  | nil => exact alike_throw _
  | cons a rest ih =>
    rw [firstValue, firstValue]
    refine alike_run_bind (each a.atom List.mem_cons_self) fun result => ?_
    cases result with
    | ok value => exact alike_pure value
    | error e => exact alike_adapt (ih fun other mem => each other (List.mem_cons_of_mem _ mem))

theorem Directive.alike_evaluate {d : Directive}
    (each : ∀ a ∈ d.atoms, Alike S (a.evaluate capture bindings) (a.evaluate capture' bindings')) :
    Alike S (d.evaluate capture bindings) (d.evaluate capture' bindings') := by
  cases d with
  | escape inner => exact alike_pure inner
  | atom a => exact alike_adapt (each a List.mem_cons_self)
  | chain alternatives => exact alike_adapt (Alternative.alike_firstValue each)

theorem Piece.alike_evaluate {piece : Piece}
    (each : ∀ a ∈ piece.atoms,
      Alike S (a.evaluate capture bindings) (a.evaluate capture' bindings')) :
    Alike S (piece.evaluate capture bindings) (piece.evaluate capture' bindings') := by
  cases piece with
  | text literal => exact alike_pure literal
  | directive d => exact Directive.alike_evaluate each

theorem Template.alike_evaluatePieces {pieces : List Piece}
    (each : ∀ a ∈ pieces.flatMap Piece.atoms,
      Alike S (a.evaluate capture bindings) (a.evaluate capture' bindings')) :
    Alike S (evaluatePieces capture bindings pieces) (evaluatePieces capture' bindings' pieces) := by
  induction pieces with
  | nil => exact alike_pure _
  | cons piece rest ih =>
    rw [List.flatMap_cons] at each
    rw [evaluatePieces, evaluatePieces]
    refine alike_bind (Piece.alike_evaluate fun a mem => each a (List.mem_append_left _ mem))
      fun value => ?_
    exact alike_bind (ih fun a mem => each a (List.mem_append_right _ mem)) fun _ => alike_pure _

theorem Template.alike_substitute {text : String}
    (each : ∀ a ∈ (parse text).atoms,
      Alike S (a.evaluate capture bindings) (a.evaluate capture' bindings')) :
    Alike S (substitute capture bindings text) (substitute capture' bindings' text) :=
  alike_evaluatePieces each

theorem Template.alike_substituteAll {texts : List String}
    (each : ∀ text ∈ texts, ∀ a ∈ (parse text).atoms,
      Alike S (a.evaluate capture bindings) (a.evaluate capture' bindings')) :
    Alike S (substituteAll capture bindings texts) (substituteAll capture' bindings' texts) := by
  induction texts with
  | nil => exact alike_pure _
  | cons text rest ih =>
    rw [substituteAll, substituteAll]
    refine alike_bind (alike_substitute (each text List.mem_cons_self)) fun value => ?_
    exact alike_bind (ih fun other mem => each other (List.mem_cons_of_mem _ mem))
      fun _ => alike_pure _

theorem Scalar.alike_evaluate {value : Scalar}
    (each : ∀ text ∈ value.texts, ∀ a ∈ (Template.parse text).atoms,
      Alike S (a.evaluate capture bindings) (a.evaluate capture' bindings')) :
    Alike S (value.evaluate capture bindings) (value.evaluate capture' bindings') := by
  cases value with
  | text s => exact Template.alike_substitute (each s List.mem_cons_self)
  | bool => exact alike_pure _
  | integer => exact alike_pure _
  | float => exact alike_pure _

theorem Scalar.alike_evaluateAll {values : List Scalar}
    (each : ∀ text ∈ values.flatMap Scalar.texts, ∀ a ∈ (Template.parse text).atoms,
      Alike S (a.evaluate capture bindings) (a.evaluate capture' bindings')) :
    Alike S (evaluateAll capture bindings values) (evaluateAll capture' bindings' values) := by
  induction values with
  | nil => exact alike_pure _
  | cons value rest ih =>
    rw [List.flatMap_cons] at each
    rw [evaluateAll, evaluateAll]
    refine alike_bind (Scalar.alike_evaluate fun text mem => each text (List.mem_append_left _ mem))
      fun first => ?_
    exact alike_bind (ih fun text mem => each text (List.mem_append_right _ mem))
      fun _ => alike_pure _

theorem Attribute.alike_evaluate {value : Attribute}
    (each : ∀ text ∈ value.texts, ∀ a ∈ (Template.parse text).atoms,
      Alike S (a.evaluate capture bindings) (a.evaluate capture' bindings')) :
    Alike S (value.evaluate capture bindings) (value.evaluate capture' bindings') := by
  cases value with
  | scalar value => exact Scalar.alike_evaluate each
  | list values => exact alike_map (Scalar.alike_evaluateAll each)

theorem alike_evaluateAttributes {attributes : List (String × Attribute)}
    (each : ∀ text ∈ textsOf attributes, ∀ a ∈ (Template.parse text).atoms,
      Alike S (a.evaluate capture bindings) (a.evaluate capture' bindings')) :
    Alike S (evaluateAttributes capture bindings attributes)
      (evaluateAttributes capture' bindings' attributes) := by
  induction attributes with
  | nil => exact alike_pure _
  | cons entry rest ih =>
    obtain ⟨name, value⟩ := entry
    rw [textsOf, List.flatMap_cons] at each
    have others := ih fun text mem => each text (List.mem_append_right _ mem)
    rw [evaluateAttributes, evaluateAttributes]
    by_cases reserved : isReservedName name = true
    · rwa [if_pos reserved, if_pos reserved]
    · dsimp only at each
      rw [if_neg reserved] at each
      rw [if_neg reserved, if_neg reserved]
      refine alike_bind (alike_adapt (Attribute.alike_evaluate fun text mem =>
        each text (List.mem_append_left _ mem))) fun _ => ?_
      exact alike_bind others fun _ => alike_pure _

/-- The attributes of a repository are evaluated alike if the lines in its texts are captured
alike. -/
theorem Repository.alike_bindings {constants environment : List (String × String)}
    {repository : Repository}
    (captured : ∀ text ∈ repository.texts, ∀ line, .command line ∈ (Template.parse text).atoms →
      Alike S (capture line) (capture' line)) :
    Alike S (repository.bindings capture constants environment)
      (repository.bindings capture' constants environment) := by
  refine alike_bind (alike_evaluateAttributes fun text mem a held => ?_) fun _ => alike_pure _
  exact Atom.alike_evaluate (fun _ _ => rfl) fun line same => captured text mem line (same ▸ held)

/-- A command line is assembled alike if the atoms in its commands are evaluated alike. -/
theorem Launch.alike_assemble_of {launch : Launch} {shell : String} {commands : List String}
    (each : ∀ text ∈ commands, ∀ a ∈ (Template.parse text).atoms,
      Alike S (a.evaluate capture bindings) (a.evaluate capture' bindings')) :
    Alike S (launch.assemble capture shell bindings commands)
      (launch.assemble capture' shell bindings' commands) :=
  alike_bind (alike_adapt (Template.alike_substituteAll each)) fun _ _ _ related => ⟨rfl, related⟩

/-- A command line is assembled alike if the lines in its commands are captured alike. -/
theorem Launch.alike_assemble {launch : Launch} {shell : String} {commands : List String}
    (captured : ∀ text ∈ commands, ∀ line, .command line ∈ (Template.parse text).atoms →
      Alike S (capture line) (capture' line)) :
    Alike S (launch.assemble capture shell bindings commands)
      (launch.assemble capture' shell bindings commands) :=
  alike_assemble_of fun text mem _ held =>
    Atom.alike_evaluate (fun _ _ => rfl) fun line same => captured text mem line (same ▸ held)

/-! ## What captures keep -/

section

variable {R : σ → σ → Prop} (refl : ∀ s, R s s) (trans : ∀ s t u, R s t → R t u → R s u)
  (captured : ∀ line, Within R (capture line)) (bindings : Bindings)

include refl trans captured

theorem Repository.within_bindings (constants environment : List (String × String))
    (repository : Repository) :
    Within R (repository.bindings capture constants environment) :=
  within_of_alike refl fun start => alike_bindings fun _ _ line _ =>
    alike_of_within trans (captured line) start

theorem Launch.within_assemble (launch : Launch) (shell : String) (commands : List String) :
    Within R (launch.assemble capture shell bindings commands) :=
  within_of_alike refl fun start => alike_assemble fun _ _ line _ =>
    alike_of_within trans (captured line) start

end

end Fleet
