import Fleet.Assembly.Launch
import Fleet.Config.Parameters
import Fleet.Proofs.Attempts
import Mathlib.Data.List.Forall2

/-!
# What texts come to

What comes of a template, told without a state: each of its parts comes to a value or a failure by
itself, the values are put together in order, and the first failure is that of the whole. A name
comes to its value and a command line to what it printed at some time, character by character as
they are. Attributes and command lines are put together from templates.

* `Template.gives_substitute`, `Repository.gives_bindings`, `Launch.gives_assemble`: evaluations come
  to nothing else.
-/

namespace Fleet

/-- What comes of a list each part of which comes to something: all values in order, or the first
failure. -/
inductive InOrder {α β ε : Type} (R : α → Except ε β → Prop) :
    List α → Except ε (List β) → Prop where
  | nil : InOrder R [] (.ok [])
  | failed {a : α} {rest : List α} {e : ε} (first : R a (.error e)) :
      InOrder R (a :: rest) (.error e)
  | cons {a : α} {rest : List α} {b : β} {result : Except ε (List β)} (first : R a (.ok b))
      (others : InOrder R rest result) : InOrder R (a :: rest) (result.map (b :: ·))

theorem InOrder.both {α β ε : Type} {R : α → Except ε β → Prop} {a : α} {rest : List α}
    {result : Except ε β} {results : Except ε (List β)} (first : R a result)
    (others : InOrder R rest results) :
    InOrder R (a :: rest) (result.bind fun b => results.map (b :: ·)) := by
  cases result with
  | error e => exact .failed first
  | ok b => exact .cons first others

theorem InOrder.exists_error {α β ε : Type} {R : α → Except ε β → Prop} {as : List α} {e : ε}
    (first : InOrder R as (.error e)) : ∃ a ∈ as, R a (.error e) := by
  generalize all : Except.error e = outcome at first
  induction first with
  | nil => cases all
  | failed first =>
    cases all
    exact ⟨_, List.mem_cons_self, first⟩
  | @cons a rest b result _ _ ih =>
    match result, all with
    | .error _, all =>
      cases all
      obtain ⟨found, mem, fails⟩ := ih rfl
      exact ⟨found, List.mem_cons_of_mem _ mem, fails⟩

theorem InOrder.forall₂ {α β ε : Type} {R : α → Except ε β → Prop} {as : List α} {bs : List β}
    (all : InOrder R as (.ok bs)) : List.Forall₂ (fun a b => R a (.ok b)) as bs := by
  generalize same : Except.ok bs = outcome at all
  induction all generalizing bs with
  | nil =>
    cases same
    exact .nil
  | failed => cases same
  | @cons a rest b result first _ ih =>
    match result, same with
    | .ok _, same =>
      cases same
      exact .cons first (ih rfl)

/-- What a named attribute comes to, under its name, if `R` says what its value comes to. -/
def EntryComes (R : Attribute → Except TemplateError String → Prop) (entry : String × Attribute)
    (result : Except AttributeError (String × String)) : Prop :=
  ∃ text, R entry.2 text ∧ result = (text.mapError (⟨entry.1, ·⟩)).map (entry.1, ·)

section

variable {σ : Type} (capture : Capture σ) (bindings : Bindings)

/-- What capturing a line comes to in some state. -/
def Captures (line : String) (result : Except ExecutionError String) : Prop :=
  ∃ s, ((capture line).run s).1 = result

/-- What an atom comes to. -/
inductive Atom.Gives : Atom → Except AtomError String → Prop where
  | bound {key value : String} (held : bindings.get? key = some value) :
      Gives (.name key) (.ok value)
  | missing {key : String} (absent : bindings.get? key = none) :
      Gives (.name key) (.error (.missing key))
  | printed {line output : String} (captured : Captures capture line (.ok output)) :
      Gives (.command line) (.ok (Text.trimEnd output))
  | failed {line : String} {cause : ExecutionError}
      (captured : Captures capture line (.error cause)) :
      Gives (.command line) (.error (.command line cause))
  | invalid {span : String} : Gives (.invalid span) (.error (.invalid span))

/-- What alternatives come to: the first value, or every failure in order. -/
inductive Alternative.FirstOf : List Alternative → Except (List FailedAttempt) String → Prop where
  | nil : FirstOf [] (.error [])
  | chosen {a : Alternative} {rest : List Alternative} {value : String}
      (first : a.atom.Gives capture bindings (.ok value)) : FirstOf (a :: rest) (.ok value)
  | failed {a : Alternative} {rest : List Alternative} {e : AtomError}
      {result : Except (List FailedAttempt) String}
      (first : a.atom.Gives capture bindings (.error e)) (others : FirstOf rest result) :
      FirstOf (a :: rest) (result.mapError (⟨a.source, e⟩ :: ·))

/-- What a directive comes to. -/
inductive Directive.Gives : Directive → Except TemplateError String → Prop where
  | escape {inner : String} : Gives (.escape inner) (.ok inner)
  | atom {a : Atom} {result : Except AtomError String} (given : a.Gives capture bindings result) :
      Gives (.atom a) (result.mapError .atom)
  | chain {alternatives : List Alternative} {result : Except (List FailedAttempt) String}
      (given : Alternative.FirstOf capture bindings alternatives result) :
      Gives (.chain alternatives)
        (result.mapError (.exhausted (Alternative.printAll alternatives)))

/-- What a piece comes to. -/
inductive Piece.Gives : Piece → Except TemplateError String → Prop where
  | text {literal : String} : Gives (.text literal) (.ok literal)
  | directive {d : Directive} {result : Except TemplateError String}
      (given : d.Gives capture bindings result) : Gives (.directive d) result

/-- What a template comes to: what its pieces come to, one after the other. -/
def Template.Gives (t : Template) (result : Except TemplateError String) : Prop :=
  ∃ parts, InOrder (Piece.Gives capture bindings) t.pieces parts ∧ result = parts.map String.join

/-- What a value comes to; only text is a template. -/
def Scalar.Gives : Scalar → Except TemplateError String → Prop
  | .text s, result => (Template.parse s).Gives capture bindings result
  | value, result => result = .ok value.render

/-- What an attribute comes to. -/
def Attribute.Gives : Attribute → Except TemplateError String → Prop
  | .scalar value, result => value.Gives capture bindings result
  | .list values, result =>
    ∃ texts, InOrder (Scalar.Gives capture bindings) values texts ∧
      result = texts.map (String.intercalate " ")

/-- What a named attribute comes to, under its name. -/
def EntryGives (entry : String × Attribute) (result : Except AttributeError (String × String)) :
    Prop :=
  ∃ text, entry.2.Gives capture bindings text ∧
    result = (text.mapError (⟨entry.1, ·⟩)).map (entry.1, ·)

/-- What the parameters of a repository come to. Its attributes see no other values than the
constants and the environment. -/
def Repository.Gives (constants environment : List (String × String)) (repository : Repository)
    (result : Except AttributeError Bindings) : Prop :=
  ∃ entries,
    InOrder (EntryGives capture (.layered constants environment []))
      (repository.attributes.filter fun entry => !isReservedName entry.1) entries ∧
    result = entries.map fun entries => .layered constants environment
      (entries ++ [(idName, repository.id), (pathName, repository.path)])

/-- What a command line comes to: the values of the commands, as words. -/
def Launch.Gives (launch : Launch) (shell : String) (commands : List String)
    (result : Except AssemblyError (List String)) : Prop :=
  ∃ values, InOrder (fun text => (Template.parse text).Gives capture bindings) commands values ∧
    result = (values.mapError .template).bind (launch.words shell)

end

/-! ## Evaluations -/

open Attempting

variable {σ : Type} (capture : Capture σ) (bindings : Bindings)

theorem Atom.gives_evaluate (a : Atom) (s : σ) :
    a.Gives capture bindings ((a.evaluate capture bindings).run s).1 := by
  cases a with
  | name key =>
    rw [evaluate]
    match held : bindings.get? key with
    | some value => exact .bound held
    | none => exact .missing held
  | command line =>
    rw [evaluate, run_adapt, run_map]
    match captured : ((capture line).run s).1 with
    | .ok output => exact .printed ⟨s, captured⟩
    | .error cause => exact .failed ⟨s, captured⟩
  | invalid span => exact .invalid

theorem Alternative.firstOf_firstValue (alternatives : List Alternative) (s : σ) :
    FirstOf capture bindings alternatives ((firstValue capture bindings alternatives).run s).1 := by
  induction alternatives generalizing s with
  | nil => exact .nil
  | cons a rest ih =>
    have first := a.atom.gives_evaluate capture bindings s
    rw [firstValue, run_lift_bind]
    match (a.atom.evaluate capture bindings).run s, first with
    | (.ok value, _), first => exact .chosen first
    | (.error e, t), first => exact .failed first (ih t)

theorem Directive.gives_evaluate (d : Directive) (s : σ) :
    d.Gives capture bindings ((d.evaluate capture bindings).run s).1 := by
  cases d with
  | escape inner => exact .escape
  | atom a => exact .atom (a.gives_evaluate capture bindings s)
  | chain alternatives => exact .chain (Alternative.firstOf_firstValue capture bindings _ s)

theorem Piece.gives_evaluate (piece : Piece) (s : σ) :
    piece.Gives capture bindings ((piece.evaluate capture bindings).run s).1 := by
  cases piece with
  | text literal => exact .text
  | directive d => exact .directive (d.gives_evaluate capture bindings s)

theorem Template.gives_evaluatePieces (pieces : List Piece) (s : σ) :
    Gives capture bindings ⟨pieces⟩ ((evaluatePieces capture bindings pieces).run s).1 := by
  induction pieces generalizing s with
  | nil => exact ⟨_, .nil, rfl⟩
  | cons piece rest ih =>
    have first := piece.gives_evaluate capture bindings s
    obtain ⟨parts, others, same⟩ := ih ((piece.evaluate capture bindings).run s).2
    refine ⟨_, .both first others, ?_⟩
    rw [evaluatePieces, run_both, same]
    cases ((piece.evaluate capture bindings).run s).1 with
    | error e => rfl
    | ok value =>
      cases parts with
      | error e => rfl
      | ok parts => exact congrArg Except.ok String.join_cons.symm

/-- A text comes to nothing but what its pieces come to. -/
theorem Template.gives_substitute (text : String) (s : σ) :
    (parse text).Gives capture bindings ((substitute capture bindings text).run s).1 :=
  gives_evaluatePieces capture bindings (parse text).pieces s

theorem Template.inOrder_substituteAll (texts : List String) (s : σ) :
    InOrder (fun text => (parse text).Gives capture bindings) texts
      ((substituteAll capture bindings texts).run s).1 := by
  induction texts generalizing s with
  | nil => exact .nil
  | cons text rest ih =>
    rw [substituteAll, run_both]
    exact .both (gives_substitute capture bindings text s) (ih _)

theorem Scalar.gives_evaluate (value : Scalar) (s : σ) :
    value.Gives capture bindings ((value.evaluate capture bindings).run s).1 := by
  cases value with
  | text text => exact Template.gives_substitute capture bindings text s
  | bool | integer | float => rfl

theorem Scalar.inOrder_evaluateAll (values : List Scalar) (s : σ) :
    InOrder (Scalar.Gives capture bindings) values
      ((evaluateAll capture bindings values).run s).1 := by
  induction values generalizing s with
  | nil => exact .nil
  | cons value rest ih =>
    rw [evaluateAll, run_both]
    exact .both (value.gives_evaluate capture bindings s) (ih _)

theorem Attribute.gives_evaluate (value : Attribute) (s : σ) :
    value.Gives capture bindings ((value.evaluate capture bindings).run s).1 := by
  cases value with
  | scalar value => exact value.gives_evaluate capture bindings s
  | list values =>
    rw [evaluate, run_map]
    exact ⟨_, Scalar.inOrder_evaluateAll capture bindings values s, rfl⟩

/-- If the texts of attributes come to something each, so do the attributes that are evaluated, under
their names. -/
theorem inOrder_evaluateAttributes_of {capture : Capture σ} {bindings : Bindings}
    {R : Attribute → Except TemplateError String → Prop}
    (each : ∀ value s, R value ((Attribute.evaluate capture bindings value).run s).1)
    (attributes : List (String × Attribute)) (s : σ) :
    InOrder (EntryComes R) (attributes.filter fun entry => !isReservedName entry.1)
      ((evaluateAttributes capture bindings attributes).run s).1 := by
  induction attributes generalizing s with
  | nil => exact .nil
  | cons entry rest ih =>
    obtain ⟨name, value⟩ := entry
    rw [evaluateAttributes]
    by_cases reserved : isReservedName name = true
    · rw [if_pos reserved, List.filter_cons_of_neg (by simp [reserved])]
      exact ih s
    · rw [if_neg reserved, List.filter_cons_of_pos (by simp [reserved]), run_both, run_adapt]
      have first := each value s
      have others := ih ((value.evaluate capture bindings).run s).2
      match (value.evaluate capture bindings).run s, first, others with
      | (.error e, _), first, _ => exact .failed ⟨_, first, rfl⟩
      | (.ok text, t), first, others => exact .cons ⟨_, first, rfl⟩ others

theorem inOrder_evaluateAttributes (attributes : List (String × Attribute)) (s : σ) :
    InOrder (EntryGives capture bindings)
      (attributes.filter fun entry => !isReservedName entry.1)
      ((evaluateAttributes capture bindings attributes).run s).1 :=
  inOrder_evaluateAttributes_of (fun value => value.gives_evaluate capture bindings) attributes s

/-- The attributes see what is shared, and the id and the path are listed behind them. -/
theorem Repository.run_bindings (constants environment : List (String × String))
    (repository : Repository) (s : σ) :
    (repository.bindings capture constants environment).run s =
      (((evaluateAttributes capture (.layered constants environment [])
        repository.attributes).run s).1.map fun named =>
          .layered constants environment
            (named ++ [(idName, repository.id), (pathName, repository.path)]),
        ((evaluateAttributes capture (.layered constants environment [])
          repository.attributes).run s).2) := by
  rw [bindings, run_bind]
  match (evaluateAttributes capture (.layered constants environment [])
    repository.attributes).run s with
  | (.error _, _) | (.ok _, _) => rfl

/-- The parameters of a repository come to nothing else. -/
theorem Repository.gives_bindings (constants environment : List (String × String))
    (repository : Repository) (s : σ) :
    repository.Gives capture constants environment
      ((repository.bindings capture constants environment).run s).1 :=
  ⟨_, inOrder_evaluateAttributes capture (.layered constants environment [])
    repository.attributes s, congrArg Prod.fst (run_bindings capture constants environment _ s)⟩

/-- A command line comes to nothing else. -/
theorem Launch.gives_assemble (launch : Launch) (shell : String) (commands : List String) (s : σ) :
    launch.Gives capture bindings shell commands
      ((launch.assemble capture shell bindings commands).run s).1 := by
  refine ⟨_, Template.inOrder_substituteAll capture bindings commands s, ?_⟩
  rw [assemble, run_bind, run_adapt]
  match (Template.substituteAll capture bindings commands).run s with
  | (.error _, _) | (.ok _, _) => rfl

/-- A value that has the form of a directive is not one, and neither is an output. -/
example :
    ((Template.substitute (fun _ => pure "{x}") ⟨[("x", "{__shell__:rm x}")]⟩
      "{x} {__shell__:x}").run ()).1.toOption = some "{__shell__:rm x} {x}" := by
  decide +kernel

end Fleet
