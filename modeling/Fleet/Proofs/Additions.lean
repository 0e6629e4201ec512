import Fleet.Proofs.Dialogues
import Fleet.Proofs.Tables

/-!
# Adding names

A name that is added to a table may give a value to an atom that had none, and it changes no value
that was there. So a template that has a value keeps having one. This need not be the same value: in
a chain an alternative that used to fail may come first now. But then this alternative is one of the
names that were added.

* `Atom.alike_or_adds`: an atom comes to the same, or it is a name that was added.
* `Alternative.outlasts_firstValue`: what becomes of a chain.
* `Template.substitute_of_extends`: a template with a value has one in every larger table, and the
  same one if none of the names that were added is an alternative.
-/

namespace Fleet

/-! ## Larger tables -/

namespace Bindings

variable {larger bindings : Bindings} {key value : String}

/-- Every name of the second table stands for the same in the first. -/
def Extends (larger bindings : Bindings) : Prop :=
  ∀ key value, bindings.get? key = some value → larger.get? key = some value

/-- The name stands for something in the first table and for nothing in the second. -/
def Adds (larger bindings : Bindings) (key : String) : Prop :=
  bindings.get? key = none ∧ larger.get? key ≠ none

instance (larger bindings : Bindings) (key : String) : Decidable (larger.Adds bindings key) :=
  inferInstanceAs (Decidable (_ ∧ _))

theorem Extends.get?_eq_of_not_adds (extended : larger.Extends bindings)
    (old : ¬larger.Adds bindings key) : bindings.get? key = larger.get? key := by
  cases held : bindings.get? key with
  | some value => exact (extended key value held).symm
  | none => exact (Decidable.of_not_not fun new => old ⟨held, Ne.symm new⟩)

theorem extends_insert (free : bindings.get? key = none) :
    (bindings.insert key value).Extends bindings := by
  intro other held found
  have ne : other ≠ key := by
    rintro rfl
    rw [free] at found
    cases found
  rw [get?_insert, if_neg ne, found]

end Bindings

/-! ## Values that stay -/

namespace Attempting

variable {σ ε ε' α β : Type} {Same : Prop}

/-- If the first computation has a value from one state, then the second has one from any other, and
it is the same value under the condition. -/
def Outlasts (Same : Prop) (x y : Attempting σ ε α) : Prop :=
  ∀ s t a, (x.run s).1 = .ok a → ∃ b, (y.run t).1 = .ok b ∧ (Same → b = a)

theorem outlasts_pure (a : α) : Outlasts Same (pure a : Attempting σ ε α) (pure a) := by
  rintro s t _ ⟨⟩
  exact ⟨a, rfl, fun _ => rfl⟩

theorem outlasts_throw (e : ε) (y : Attempting σ ε α) : Outlasts Same (throw e) y := by
  rintro s t a ⟨⟩

theorem outlasts_of_alike {x y : Attempting σ ε α} (alike : Alike (fun _ _ => True) x y) :
    Outlasts Same x y :=
  fun s t a ran => ⟨a, (alike s t trivial).1 ▸ ran, fun _ => rfl⟩

theorem Outlasts.mono {Fewer : Prop} {x y : Attempting σ ε α} (kept : Outlasts Same x y)
    (fewer : Fewer → Same) : Outlasts Fewer x y := by
  intro s t a ran
  obtain ⟨b, ran', same⟩ := kept s t a ran
  exact ⟨b, ran', same ∘ fewer⟩

theorem outlasts_adapt {g : ε → ε'} {x y : Attempting σ ε α} (kept : Outlasts Same x y) :
    Outlasts Same (ExceptT.adapt g x) (ExceptT.adapt g y) := by
  intro s t a ran
  rw [run_adapt] at ran
  obtain ⟨b, ran', same⟩ := kept s t a (of_mapError_ok ran)
  exact ⟨b, by rw [run_adapt, ran']; rfl, same⟩

/-- What comes next may depend on the first value, which stays under the condition. -/
theorem outlasts_bind {x y : Attempting σ ε α} {f g : α → Attempting σ ε β}
    (first : Outlasts Same x y)
    (second : ∀ a b, (Same → b = a) → Outlasts Same (f a) (g b)) :
    Outlasts Same (x >>= f) (y >>= g) := by
  intro s t c ran
  obtain ⟨a, s', ranFirst, ranSecond⟩ :=
    of_run_bind_ok (show (x >>= f).run s = (.ok c, _) from Prod.ext ran rfl)
  obtain ⟨b, ranFirst', same⟩ := first s t a (congrArg Prod.fst ranFirst)
  rw [run_bind_ok (show y.run t = (.ok b, _) from Prod.ext ranFirst' rfl)]
  exact second a b same s' _ c (congrArg Prod.fst ranSecond)

/-- The same where a failure of the first is one of the ways to go on. -/
theorem outlasts_run_bind {x y : Attempting σ ε' α} {f g : Except ε' α → Attempting σ ε β}
    (first : Alike (fun _ _ => True) x y) (second : ∀ result, Outlasts Same (f result) (g result)) :
    Outlasts Same ((liftM x.run : Attempting σ ε (Except ε' α)) >>= f) (liftM y.run >>= g) := by
  intro s t b ran
  have same : (x.run s).1 = (y.run t).1 := (first s t trivial).1
  rw [run_lift_bind] at ran ⊢
  rw [← same]
  exact second _ _ _ b ran

end Attempting

/-! ## Templates in larger tables -/

open Attempting

/-- The alternatives of a directive, if it is a chain. -/
def Directive.alternatives : Directive → List Alternative
  | .chain alternatives => alternatives
  | _ => []

/-- The alternatives of all chains among pieces. -/
def Piece.alternatives (pieces : List Piece) : List Alternative :=
  (directives pieces).flatMap Directive.alternatives

/-- The alternatives of all chains of a template. -/
def Template.alternatives (t : Template) : List Alternative :=
  Piece.alternatives t.pieces

/-- None of the alternatives is a name that the first table adds to the second. -/
def Alternative.AllOld (larger bindings : Bindings) (alternatives : List Alternative) : Prop :=
  ∀ a ∈ alternatives, ∀ key, a.atom = .name key → ¬larger.Adds bindings key

section

variable {σ : Type} {capture : Capture σ} {answers : String → Except ExecutionError String}
  {larger bindings : Bindings}

/-- An atom comes to the same in a larger table, or it is a name that was added. -/
theorem Atom.alike_or_adds (steady : Steady capture answers) (extended : larger.Extends bindings)
    (a : Atom) :
    Alike (fun _ _ => True) (a.evaluate capture bindings) (a.evaluate capture larger) ∨
      ∃ key, a = .name key ∧ larger.Adds bindings key := by
  by_cases new : ∃ key, a = .name key ∧ larger.Adds bindings key
  · exact .inr new
  · refine .inl (a.alike_evaluate (fun key named => ?_) fun line _ s t _ => ?_)
    · exact extended.get?_eq_of_not_adds fun adds => new ⟨key, named, adds⟩
    · exact ⟨(steady line s).trans (steady line t).symm, trivial⟩

/-- An atom with a value keeps it. -/
theorem Atom.outlasts_evaluate {Same : Prop} (steady : Steady capture answers)
    (extended : larger.Extends bindings) (a : Atom) :
    Outlasts Same (a.evaluate capture bindings) (a.evaluate capture larger) := by
  obtain alike | ⟨key, rfl, free, -⟩ := a.alike_or_adds steady extended
  · exact outlasts_of_alike alike
  · rw [evaluate, free]
    exact outlasts_throw _ _

/-- A chain with a value keeps having one. Either the alternatives before the first that has a value
fail as they did, or one of them is a name that was added and now has a value. -/
theorem Alternative.outlasts_firstValue (steady : Steady capture answers)
    (extended : larger.Extends bindings) (alternatives : List Alternative) :
    Outlasts (AllOld larger bindings alternatives) (firstValue capture bindings alternatives)
      (firstValue capture larger alternatives) := by
  induction alternatives with
  | nil => exact outlasts_throw _ _
  | cons a rest ih =>
    obtain alike | ⟨key, named, adds⟩ := a.atom.alike_or_adds steady extended
    · rw [firstValue, firstValue]
      refine outlasts_run_bind alike fun result => ?_
      cases result with
      | ok value => exact outlasts_pure value
      | error e =>
        exact outlasts_adapt (ih.mono fun old other mem => old other (List.mem_cons_of_mem a mem))
    · intro s t value ran
      obtain ⟨new, held⟩ := Option.ne_none_iff_exists'.1 adds.2
      refine ⟨new, ?_, fun old => absurd adds (old a List.mem_cons_self key named)⟩
      rw [firstValue, named, Atom.evaluate, held]
      rfl

theorem Directive.outlasts_evaluate (steady : Steady capture answers)
    (extended : larger.Extends bindings) (d : Directive) :
    Outlasts (Alternative.AllOld larger bindings d.alternatives) (d.evaluate capture bindings)
      (d.evaluate capture larger) := by
  cases d with
  | escape inner => exact outlasts_pure inner
  | atom a => exact outlasts_adapt (a.outlasts_evaluate steady extended)
  | chain alternatives =>
    exact outlasts_adapt (Alternative.outlasts_firstValue steady extended alternatives)

theorem Template.outlasts_evaluatePieces (steady : Steady capture answers)
    (extended : larger.Extends bindings) (pieces : List Piece) :
    Outlasts (Alternative.AllOld larger bindings (Piece.alternatives pieces))
      (evaluatePieces capture bindings pieces) (evaluatePieces capture larger pieces) := by
  induction pieces with
  | nil => exact outlasts_pure _
  | cons piece rest ih =>
    rw [evaluatePieces, evaluatePieces]
    have first : Outlasts (Alternative.AllOld larger bindings (Piece.alternatives (piece :: rest)))
        (piece.evaluate capture bindings) (piece.evaluate capture larger) := by
      cases piece with
      | text literal => exact outlasts_pure literal
      | directive d =>
        exact (d.outlasts_evaluate steady extended).mono fun old other mem =>
          old other (List.mem_append_left _ mem)
    have others : Outlasts
        (Alternative.AllOld larger bindings (Piece.alternatives (piece :: rest)))
        (evaluatePieces capture bindings rest) (evaluatePieces capture larger rest) := by
      refine ih.mono fun old other mem => old other ?_
      cases piece with
      | text literal => exact mem
      | directive d => exact List.mem_append_right _ mem
    refine outlasts_bind first fun value value' same => outlasts_bind others ?_
    intro filling filling' same' s t joined ran
    obtain rfl : value ++ filling = joined := Except.ok.inj ran
    exact ⟨value' ++ filling', rfl, fun old => by rw [same old, same' old]⟩

/-- If a shell always gives the same answer to a line, a template with a value has one in every
larger table, whatever states the shell is asked in. It is the same value if no alternative of a
chain is a name that was added. -/
theorem Template.substitute_of_extends (steady : Steady capture answers)
    (extended : larger.Extends bindings) {text value : String} {s : σ}
    (valued : ((substitute capture bindings text).run s).1 = .ok value) (t : σ) :
    ∃ value', ((substitute capture larger text).run t).1 = .ok value' ∧
      ((∀ a ∈ (parse text).alternatives, ∀ key, a.atom = .name key → ¬larger.Adds bindings key) →
        value' = value) :=
  outlasts_evaluatePieces steady extended (parse text).pieces s t value valued

end

open Repository (counting whoami)

/-- A table with one name. -/
def Bindings.owned : Bindings :=
  .ofList [("owner", "ops")]

/-- A name that no alternative refers to changes nothing. One that is an alternative takes the place
of the next alternative. -/
theorem Template.substitute_of_extends_owned :
    Steady counting whoami ∧ (Bindings.owned.insert "team" "blue").Extends .owned ∧
      ((substitute counting .owned "{nick|owner} is {__shell__:whoami}").run 0).1 =
        .ok "ops is me" ∧
      ((substitute counting (Bindings.owned.insert "team" "blue")
        "{nick|owner} is {__shell__:whoami}").run 5).1 = .ok "ops is me" ∧
      ((substitute counting (Bindings.owned.insert "nick" "boss")
        "{nick|owner} is {__shell__:whoami}").run 5).1 = .ok "boss is me" := by
  have steady : Steady counting whoami := fun _ _ => rfl
  have extended : (Bindings.owned.insert "team" "blue").Extends .owned :=
    Bindings.extends_insert (by decide)
  have valued : ((substitute counting .owned "{nick|owner} is {__shell__:whoami}").run 0).1 =
      .ok "ops is me" := by
    decide +kernel
  have listed : (parse "{nick|owner} is {__shell__:whoami}").alternatives =
      [⟨"nick", .name "nick"⟩, ⟨"owner", .name "owner"⟩] := by
    decide +kernel
  obtain ⟨value, ran, same⟩ := substitute_of_extends steady extended valued 5
  obtain rfl : value = "ops is me" := same fun a mem key named => by
    rw [listed] at mem
    obtain rfl | rfl : a = _ ∨ a = _ := by simpa using mem
    · obtain rfl := Atom.name.inj named
      decide
    · obtain rfl := Atom.name.inj named
      decide
  exact ⟨steady, extended, valued, ran, by decide +kernel⟩

end Fleet
