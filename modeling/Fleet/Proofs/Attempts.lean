import Fleet.Execution.Capture

/-!
# Running computations that may fail

An `Attempting` keeps its state when it fails. `run_bind` and its two halves take a computation
apart into its steps, and `of_run_bind_ok` does so from the outcome, as `of_bind_ok` does without a
state.

`Alike S` relates two computations, maybe over states of different kinds, that have the same result
and keep `S` between their states. `Within R` says that `R` relates the state before a computation
to the state after it, however it ends; for a preorder this is being alike to itself.
-/

namespace Fleet

theorem bind_ok {ε α β : Type} {x : Except ε α} {f : α → Except ε β} {a : α} (h : x = .ok a) :
    x >>= f = f a := by
  rw [h]
  rfl

theorem mapError_ok {ε ε' α : Type} {g : ε → ε'} {x : Except ε α} {a : α} (h : x = .ok a) :
    x.mapError g = .ok a := by
  rw [h]
  rfl

theorem of_bind_ok {ε α β : Type} {x : Except ε α} {f : α → Except ε β} {b : β}
    (h : x >>= f = .ok b) : ∃ a, x = .ok a ∧ f a = .ok b := by
  match x, h with
  | .ok a, h => exact ⟨a, rfl, h⟩
  | .error _, h => cases h

theorem of_bind_error {ε α β : Type} {x : Except ε α} {f : α → Except ε β} {e : ε}
    (h : x >>= f = .error e) : x = .error e ∨ ∃ a, x = .ok a ∧ f a = .error e := by
  match x, h with
  | .ok a, h => exact .inr ⟨a, rfl, h⟩
  | .error _, h =>
    cases h
    exact .inl rfl

theorem of_mapError_ok {ε ε' α : Type} {g : ε → ε'} {x : Except ε α} {a : α}
    (h : x.mapError g = .ok a) : x = .ok a := by
  match x, h with
  | .ok _, h => cases h; rfl
  | .error _, h => cases h

namespace Attempting

variable {σ τ ε ε' α β : Type}

/-! ## Steps -/

theorem run_bind (x : Attempting σ ε α) (f : α → Attempting σ ε β) (s : σ) :
    (x >>= f).run s =
      match x.run s with
      | (.ok a, t) => (f a).run t
      | (.error e, t) => (.error e, t) := by
  simp only [bind, ExceptT.bind, ExceptT.run, ExceptT.mk, StateT.bind]
  cases x s with
  | mk result t => cases result <;> rfl

theorem run_bind_ok {x : Attempting σ ε α} {f : α → Attempting σ ε β} {s t : σ} {a : α}
    (h : x.run s = (.ok a, t)) : (x >>= f).run s = (f a).run t := by
  rw [run_bind, h]

theorem run_bind_error {x : Attempting σ ε α} {f : α → Attempting σ ε β} {s t : σ} {e : ε}
    (h : x.run s = (.error e, t)) : (x >>= f).run s = (.error e, t) := by
  rw [run_bind, h]

theorem of_run_bind_ok {x : Attempting σ ε α} {f : α → Attempting σ ε β} {s u : σ} {b : β}
    (h : (x >>= f).run s = (.ok b, u)) :
    ∃ a t, x.run s = (.ok a, t) ∧ (f a).run t = (.ok b, u) := by
  rw [run_bind] at h
  match step : x.run s, h with
  | (.ok a, t), h => exact ⟨a, t, rfl, h⟩
  | (.error _, _), h => cases h

theorem run_adapt (g : ε → ε') (x : Attempting σ ε α) (s : σ) :
    (ExceptT.adapt g x).run s = ((x.run s).1.mapError g, (x.run s).2) :=
  rfl

theorem of_run_adapt_ok {g : ε → ε'} {x : Attempting σ ε α} {s t : σ} {a : α}
    (h : (ExceptT.adapt g x).run s = (.ok a, t)) : x.run s = (.ok a, t) := by
  rw [run_adapt] at h
  match step : x.run s, h with
  | (.ok _, _), h => cases h; rfl
  | (.error _, _), h => cases h

theorem run_map (g : α → β) (x : Attempting σ ε α) (s : σ) :
    (g <$> x).run s = ((x.run s).1.map g, (x.run s).2) := by
  simp only [Functor.map, ExceptT.map, ExceptT.run, ExceptT.mk, bind, StateT.bind]
  cases x s with
  | mk result t => cases result <;> rfl

/-- A step that cannot fail is taken as it is. -/
theorem run_lift_bind (x : StateM σ α) (f : α → Attempting σ ε β) (s : σ) :
    ((liftM x : Attempting σ ε α) >>= f).run s = (f (x s).1).run (x s).2 :=
  rfl

theorem run_get_bind (f : σ → Attempting σ ε β) (s : σ) :
    ((get : Attempting σ ε σ) >>= f).run s = (f s).run s :=
  rfl

theorem run_tryCatch (x : Attempting σ ε α) (handle : ε → Attempting σ ε α) (s : σ) :
    (tryCatch x handle).run s =
      match x.run s with
      | (.ok a, t) => (.ok a, t)
      | (.error e, t) => (handle e).run t := by
  show (ExceptT.tryCatch x handle).run s = _
  simp only [ExceptT.tryCatch, ExceptT.run, ExceptT.mk, bind, StateT.bind]
  cases x s with
  | mk result t => cases result <;> rfl

/-- The result of a computation that puts two others together. -/
theorem run_both {γ : Type} (x : Attempting σ ε α) (y : Attempting σ ε β) (f : α → β → γ) (s : σ) :
    ((do let a ← x; let b ← y; pure (f a b) : Attempting σ ε γ).run s).1 =
      (x.run s).1.bind fun a => (y.run (x.run s).2).1.map (f a) := by
  rw [run_bind]
  match x.run s with
  | (.error e, t) => rfl
  | (.ok a, t) =>
    dsimp only
    rw [run_bind]
    cases y.run t with
    | mk result u => cases result <;> rfl

/-! ## Two computations side by side -/

/-- From states that `S` relates, both computations have the same result, and they end in states
that `S` relates. -/
def Alike (S : σ → τ → Prop) (x : Attempting σ ε α) (y : Attempting τ ε α) : Prop :=
  ∀ s t, S s t → (x.run s).1 = (y.run t).1 ∧ S (x.run s).2 (y.run t).2

section Alike

variable {S : σ → τ → Prop}

theorem alike_pure (a : α) : Alike S (pure a : Attempting σ ε α) (pure a) :=
  fun _ _ related => ⟨rfl, related⟩

theorem alike_throw (e : ε) : Alike S (throw e : Attempting σ ε α) (throw e) :=
  fun _ _ related => ⟨rfl, related⟩

theorem alike_bind {x : Attempting σ ε α} {y : Attempting τ ε α} {f : α → Attempting σ ε β}
    {g : α → Attempting τ ε β} (first : Alike S x y) (second : ∀ a, Alike S (f a) (g a)) :
    Alike S (x >>= f) (y >>= g) := by
  intro s t related
  obtain ⟨same, related⟩ := first s t related
  rw [run_bind, run_bind]
  match x.run s, y.run t, same, related with
  | (.ok a, s'), (.ok _, t'), rfl, related => exact second a s' t' related
  | (.error _, _), (.error _, _), rfl, related => exact ⟨rfl, related⟩

/-- The second computation may go on in another way for each result of the first, a failure being
one of them. -/
theorem alike_run_bind {x : Attempting σ ε' α} {y : Attempting τ ε' α}
    {f : Except ε' α → Attempting σ ε β} {g : Except ε' α → Attempting τ ε β} (first : Alike S x y)
    (second : ∀ result, Alike S (f result) (g result)) :
    Alike S ((liftM x.run : Attempting σ ε (Except ε' α)) >>= f) (liftM y.run >>= g) := by
  intro s t related
  obtain ⟨same, related⟩ := first s t related
  rw [run_lift_bind, run_lift_bind]
  match x.run s, y.run t, same, related with
  | (result, s'), (_, t'), rfl, related => exact second result s' t' related

theorem alike_get_bind {f : σ → Attempting σ ε β} {g : τ → Attempting τ ε β}
    (next : ∀ s t, S s t → Alike S (f s) (g t)) :
    Alike S ((get : Attempting σ ε σ) >>= f) ((get : Attempting τ ε τ) >>= g) :=
  fun s t related => next s t related s t related

theorem alike_adapt {h : ε → ε'} {x : Attempting σ ε α} {y : Attempting τ ε α}
    (alike : Alike S x y) : Alike S (ExceptT.adapt h x) (ExceptT.adapt h y) := by
  intro s t related
  obtain ⟨same, related⟩ := alike s t related
  rw [run_adapt, run_adapt]
  exact ⟨congrArg (Except.mapError h) same, related⟩

theorem alike_map {h : α → β} {x : Attempting σ ε α} {y : Attempting τ ε α}
    (alike : Alike S x y) : Alike S (h <$> x) (h <$> y) := by
  intro s t related
  obtain ⟨same, related⟩ := alike s t related
  rw [run_map, run_map]
  exact ⟨congrArg (Except.map h) same, related⟩

theorem alike_refl (x : Attempting σ ε α) : Alike Eq x x := by
  rintro s _ rfl
  exact ⟨rfl, rfl⟩

/-- Computations that do the same from the same states are the same. -/
theorem eq_of_alike {x y : Attempting σ ε α} (alike : Alike Eq x y) : x = y := by
  funext s
  obtain ⟨same, related⟩ := alike s s rfl
  exact Prod.ext same related

end Alike

/-! ## What computations do to a state -/

/-- Whatever comes of the computation, `R` relates the state before it to the state after it. -/
def Within (R : σ → σ → Prop) (x : Attempting σ ε α) : Prop :=
  ∀ s, R s (x.run s).2

section Within

variable {R : σ → σ → Prop}

theorem within_of_alike (refl : ∀ s, R s s) {x : Attempting σ ε α}
    (alike : ∀ start, Alike (fun s t => s = t ∧ R start s) x x) : Within R x :=
  fun s => (alike s s s ⟨rfl, refl s⟩).2.2

theorem alike_of_within (trans : ∀ s t u, R s t → R t u → R s u) {x : Attempting σ ε α}
    (within : Within R x) (start : σ) : Alike (fun s t => s = t ∧ R start s) x x := by
  rintro s _ ⟨rfl, before⟩
  exact ⟨rfl, rfl, trans _ _ _ before (within s)⟩

end Within

end Attempting

end Fleet
