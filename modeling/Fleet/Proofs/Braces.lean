import Fleet.Template.Parser
import Mathlib.Tactic.ByContra

/-!
# Closed spans

The depth of a text is by how much the opening braces in it outnumber the closing ones. A span that
begins with an opening brace is closed if its depth first comes back to 0 at its last character,
and a text that begins with one stays open if its depth never does.

* `takeBalanced_eq_some_iff`: what is taken off a text is a closed span, and there is at most one.
* `takeBalanced_eq_none_iff`: nothing is taken exactly from texts that stay open.
* `Balanced.closed`: a text whose own braces pair off makes a closed span of the braces around it.
-/

namespace Fleet.Template

/-- By how much the opening braces outnumber the closing ones. -/
def depth (cs : List Char) : Int :=
  cs.count '{' - cs.count '}'

/-- A span whose depth first comes back to 0 at its last character. -/
structure Closed (span : List Char) : Prop where
  opens : span.head? = some '{'
  balances : depth span = 0
  /-- Before the end, there always is a brace open. -/
  within : ∀ p, p <+: span → p ≠ [] → p ≠ span → 0 < depth p

/-- A text that begins with a brace that is never closed. -/
structure StaysOpen (cs : List Char) : Prop where
  opens : cs.head? = some '{'
  within : ∀ p, p <+: cs → p ≠ [] → 0 < depth p

/-! ## Depth along a text -/

@[simp]
theorem depth_nil : depth [] = 0 :=
  rfl

theorem depth_append (xs ys : List Char) : depth (xs ++ ys) = depth xs + depth ys := by
  simp only [depth, List.count_append]
  omega

theorem depth_cons (c : Char) (cs : List Char) : depth (c :: cs) = depth [c] + depth cs :=
  depth_append [c] cs

@[simp]
theorem depth_open : depth ['{'] = 1 :=
  rfl

@[simp]
theorem depth_close : depth ['}'] = -1 :=
  rfl

/-- Only a closing brace lowers the depth. -/
theorem depth_singleton_nonneg {c : Char} (h : c ≠ '}') : 0 ≤ depth [c] := by
  have none : [c].count '}' = 0 := List.count_eq_zero.2 fun mem => h (List.mem_singleton.1 mem).symm
  rw [depth, none]
  omega

/-- While a brace is open, the count of the open braces is not cut off at 0. -/
theorem natCast_depthAfter {n : Nat} (h : 0 < n) (c : Char) :
    (depthAfter n c : Int) = n + depth [c] := by
  unfold depthAfter
  split
  · next opens =>
    rw [opens, depth_open]
    omega
  · next notOpen =>
    split
    · next closes =>
      rw [closes, depth_close]
      omega
    · next notClose =>
      have none : depth [c] = 0 := by
        rw [depth, List.count_eq_zero.2 fun mem => notOpen (List.mem_singleton.1 mem).symm,
          List.count_eq_zero.2 fun mem => notClose (List.mem_singleton.1 mem).symm]
        rfl
      rw [none]
      omega

/-! ## Spans with braces open before them -/

/-- With `n` braces open before it, the last one is closed at the end of the span. -/
def ClosesFrom (n : Nat) (span : List Char) : Prop :=
  (n : Int) + depth span = 0 ∧ ∀ p, p <+: span → p ≠ span → 0 < (n : Int) + depth p

/-- The last brace is closed by the next character, or later with one character less to go. -/
theorem closesFrom_cons {n : Nat} (h : 0 < n) (c : Char) (rest : List Char) :
    ClosesFrom n (c :: rest) ↔
      (depthAfter n c = 0 ∧ rest = []) ∨ (0 < depthAfter n c ∧ ClosesFrom (depthAfter n c) rest) := by
  have step := natCast_depthAfter h c
  constructor
  · rintro ⟨balances, within⟩
    rw [depth_cons] at balances
    rcases Nat.eq_zero_or_pos (depthAfter n c) with zero | pos
    · refine .inl ⟨zero, ?_⟩
      by_contra more
      have first := within [c] ⟨rest, rfl⟩ fun same => more (List.cons.inj same).2.symm
      omega
    · refine .inr ⟨pos, by omega, fun p before ne => ?_⟩
      have longer := within (c :: p) ((List.prefix_cons_inj c).2 before)
        fun same => ne (List.cons.inj same).2
      rw [depth_cons] at longer
      omega
  · rintro (⟨zero, rfl⟩ | ⟨pos, balances, within⟩)
    · refine ⟨by omega, fun p before ne => ?_⟩
      rcases List.prefix_cons_iff.1 before with rfl | ⟨_, rfl, nil⟩
      · rw [depth_nil]
        omega
      · exact absurd (congrArg (c :: ·) (List.prefix_nil.1 nil)) ne
    · refine ⟨by rw [depth_cons]; omega, fun p before ne => ?_⟩
      rcases List.prefix_cons_iff.1 before with rfl | ⟨q, rfl, shorter⟩
      · rw [depth_nil]
        omega
      · have longer := within q shorter fun same => ne (congrArg (c :: ·) same)
        rw [depth_cons]
        omega

/-- Only a closing brace closes the last open one. -/
theorem eq_close_of_depthAfter {n : Nat} (h : 0 < n) {c : Char} (zero : depthAfter n c = 0) :
    c = '}' := by
  by_contra other
  have step := natCast_depthAfter h c
  have nonneg := depth_singleton_nonneg other
  omega

theorem takeBalanced_cons_of_zero {n : Nat} (h : 0 < n) {c : Char} (zero : depthAfter n c = 0)
    (rest : List Char) : takeBalanced n (c :: rest) = some ([c], rest) := by
  rw [takeBalanced, if_pos ⟨eq_close_of_depthAfter h zero, zero⟩]

theorem takeBalanced_cons_of_pos {n : Nat} {c : Char} (pos : 0 < depthAfter n c)
    (rest : List Char) :
    takeBalanced n (c :: rest) =
      (takeBalanced (depthAfter n c) rest).map fun split => (c :: split.1, split.2) := by
  rw [takeBalanced, if_neg fun ends => (Nat.ne_of_gt pos) ends.2]

theorem takeBalanced_eq_some_iff_of_pos {n : Nat} (h : 0 < n) {cs span after : List Char} :
    takeBalanced n cs = some (span, after) ↔ cs = span ++ after ∧ ClosesFrom n span := by
  induction cs generalizing n span with
  | nil =>
    constructor
    · intro taken
      cases taken
    · rintro ⟨whole, balances, -⟩
      obtain ⟨rfl, rfl⟩ := List.append_eq_nil_iff.1 whole.symm
      rw [depth_nil] at balances
      omega
  | cons c rest ih =>
    constructor
    · intro taken
      rcases Nat.eq_zero_or_pos (depthAfter n c) with zero | pos
      · rw [takeBalanced_cons_of_zero h zero] at taken
        cases taken
        exact ⟨rfl, (closesFrom_cons h c []).2 (.inl ⟨zero, rfl⟩)⟩
      · rw [takeBalanced_cons_of_pos pos] at taken
        obtain ⟨⟨inner, tail⟩, split, same⟩ := Option.map_eq_some_iff.1 taken
        cases same
        obtain ⟨rfl, closes⟩ := (ih pos).1 split
        exact ⟨rfl, (closesFrom_cons h c inner).2 (.inr ⟨pos, closes⟩)⟩
    · rintro ⟨whole, closes⟩
      cases span with
      | nil =>
        have balances := closes.1
        rw [depth_nil] at balances
        omega
      | cons d inner =>
        obtain ⟨rfl, rfl⟩ := List.cons.inj (whole.trans (List.cons_append ..))
        rcases (closesFrom_cons h c inner).1 closes with ⟨zero, rfl⟩ | ⟨pos, closes⟩
        · exact takeBalanced_cons_of_zero h zero _
        · rw [takeBalanced_cons_of_pos pos, (ih pos).2 ⟨rfl, closes⟩]
          rfl

theorem takeBalanced_eq_none_iff_of_pos {n : Nat} (h : 0 < n) {cs : List Char} :
    takeBalanced n cs = none ↔ ∀ p, p <+: cs → 0 < (n : Int) + depth p := by
  induction cs generalizing n with
  | nil =>
    refine iff_of_true rfl fun p nil => ?_
    rw [List.prefix_nil.1 nil, depth_nil]
    omega
  | cons c rest ih =>
    have step := natCast_depthAfter h c
    constructor
    · intro untaken p before
      rcases Nat.eq_zero_or_pos (depthAfter n c) with zero | pos
      · rw [takeBalanced_cons_of_zero h zero] at untaken
        cases untaken
      · rw [takeBalanced_cons_of_pos pos, Option.map_eq_none_iff, ih pos] at untaken
        rcases List.prefix_cons_iff.1 before with rfl | ⟨q, rfl, shorter⟩
        · rw [depth_nil]
          omega
        · have later := untaken q shorter
          rw [depth_cons]
          omega
    · intro stays
      have first := stays [c] ⟨rest, rfl⟩
      have pos : 0 < depthAfter n c := by omega
      rw [takeBalanced_cons_of_pos pos, Option.map_eq_none_iff, ih pos]
      intro q shorter
      have longer := stays (c :: q) ((List.prefix_cons_inj c).2 shorter)
      rw [depth_cons] at longer
      omega

/-! ## Spans of a text -/

theorem closed_cons_iff (rest : List Char) : Closed ('{' :: rest) ↔ ClosesFrom 1 rest := by
  constructor
  · intro closed
    have balances := closed.balances
    rw [depth_cons, depth_open] at balances
    refine ⟨balances, fun p before ne => ?_⟩
    have longer := closed.within ('{' :: p) ((List.prefix_cons_inj _).2 before)
      (List.cons_ne_nil _ _) fun same => ne (List.cons.inj same).2
    rwa [depth_cons, depth_open] at longer
  · rintro ⟨balances, within⟩
    refine ⟨rfl, ?_, fun p before nonempty ne => ?_⟩
    · rw [depth_cons, depth_open]
      exact balances
    · rcases List.prefix_cons_iff.1 before with rfl | ⟨q, rfl, shorter⟩
      · exact absurd rfl nonempty
      · rw [depth_cons, depth_open]
        exact within q shorter fun same => ne (congrArg ('{' :: ·) same)

theorem staysOpen_cons_iff (rest : List Char) :
    StaysOpen ('{' :: rest) ↔ ∀ p, p <+: rest → 0 < ((1 : Nat) : Int) + depth p := by
  constructor
  · intro stays p before
    have longer := stays.within ('{' :: p) ((List.prefix_cons_inj _).2 before)
      (List.cons_ne_nil _ _)
    rwa [depth_cons, depth_open] at longer
  · intro within
    refine ⟨rfl, fun p before nonempty => ?_⟩
    rcases List.prefix_cons_iff.1 before with rfl | ⟨q, rfl, shorter⟩
    · exact absurd rfl nonempty
    · rw [depth_cons, depth_open]
      exact within q shorter

/-- The brace that a text begins with is the first one open. -/
theorem takeBalanced_zero_open (rest : List Char) :
    takeBalanced 0 ('{' :: rest) =
      (takeBalanced 1 rest).map fun split => ('{' :: split.1, split.2) := by
  rw [takeBalanced, if_neg fun closes => absurd closes.1 (by decide)]
  rfl

/-- What is taken off a text that begins with a brace is a closed span, and there is at most one
way to take it. -/
theorem takeBalanced_eq_some_iff {rest span after : List Char} :
    takeBalanced 0 ('{' :: rest) = some (span, after) ↔
      '{' :: rest = span ++ after ∧ Closed span := by
  rw [takeBalanced_zero_open]
  constructor
  · intro taken
    obtain ⟨⟨inner, tail⟩, split, same⟩ := Option.map_eq_some_iff.1 taken
    cases same
    obtain ⟨rfl, closes⟩ := (takeBalanced_eq_some_iff_of_pos Nat.one_pos).1 split
    exact ⟨rfl, (closed_cons_iff inner).2 closes⟩
  · rintro ⟨whole, closed⟩
    cases span with
    | nil => cases closed.opens
    | cons c inner =>
      obtain ⟨rfl, rfl⟩ := List.cons.inj (whole.trans (List.cons_append ..))
      rw [(takeBalanced_eq_some_iff_of_pos Nat.one_pos).2 ⟨rfl, (closed_cons_iff inner).1 closed⟩]
      rfl

/-- Nothing is taken off exactly the texts that stay open. -/
theorem takeBalanced_eq_none_iff {rest : List Char} :
    takeBalanced 0 ('{' :: rest) = none ↔ StaysOpen ('{' :: rest) := by
  rw [takeBalanced_zero_open, Option.map_eq_none_iff, takeBalanced_eq_none_iff_of_pos Nat.one_pos,
    staysOpen_cons_iff]

/-! ## The two ends of a closed span -/

/-- A closed span is a text between two braces. -/
theorem Closed.exists_inner {span : List Char} (closed : Closed span) :
    ∃ inner, span = '{' :: (inner ++ ['}']) := by
  cases span with
  | nil => cases closed.opens
  | cons c rest =>
    obtain rfl := Option.some.inj closed.opens
    have balances := closed.balances
    rcases List.eq_nil_or_concat rest with rfl | ⟨inner, last, rfl⟩
    · cases balances
    · -- the depth is positive before the last character, so that character lowers it
      rw [List.concat_eq_append] at closed balances ⊢
      have before : 0 < depth ('{' :: inner) :=
        closed.within _ ⟨[last], rfl⟩ (List.cons_ne_nil _ _) (by simp)
      rw [← List.cons_append, depth_append] at balances
      by_contra other
      have ne : last ≠ '}' := by
        rintro rfl
        exact other ⟨inner, rfl⟩
      have nonneg := depth_singleton_nonneg ne
      omega

theorem StaysOpen.depth_pos {cs : List Char} (stays : StaysOpen cs) : 0 < depth cs := by
  have nonempty : cs ≠ [] := by
    rintro rfl
    cases stays.opens
  exact stays.within cs (List.prefix_refl cs) nonempty

/-- A text that stays open is not closed. -/
theorem StaysOpen.not_closed {cs : List Char} (stays : StaysOpen cs) : ¬Closed cs := by
  intro closed
  have positive := stays.depth_pos
  rw [closed.balances] at positive
  exact Int.lt_irrefl 0 positive

/-! ## Texts whose braces pair off -/

/-- A text that closes each brace it opens, and no other. -/
structure Balanced (cs : List Char) : Prop where
  nonneg : ∀ p, p <+: cs → 0 ≤ depth p
  balances : depth cs = 0

/-- The beginnings of a text are what is taken of it. -/
instance (cs : List Char) : Decidable (Balanced cs) :=
  decidable_of_iff ((∀ n < cs.length, 0 ≤ depth (cs.take n)) ∧ depth cs = 0) <| by
    constructor
    · rintro ⟨nonneg, balances⟩
      refine ⟨fun p before => ?_, balances⟩
      rw [List.prefix_iff_eq_take.1 before]
      rcases Nat.lt_or_ge p.length cs.length with shorter | longer
      · exact nonneg _ shorter
      · rw [List.take_of_length_le longer]
        exact Int.le_of_eq balances.symm
    · rintro ⟨nonneg, balances⟩
      exact ⟨fun n _ => nonneg _ (List.take_prefix n cs), balances⟩

theorem Balanced.append {xs ys : List Char} (left : Balanced xs) (right : Balanced ys) :
    Balanced (xs ++ ys) := by
  refine ⟨fun p before => ?_, by rw [depth_append, left.balances, right.balances]; rfl⟩
  rcases List.prefix_or_prefix_of_prefix before (List.prefix_append xs ys) with inLeft | beyond
  · exact left.nonneg p inLeft
  · obtain ⟨q, rfl⟩ := beyond
    rw [depth_append, left.balances, Int.zero_add]
    exact right.nonneg q ((List.prefix_append_right_inj xs).1 before)

/-- A separator has no braces. -/
theorem balanced_bar : Balanced ['|'] where
  nonneg p before := by
    rcases List.prefix_cons_iff.1 before with rfl | ⟨q, rfl, nil⟩
    · exact Int.le_refl 0
    · rw [List.prefix_nil.1 nil]
      decide
  balances := rfl

theorem balanced_intercalate {texts : List (List Char)}
    (balanced : ∀ text ∈ texts, Balanced text) : Balanced (['|'].intercalate texts) := by
  induction texts with
  | nil => exact ⟨fun p before => by rw [List.prefix_nil.1 before]; exact Int.le_refl 0, rfl⟩
  | cons text rest ih =>
    have first := balanced text List.mem_cons_self
    have others := ih fun other mem => balanced other (List.mem_cons_of_mem _ mem)
    cases rest with
    | nil => rwa [List.intercalate_singleton]
    | cons next rest =>
      rw [List.intercalate_cons_cons]
      exact (first.append balanced_bar).append others

/-- The brace before a balanced text is open all along, and the one after it closes it. -/
theorem Balanced.closed {inner : List Char} (balanced : Balanced inner) :
    Closed ('{' :: (inner ++ ['}'])) := by
  refine (closed_cons_iff _).2 ⟨?_, fun p before ne => ?_⟩
  · rw [depth_append, balanced.balances]
    rfl
  · rcases List.prefix_concat_iff.1 before with whole | shorter
    · exact absurd whole ne
    · have nonneg := balanced.nonneg p shorter
      omega

end Fleet.Template
