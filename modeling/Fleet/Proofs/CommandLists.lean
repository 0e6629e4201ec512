import Fleet.Assembly.Separator

/-!
# Lists of commands, as a shell reads them

Between commands of a list stand operators. `&&` and `||` have equal precedence and associate to
the left; `;` ends one AND-OR list, and the next one is always started. A command is taken as one
opaque step: it is started or not, and once started it ends with an exit status.

* `eq_of_reads`: a text is a list of given commands in at most one way.
* `startedFrom_of_run`: only its exit status counts of what an AND-OR list has done so far.
* `started_guard_of_success`, `started_guard_chain_of_failure`: what a command put before a list with
  `&&` does to the rest of the list.
-/

namespace Fleet

variable {α : Type}

/-- An AND-OR list. The right operand is always a single command. -/
inductive AndOr (α : Type) : Type where
  | command (c : α)
  | andThen (left : AndOr α) (c : α)
  | orElse (left : AndOr α) (c : α)
  deriving Repr, DecidableEq

namespace AndOr

/-- The commands that are started, in order, and the exit status of the last of them. -/
def run (status : α → Nat) : AndOr α → List α × Nat
  | command c => ([c], status c)
  | andThen left c =>
    let before := left.run status
    if before.2 = 0 then (before.1 ++ [c], status c) else before
  | orElse left c =>
    let before := left.run status
    if before.2 = 0 then before else (before.1 ++ [c], status c)

theorem run_command (status : α → Nat) (c : α) : (command c).run status = ([c], status c) :=
  rfl

theorem run_andThen (status : α → Nat) (left : AndOr α) (c : α) :
    (andThen left c).run status =
      if (left.run status).2 = 0 then ((left.run status).1 ++ [c], status c)
      else left.run status :=
  rfl

theorem run_orElse (status : α → Nat) (left : AndOr α) (c : α) :
    (orElse left c).run status =
      if (left.run status).2 = 0 then left.run status
      else ((left.run status).1 ++ [c], status c) :=
  rfl

/-- Something is started in any case. -/
theorem run_ne_nil (status : α → Nat) (g : AndOr α) : (g.run status).1 ≠ [] := by
  induction g with
  | command c => exact List.cons_ne_nil c []
  | andThen left c ih =>
    rw [run_andThen]
    split
    · exact List.append_ne_nil_of_right_ne_nil _ (List.cons_ne_nil c [])
    · exact ih
  | orElse left c ih =>
    rw [run_orElse]
    split
    · exact ih
    · exact List.append_ne_nil_of_right_ne_nil _ (List.cons_ne_nil c [])

end AndOr

/-- A list of commands: the first one, and each further one after its operator. -/
structure CommandList (α : Type) : Type where
  first : α
  rest : List (Separator × α)
  deriving Repr, DecidableEq

namespace CommandList

/-- The AND-OR lists that a list falls into, `left` being what there is of the first one. -/
def groupsFrom (left : AndOr α) : List (Separator × α) → List (AndOr α)
  | [] => [left]
  | (.andThen, c) :: rest => groupsFrom (.andThen left c) rest
  | (.orElse, c) :: rest => groupsFrom (.orElse left c) rest
  | (.always, c) :: rest => left :: groupsFrom (.command c) rest

/-- The commands that are started from an AND-OR list on. -/
def startedFrom (status : α → Nat) (left : AndOr α) (rest : List (Separator × α)) : List α :=
  (groupsFrom left rest).flatMap fun g => (g.run status).1

/-- The commands that are started, in order. -/
def started (status : α → Nat) (l : CommandList α) : List α :=
  startedFrom status (.command l.first) l.rest

/-- All commands, in order. -/
def commands (l : CommandList α) : List α :=
  l.first :: l.rest.map Prod.snd

/-- The text of operators and the commands after them. -/
def textFrom (name : α → String) : List (Separator × α) → String
  | [] => ""
  | (separator, c) :: rest => separator.joiner ++ name c ++ textFrom name rest

/-- The text of a list. -/
def text (name : α → String) (l : CommandList α) : String :=
  name l.first ++ textFrom name l.rest

/-- The text is that of the list, and the commands of the list are the given ones. -/
def Reads (name : α → String) (script : String) (all : List α) (l : CommandList α) : Prop :=
  l.commands = all ∧ l.text name = script

/-- The list without its first command, if that is not all of it. -/
def tail? (l : CommandList α) : Option (CommandList α) :=
  match l.rest with
  | [] => none
  | (_, c) :: rest => some ⟨c, rest⟩

/-- A list with one operator throughout. -/
def chain (separator : Separator) (first : α) (others : List α) : CommandList α :=
  ⟨first, others.map (separator, ·)⟩

/-- A list with a command put before it. -/
def guard (a : α) (l : CommandList α) : CommandList α :=
  ⟨a, (.andThen, l.first) :: l.rest⟩

/-! ## Reading a text -/

/-- The operators can be told from each other by their first two characters. -/
theorem joiner_append_inj {a b : Separator} {x y : List Char}
    (same : a.joiner.toList ++ x = b.joiner.toList ++ y) : a = b ∧ x = y := by
  cases a <;> cases b <;> simp_all [Separator.joiner]

theorem rest_eq_of_textFrom_eq (name : α → String) {rest rest' : List (Separator × α)}
    (commands : rest.map Prod.snd = rest'.map Prod.snd)
    (same : textFrom name rest = textFrom name rest') : rest = rest' := by
  induction rest generalizing rest' with
  | nil => exact (List.map_eq_nil_iff.1 commands.symm).symm
  | cons step rest ih =>
    obtain ⟨separator, c⟩ := step
    cases rest' with
    | nil => cases commands
    | cons step' rest' =>
      obtain ⟨separator', c'⟩ := step'
      obtain ⟨here, tails⟩ := List.cons.inj commands
      dsimp only at here
      subst here
      have chars := congrArg String.toList same
      rw [textFrom, textFrom, String.toList_append, String.toList_append, String.toList_append,
        String.toList_append, List.append_assoc, List.append_assoc] at chars
      obtain ⟨rfl, texts⟩ := joiner_append_inj chars
      rw [ih tails (String.toList_inj.1 (List.append_cancel_left texts))]

/-- A text is a list of given commands in at most one way. -/
theorem eq_of_reads {name : α → String} {script : String} {all : List α} {l l' : CommandList α}
    (read : l.Reads name script all) (read' : l'.Reads name script all) : l = l' := by
  obtain ⟨first, rest⟩ := l
  obtain ⟨first', rest'⟩ := l'
  obtain ⟨here, commands⟩ := List.cons.inj (read.1.trans read'.1.symm)
  dsimp only at here commands
  subst here
  have texts : textFrom name rest = textFrom name rest' := by
    have chars := congrArg String.toList (read.2.trans read'.2.symm)
    rw [text, text, String.toList_append, String.toList_append] at chars
    exact String.toList_inj.1 (List.append_cancel_left chars)
  rw [rest_eq_of_textFrom_eq name commands texts]

theorem text_chain (name : α → String) (separator : Separator) (first : α) (others : List α) :
    (chain separator first others).text name =
      String.intercalate separator.joiner ((first :: others).map name) := by
  induction others generalizing first with
  | nil =>
    rw [List.map_cons, List.map_nil, String.intercalate_singleton, chain, text, List.map_nil,
      textFrom, String.append_empty]
  | cons second others ih =>
    rw [List.map_cons, List.map_cons, String.intercalate_cons_cons, ← List.map_cons, ← ih second,
      chain, chain, text, text, List.map_cons, textFrom]
    simp only [String.append_assoc]

theorem text_guard (name : α → String) (a : α) (l : CommandList α) :
    (l.guard a).text name = name a ++ " && " ++ l.text name := by
  rw [guard, text, text, textFrom]
  simp only [String.append_assoc]
  rfl

theorem commands_chain (separator : Separator) (first : α) (others : List α) :
    (chain separator first others).commands = first :: others := by
  rw [commands, chain, List.map_map]
  exact congrArg (first :: ·) (List.map_id others)

theorem commands_guard (a : α) (l : CommandList α) : (l.guard a).commands = a :: l.commands :=
  rfl

/-! ## Starting commands -/

/-- Only its exit status counts of what an AND-OR list has done so far: with the same one, the
rest goes on in the same way. -/
theorem startedFrom_of_run {status : α → Nat} {left g : AndOr α} {before : List α}
    (same : left.run status = (before ++ (g.run status).1, (g.run status).2))
    (rest : List (Separator × α)) :
    startedFrom status left rest = before ++ startedFrom status g rest := by
  induction rest generalizing left g with
  | nil =>
    rw [startedFrom, startedFrom, groupsFrom, groupsFrom, List.flatMap_singleton,
      List.flatMap_singleton, same]
  | cons step rest ih =>
    obtain ⟨separator, c⟩ := step
    cases separator with
    | andThen =>
      apply ih
      rw [AndOr.run_andThen, AndOr.run_andThen, same]
      split <;> simp
    | orElse =>
      apply ih
      rw [AndOr.run_orElse, AndOr.run_orElse, same]
      split <;> simp
    | always =>
      rw [startedFrom, startedFrom, groupsFrom, groupsFrom, List.flatMap_cons, List.flatMap_cons,
        same, List.append_assoc]

theorem startedFrom_ne_nil (status : α → Nat) (left : AndOr α) (rest : List (Separator × α)) :
    startedFrom status left rest ≠ [] := by
  induction rest generalizing left with
  | nil =>
    rw [startedFrom, groupsFrom, List.flatMap_singleton]
    exact left.run_ne_nil status
  | cons step rest ih =>
    obtain ⟨separator, c⟩ := step
    cases separator with
    | andThen => exact ih (.andThen left c)
    | orElse => exact ih (.orElse left c)
    | always =>
      rw [startedFrom, groupsFrom, List.flatMap_cons]
      exact List.append_ne_nil_of_left_ne_nil (left.run_ne_nil status) _

/-- A failure goes through every `&&` that follows. -/
theorem startedFrom_andThen_of_failure {status : α → Nat} {left : AndOr α}
    (failed : (left.run status).2 ≠ 0) (others : List α) :
    startedFrom status left (others.map (.andThen, ·)) = (left.run status).1 := by
  induction others generalizing left with
  | nil => rw [startedFrom, List.map_nil, groupsFrom, List.flatMap_singleton]
  | cons c others ih =>
    have skipped : (AndOr.andThen left c).run status = left.run status := by
      rw [AndOr.run_andThen]
      exact if_neg failed
    have still : ((AndOr.andThen left c).run status).2 ≠ 0 := by rwa [skipped]
    have rest := ih still
    rwa [skipped] at rest

/-- After a success in front, the list is run as it would be alone. -/
theorem started_guard_of_success {status : α → Nat} {a : α} (succeeded : status a = 0)
    (l : CommandList α) : (l.guard a).started status = a :: l.started status := by
  have same : (AndOr.andThen (.command a) l.first).run status =
      ([a] ++ ((AndOr.command l.first).run status).1, ((AndOr.command l.first).run status).2) := by
    rw [AndOr.run_andThen, AndOr.run_command, AndOr.run_command]
    exact if_pos succeeded
  exact startedFrom_of_run same l.rest

/-- After a failure in front, the first command is skipped. With `&&` throughout so is every other
one, while `||` and `;` go on with the second command as if the list began with it. -/
theorem started_guard_chain_of_failure {status : α → Nat} {a : α} (failed : status a ≠ 0)
    (separator : Separator) (first : α) (others : List α) :
    ((chain separator first others).guard a).started status =
      a :: if separator = .andThen then []
        else ((chain separator first others).tail?.map (started status)).getD [] := by
  have skipped : (AndOr.andThen (.command a) first).run status = ([a], status a) := by
    rw [AndOr.run_andThen, AndOr.run_command]
    exact if_neg failed
  have opening : ((chain separator first others).guard a).started status =
      startedFrom status (.andThen (.command a) first) (others.map (separator, ·)) := rfl
  rw [opening]
  cases separator with
  | andThen =>
    rw [startedFrom_andThen_of_failure (by rwa [skipped]), skipped, if_pos rfl]
  | orElse =>
    rw [if_neg (by decide)]
    cases others with
    | nil =>
      rw [startedFrom, List.map_nil, groupsFrom, List.flatMap_singleton, skipped]
      rfl
    | cons second others =>
      have same : (AndOr.orElse (.andThen (.command a) first) second).run status =
          ([a] ++ ((AndOr.command second).run status).1,
            ((AndOr.command second).run status).2) := by
        rw [AndOr.run_orElse, skipped, AndOr.run_command]
        exact if_neg failed
      exact startedFrom_of_run same (others.map (.orElse, ·))
  | always =>
    rw [if_neg (by decide)]
    cases others with
    | nil =>
      rw [startedFrom, List.map_nil, groupsFrom, List.flatMap_singleton, skipped]
      rfl
    | cons second others =>
      rw [startedFrom, List.map_cons, groupsFrom, List.flatMap_cons, skipped]
      rfl

end CommandList

end Fleet
