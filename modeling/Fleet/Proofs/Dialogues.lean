import Fleet.Proofs.Mentions

/-!
# Dialogues with a shell

To evaluate commands is to hold a dialogue: a line is asked to be run, and what is asked next, if
anything, depends on the answer. A course says what an evaluation asks and what it comes to, without
a word about what the shell does meanwhile, and a dialogue says what becomes of the shell. Texts,
escapes, names and invalid spans ask nothing, a command asks once, and a chain asks what its
alternatives do, up to the first that has a value.

* `Dialogue.recorded`: what a capture is asked is exactly what a record of it says.
* `Directive.follows`, `Template.follows_evaluatePieces`, `Template.follows_substituteAll`:
  evaluations follow courses.
* `Launch.assemble_in_order`: the directives of all commands are evaluated in order, up to the first
  that fails, and only if none does the words are split.
-/

namespace Fleet

open Attempting

/-- A line that is asked to be run, and the answer. -/
structure Exchange : Type where
  line : String
  answer : Except ExecutionError String

/-! ## Dialogues -/

section

variable {σ : Type} (capture : Capture σ)

/-- Exchanges with a capture, one after the other, from a state of it to another. -/
inductive Dialogue : σ → List Exchange → σ → Prop where
  | silence (s : σ) : Dialogue s [] s
  | asked {s t u : σ} {exchange : Exchange} {others : List Exchange}
      (answered : (capture exchange.line).run s = (exchange.answer, t))
      (rest : Dialogue t others u) : Dialogue s (exchange :: others) u

/-- The capture, with its exchanges kept in order. -/
def recorded : Capture (σ × List Exchange) := fun line =>
  ExceptT.mk fun s =>
    let outcome := (capture line).run s.1
    (outcome.1, outcome.2, s.2 ++ [⟨line, outcome.1⟩])

theorem alike_recorded (line : String) :
    Alike (fun (s : σ × List Exchange) t => s.1 = t) (recorded capture line) (capture line) := by
  rintro s _ rfl
  exact ⟨rfl, rfl⟩

variable {capture}

theorem Dialogue.append {s t u : σ} {asked others : List Exchange}
    (first : Dialogue capture s asked t) (second : Dialogue capture t others u) :
    Dialogue capture s (asked ++ others) u := by
  induction first with
  | silence => exact second
  | asked answered _ ih => exact .asked answered (ih second)

/-- A record holds the exchanges of a dialogue, all of them and nothing else. -/
theorem Dialogue.recorded {s t : σ × List Exchange} {asked : List Exchange}
    (dialogue : Dialogue (recorded capture) s asked t) :
    Dialogue capture s.1 asked t.1 ∧ t.2 = s.2 ++ asked := by
  induction dialogue with
  | silence s => exact ⟨.silence _, (List.append_nil _).symm⟩
  | @asked s t u exchange others answered rest ih =>
    obtain ⟨same, rfl⟩ := Prod.mk.inj answered
    obtain ⟨later, kept⟩ := ih
    refine ⟨.asked (Prod.ext same rfl) later, ?_⟩
    rw [kept, same, List.append_assoc]
    rfl

/-- Whatever the state it is begun in, a computation takes one of these courses. -/
def Follows {ε α : Type} (capture : Capture σ) (course : List Exchange → Except ε α → Prop)
    (x : Attempting σ ε α) : Prop :=
  ∀ s, ∃ asked result t,
    course asked result ∧ Dialogue capture s asked t ∧ x.run s = (result, t)

end

/-! ## Courses -/

/-- What of a list is done in turn, up to the first failure: all that is asked meanwhile, and the
values in order or the failure. -/
inductive InTurn {α β ε : Type} (R : α → List Exchange → Except ε β → Prop) :
    List α → List Exchange → Except ε (List β) → Prop where
  | nil : InTurn R [] [] (.ok [])
  | failed {a : α} {asked : List Exchange} {e : ε} (first : R a asked (.error e)) (rest : List α) :
      InTurn R (a :: rest) asked (.error e)
  | cons {a : α} {rest : List α} {asked others : List Exchange} {b : β}
      {result : Except ε (List β)} (first : R a asked (.ok b))
      (later : InTurn R rest others result) :
      InTurn R (a :: rest) (asked ++ others) (result.map (b :: ·))

namespace InTurn

variable {α β ε : Type} {R : α → List Exchange → Except ε β → Prop} {as others : List α}
  {asked : List Exchange}

theorem append {bs : List β} {later : List Exchange} {result : Except ε (List β)}
    (first : InTurn R as asked (.ok bs)) (second : InTurn R others later result) :
    InTurn R (as ++ others) (asked ++ later) (result.map (bs ++ ·)) := by
  generalize all : Except.ok bs = outcome at first
  induction first generalizing bs with
  | nil =>
    cases all
    cases result <;> exact second
  | failed => cases all
  | @cons a rest asked more b outcome first _ ih =>
    match outcome, all with
    | .ok bs', all =>
      cases all
      rw [List.append_assoc]
      have whole := InTurn.cons first (ih rfl)
      cases result <;> exact whole

theorem append_failed {e : ε} (first : InTurn R as asked (.error e)) (others : List α) :
    InTurn R (as ++ others) asked (.error e) := by
  generalize all : Except.error e = outcome at first
  induction first with
  | nil => cases all
  | failed first rest =>
    cases all
    exact .failed first _
  | @cons a rest asked more b outcome first _ ih =>
    match outcome, all with
    | .error _, all =>
      cases all
      exact .cons first (ih rfl)

/-- Before the one that fails there are values only, and after it nothing is asked. -/
theorem exists_failed {e : ε} (first : InTurn R as asked (.error e)) :
    ∃ before a after values early late, as = before ++ a :: after ∧ asked = early ++ late ∧
      InTurn R before early (.ok values) ∧ R a late (.error e) := by
  generalize all : Except.error e = outcome at first
  induction first with
  | nil => cases all
  | failed first rest =>
    cases all
    exact ⟨[], _, rest, [], [], _, rfl, rfl, .nil, first⟩
  | @cons a rest asked more b outcome first _ ih =>
    match outcome, all with
    | .error _, all =>
      cases all
      obtain ⟨before, a', after, values, early, late, rfl, rfl, values', fails⟩ := ih rfl
      exact ⟨a :: before, a', after, b :: values, asked ++ early, late, rfl,
        (List.append_assoc ..).symm, .cons first values', fails⟩

end InTurn

section

variable (bindings : Bindings)

/-- The courses of an atom. -/
inductive Atom.Course : Atom → List Exchange → Except AtomError String → Prop where
  | bound {key value : String} (held : bindings.get? key = some value) :
      Course (.name key) [] (.ok value)
  | missing {key : String} (absent : bindings.get? key = none) :
      Course (.name key) [] (.error (.missing key))
  | command (line : String) (answer : Except ExecutionError String) :
      Course (.command line) [⟨line, answer⟩]
        ((answer.map Text.trimEnd).mapError (.command line))
  | invalid (span : String) : Course (.invalid span) [] (.error (.invalid span))

/-- The courses of a chain with these alternatives. -/
inductive Alternative.Course :
    List Alternative → List Exchange → Except (List FailedAttempt) String → Prop where
  | exhausted : Course [] [] (.error [])
  | chosen {a : Alternative} {asked : List Exchange} {value : String}
      (first : a.atom.Course bindings asked (.ok value)) (rest : List Alternative) :
      Course (a :: rest) asked (.ok value)
  | failed {a : Alternative} {rest : List Alternative} {asked others : List Exchange}
      {e : AtomError} {result : Except (List FailedAttempt) String}
      (first : a.atom.Course bindings asked (.error e)) (later : Course rest others result) :
      Course (a :: rest) (asked ++ others) (result.mapError (⟨a.source, e⟩ :: ·))

/-- The courses of a directive. -/
inductive Directive.Course : Directive → List Exchange → Except TemplateError String → Prop where
  | escape (inner : String) : Course (.escape inner) [] (.ok inner)
  | atom {a : Atom} {asked : List Exchange} {result : Except AtomError String}
      (course : a.Course bindings asked result) :
      Course (.atom a) asked (result.mapError .atom)
  | chain {alternatives : List Alternative} {asked : List Exchange}
      {result : Except (List FailedAttempt) String}
      (course : Alternative.Course bindings alternatives asked result) :
      Course (.chain alternatives) asked
        (result.mapError (.exhausted (Alternative.printAll alternatives)))

end

/-! ## Texts with values in place of directives -/

/-- The directives among pieces, in order. -/
def Piece.directives (pieces : List Piece) : List Directive :=
  pieces.filterMap fun
    | .text _ => none
    | .directive d => some d

/-- The directives of texts, in order. -/
def directivesOf (texts : List String) : List Directive :=
  texts.flatMap fun text => Piece.directives (Template.parse text).pieces

/-- A text made of pieces, with a value in place of each directive. -/
inductive Piece.Filled : List Piece → List String → String → Prop where
  | nil : Filled [] [] ""
  | text {rest : List Piece} {values : List String} {filling : String} (literal : String)
      (later : Filled rest values filling) :
      Filled (.text literal :: rest) values (literal ++ filling)
  | directive {rest : List Piece} {values : List String} {filling : String} (d : Directive)
      (value : String) (later : Filled rest values filling) :
      Filled (.directive d :: rest) (value :: values) (value ++ filling)

/-- Texts read as templates, with a value in place of each of all their directives. -/
inductive FilledAll : List String → List String → List String → Prop where
  | nil : FilledAll [] [] []
  | cons {text filling : String} {texts values others fillings : List String}
      (first : Piece.Filled (Template.parse text).pieces values filling)
      (later : FilledAll texts others fillings) :
      FilledAll (text :: texts) (values ++ others) (filling :: fillings)

/-- The courses of whatever is filled with the values of directives: the directives are evaluated in
turn, and if all of them have a value it is filled. -/
inductive Filling {α : Type} (bindings : Bindings) (directives : List Directive)
    (fill : List String → α → Prop) : List Exchange → Except TemplateError α → Prop where
  | failed {asked : List Exchange} {e : TemplateError}
      (first : InTurn (Directive.Course bindings) directives asked (.error e)) :
      Filling bindings directives fill asked (.error e)
  | filled {asked : List Exchange} {values : List String} {a : α}
      (all : InTurn (Directive.Course bindings) directives asked (.ok values))
      (filled : fill values a) : Filling bindings directives fill asked (.ok a)

/-! ## Evaluations follow courses -/

section

variable {σ : Type} (capture : Capture σ) (bindings : Bindings)

theorem Atom.follows (a : Atom) :
    Follows capture (a.Course bindings) (a.evaluate capture bindings) := by
  intro s
  cases a with
  | name key =>
    rw [evaluate]
    cases held : bindings.get? key with
    | some value => exact ⟨[], _, s, .bound held, .silence s, rfl⟩
    | none => exact ⟨[], _, s, .missing held, .silence s, rfl⟩
  | command line =>
    rw [evaluate, run_adapt, run_map]
    exact ⟨_, _, _, .command line ((capture line).run s).1, .asked rfl (.silence _), rfl⟩
  | invalid span => exact ⟨[], _, s, .invalid span, .silence s, rfl⟩

theorem Alternative.follows (alternatives : List Alternative) :
    Follows capture (Course bindings alternatives)
      (firstValue capture bindings alternatives) := by
  induction alternatives with
  | nil => exact fun s => ⟨[], _, s, .exhausted, .silence s, rfl⟩
  | cons a rest ih =>
    intro s
    obtain ⟨asked, result, t, first, dialogue, run⟩ := a.atom.follows capture bindings s
    rw [firstValue, run_lift_bind, show (a.atom.evaluate capture bindings).run s = _ from run]
    cases result with
    | ok value => exact ⟨asked, _, t, .chosen first rest, dialogue, rfl⟩
    | error e =>
      obtain ⟨others, result, u, later, dialogue', run'⟩ := ih t
      refine ⟨_, _, u, .failed first later, dialogue.append dialogue', ?_⟩
      show (ExceptT.adapt _ (firstValue capture bindings rest)).run t = _
      rw [run_adapt, run']

theorem Directive.follows (d : Directive) :
    Follows capture (d.Course bindings) (d.evaluate capture bindings) := by
  intro s
  cases d with
  | escape inner => exact ⟨[], _, s, .escape inner, .silence s, rfl⟩
  | atom a =>
    obtain ⟨asked, result, t, course, dialogue, run⟩ := a.follows capture bindings s
    refine ⟨asked, _, t, .atom course, dialogue, ?_⟩
    rw [evaluate, run_adapt, run]
  | chain alternatives =>
    obtain ⟨asked, result, t, course, dialogue, run⟩ :=
      Alternative.follows capture bindings alternatives s
    refine ⟨asked, _, t, .chain course, dialogue, ?_⟩
    rw [evaluate, run_adapt, run]
    rfl

/-- The texts among pieces stay as they are. -/
theorem Template.follows_evaluatePieces (pieces : List Piece) :
    Follows capture (Filling bindings (Piece.directives pieces) (Piece.Filled pieces))
      (evaluatePieces capture bindings pieces) := by
  induction pieces with
  | nil => exact fun s => ⟨[], _, s, .filled .nil .nil, .silence s, rfl⟩
  | cons piece rest ih =>
    intro s
    cases piece with
    | text literal =>
      -- a literal asks nothing, so the course is that of the rest
      obtain ⟨asked, result, t, course, dialogue, run⟩ := ih s
      rw [evaluatePieces, run_bind_ok (show (Piece.evaluate capture bindings _).run s = _ from rfl),
        run_bind, run]
      cases course with
      | failed first => exact ⟨asked, _, t, .failed first, dialogue, rfl⟩
      | filled all filled => exact ⟨asked, _, t, .filled all (.text literal filled), dialogue, rfl⟩
    | directive d =>
      obtain ⟨asked, result, t, first, dialogue, run⟩ := d.follows capture bindings s
      rw [evaluatePieces, Piece.evaluate, run_bind, run]
      cases result with
      | error e => exact ⟨asked, _, t, .failed (.failed first _), dialogue, rfl⟩
      | ok value =>
        obtain ⟨others, result, u, course, dialogue', run'⟩ := ih t
        dsimp only
        rw [run_bind, run']
        have both := dialogue.append dialogue'
        cases course with
        | failed later => exact ⟨_, _, u, .failed (.cons first later), both, rfl⟩
        | filled later filled =>
          exact ⟨_, _, u, .filled (.cons first later) (.directive d value filled), both, rfl⟩

theorem Template.follows_substituteAll (texts : List String) :
    Follows capture (Filling bindings (directivesOf texts) (FilledAll texts))
      (substituteAll capture bindings texts) := by
  induction texts with
  | nil => exact fun s => ⟨[], _, s, .filled .nil .nil, .silence s, rfl⟩
  | cons text rest ih =>
    intro s
    obtain ⟨asked, result, t, course, dialogue, run⟩ :=
      follows_evaluatePieces capture bindings (parse text).pieces s
    rw [substituteAll, run_bind, show (substitute capture bindings text).run s = _ from run]
    -- the directives of this text come before all others, and so does their first failure
    cases course with
    | failed first => exact ⟨asked, _, t, .failed (first.append_failed _), dialogue, rfl⟩
    | filled all filled =>
      obtain ⟨others, result, u, course, dialogue', run'⟩ := ih t
      dsimp only
      rw [run_bind, run']
      have both := dialogue.append dialogue'
      cases course with
      | failed later => exact ⟨_, _, u, .failed (all.append later), both, rfl⟩
      | filled later filled' =>
        exact ⟨_, _, u, .filled (all.append later) (.cons filled filled'), both, rfl⟩

end

/-! ## Command lines -/

namespace Launch

theorem quote_error {word : String} {e : AssemblyError} (failed : quote word = .error e) :
    ∃ text, e = .unsplittable text := by
  unfold quote at failed
  split at failed
  · cases failed
  · exact ⟨word, (Except.error.inj failed).symm⟩

theorem activation_error {launch : Launch} {e : AssemblyError}
    (failed : launch.virtualenv.mapM activation = .error e) : ∃ text, e = .unsplittable text := by
  match virtualenv : launch.virtualenv, failed with
  | some directory, failed =>
    match quoted : quote (activationScript directory) with
    | .error e' =>
      rw [Option.mapM_some, activation, quoted] at failed
      cases failed
      exact quote_error quoted
    | .ok _ =>
      rw [Option.mapM_some, activation, quoted] at failed
      cases failed

/-- With the values at hand, all that can fail is to quote and to split. -/
theorem words_error {launch : Launch} {shell : String} {commands : List String} {e : AssemblyError}
    (failed : launch.words shell commands = .error e) : ∃ text, e = .unsplittable text := by
  rcases of_bind_error failed with unwritten | ⟨line, -, unread⟩
  · rcases of_bind_error unwritten with inactive | ⟨first, -, unquoted⟩
    · exact activation_error inactive
    · split at unquoted
      · rcases of_bind_error unquoted with shell | ⟨_, -, unquoted⟩
        · exact quote_error shell
        · rcases of_bind_error unquoted with script | ⟨_, -, written⟩
          · exact quote_error script
          · cases written
      · cases unquoted
  · split at unread
    · cases unread
    · exact ⟨line, (Except.error.inj unread).symm⟩

/-- The courses of assembling a command line. -/
inductive Course (bindings : Bindings) (launch : Launch) (shell : String) (commands : List String) :
    List Exchange → Except AssemblyError (List String) → Prop where
  | failed {before after : List Directive} {d : Directive} {values : List String}
      {early late : List Exchange} {e : TemplateError}
      (listed : directivesOf commands = before ++ d :: after)
      (fine : InTurn (Directive.Course bindings) before early (.ok values))
      (fails : d.Course bindings late (.error e)) :
      Course bindings launch shell commands (early ++ late) (.error (.template e))
  | split {asked : List Exchange} {values texts : List String}
      (fine : InTurn (Directive.Course bindings) (directivesOf commands) asked (.ok values))
      (filled : FilledAll commands values texts) :
      Course bindings launch shell commands asked (launch.words shell texts)

theorem follows_assemble {σ : Type} (capture : Capture σ) (bindings : Bindings) (launch : Launch)
    (shell : String) (commands : List String) :
    Follows capture (launch.Course bindings shell commands)
      (launch.assemble capture shell bindings commands) := by
  intro s
  obtain ⟨asked, result, t, course, dialogue, run⟩ :=
    Template.follows_substituteAll capture bindings commands s
  rw [assemble, run_bind, run_adapt, run]
  cases course with
  | failed first =>
    obtain ⟨before, d, after, values, early, late, listed, rfl, fine, fails⟩ := first.exists_failed
    exact ⟨_, _, t, .failed listed fine fails, dialogue, rfl⟩
  | filled all filled => exact ⟨asked, _, t, .split all filled, dialogue, rfl⟩

/-- A failure to split is met when all directives have values. -/
theorem Course.fine {bindings : Bindings} {launch : Launch} {shell line : String}
    {commands : List String} {asked : List Exchange}
    (course : launch.Course bindings shell commands asked (.error (.unsplittable line))) :
    ∃ values, InTurn (Directive.Course bindings) (directivesOf commands) asked (.ok values) := by
  generalize same : Except.error (AssemblyError.unsplittable line) = result at course
  cases course with
  | failed => cases same
  | split fine => exact ⟨_, fine⟩

/-- The failure of a template is that of a directive, the last one that anything was asked for. -/
theorem Course.fails {bindings : Bindings} {launch : Launch} {shell : String}
    {commands : List String} {asked : List Exchange} {e : TemplateError}
    (course : launch.Course bindings shell commands asked (.error (.template e))) :
    ∃ d ∈ directivesOf commands, ∃ late, late <:+ asked ∧ d.Course bindings late (.error e) := by
  generalize same : Except.error (AssemblyError.template e) = result at course
  cases course with
  | @failed before after d values early late e' listed fine fails =>
    cases same
    refine ⟨d, ?_, late, List.suffix_append _ _, fails⟩
    rw [listed]
    exact List.mem_append_right _ List.mem_cons_self
  | split =>
    obtain ⟨_, other⟩ := words_error same.symm
    cases other

/-- The directives of all commands are evaluated in order, whatever the capture does. The first that
fails is the last that anything is asked for, and its failure is that of the whole; only if none
fails, the commands with their values are split into words. A record of the capture says what was
asked for. -/
theorem assemble_in_order {σ : Type} (capture : Capture σ) (bindings : Bindings) (launch : Launch)
    (shell : String) (commands : List String) (s : σ) :
    ∃ asked result t,
      (launch.assemble capture shell bindings commands).run s = (result, t) ∧
      (launch.assemble (recorded capture) shell bindings commands).run (s, []) =
        (result, (t, asked)) ∧
      Dialogue capture s asked t ∧ launch.Course bindings shell commands asked result ∧
      (∀ e, result = .error (.template e) →
        ∃ d ∈ directivesOf commands, ∃ late, late <:+ asked ∧ d.Course bindings late (.error e)) ∧
      ∀ line, result = .error (.unsplittable line) →
        ∃ values, InTurn (Directive.Course bindings) (directivesOf commands) asked
          (.ok values) := by
  obtain ⟨asked, result, ⟨t, kept⟩, course, dialogue, run⟩ :=
    follows_assemble (recorded capture) bindings launch shell commands (s, [])
  obtain ⟨spoken, whole⟩ := dialogue.recorded
  have alike : Alike (fun (s : σ × List Exchange) t => s.1 = t)
      (launch.assemble (recorded capture) shell bindings commands)
      (launch.assemble capture shell bindings commands) :=
    alike_assemble fun _ _ line _ => alike_recorded capture line
  obtain ⟨same, related⟩ := alike (s, []) s rfl
  rw [run] at same related
  rw [List.nil_append] at whole
  refine ⟨asked, result, t, Prod.ext same.symm related.symm, whole ▸ run, spoken, course,
    fun e failed => ?_, fun line failed => ?_⟩
  · rw [failed] at course
    exact course.fails
  · rw [failed] at course
    exact course.fine

end Launch

end Fleet
