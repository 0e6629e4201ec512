import Fleet.Proofs.Journeys

/-!
# When items fail

Executing an order either stops at the first failure, or goes on and counts them. The exit code is
0 when nothing failed. A command line that failed decides about it if one does not go on, and all
other failures are worth 1, also those of command lines in templates.

* `Journey.policy`: what comes of executing an order.
* `Journey.exitsWith`: what it is worth as an exit code.
* `executing`: both, for the arguments that ask for it.
-/

namespace Fleet.CommandLine

/-- In a world, arguments ask for something to be done with a project. -/
inductive Asks (e : Environment) (w : World) (arguments : List String) (p : Project)
    (request : Request) : Prop where
  | intro {r : Reading} {name : String} {rest : List String} {action : Action}
      (read : topGrammar.read arguments = .ok r)
      (loads : loadProject w e (r.value? "config") = .ok p) (names : r.rest = name :: rest)
      (found : Action.ofName? name = some action) (means : action.request rest = .ok request) :
      Asks e w arguments p request

/-- What comes of executing an order with so many items, by its trials. -/
structure Policy (keepGoing : Bool) (size : Nat) (trials : List Trial)
    (result : Except Failure Unit) : Prop where
  /-- Unless one goes on after failures, the first of them ends it and is what comes of it. -/
  stops : keepGoing = false → ∀ before t after f, trials = before ++ t :: after →
    t.outcome = .error f → after = [] ∧ result = .error f
  /-- If one goes on, they are counted. -/
  counts : keepGoing = true → failures trials ≠ 0 →
    result = .error (.some (failures trials) trials.length)
  succeeds : result = .ok () ↔ ∀ t ∈ trials, t.outcome = .ok ()
  /-- No item is left out if one goes on, or nothing fails. -/
  covers : keepGoing = true ∨ (∀ t ∈ trials, t.outcome = .ok ()) → trials.length = size
  /-- Each command line is handed over once, in its directory, and in order. One without a word is
  among them, though nothing is started for it. -/
  spawned : trials.flatMap Trial.lines = commandLines (trials.filterMap fun t => t.item.toOption)
  /-- Without a command line, the reason for that is what comes of an item. -/
  refused : ∀ t ∈ trials, ∀ e, t.item = .error e → t.outcome = .error (.sweep e)

/-- A command line decides about the exit code: nothing was found to start, or its program came to
a code of its own that is not 0. -/
inductive Spawn.Decides : Spawn → Nat → Prop where
  | missing {words : List String} {directory : String} :
      Decides ⟨words, directory, some (.error .noSuchFile)⟩ 127
  | own {words : List String} {directory : String} {code : Nat} (fails : code ≠ 0) :
      Decides ⟨words, directory, some (.ok (.exited code))⟩ code

/-- A command line that was handed over for an item decides about the exit code. -/
def Trial.Decides (t : Trial) (own : Nat) : Prop :=
  ∃ spawn ∈ t.spawned, Spawn.Decides spawn own

/-- The exit code after executing an order, by its trials. -/
structure ExitsWith (keepGoing : Bool) (trials : List Trial) (code : Nat) : Prop where
  zero : code = 0 ↔ ∀ t ∈ trials, t.outcome = .ok ()
  decided : keepGoing = false → ∀ t ∈ trials, ∀ own, t.Decides own → code = own
  other : code ≠ 0 → (keepGoing = false → ∀ t ∈ trials, ∀ own, ¬t.Decides own) → code = 1

/-! ## What comes of an order -/

variable {m : Manner} {s : Sweep} {w w' : World} {t : Trial} {trials : List Trial} {f : Failure}

/-- If one does not go on after failures, nothing fails before the last item. -/
theorem Manner.Journey.fine_before {before after : List Trial}
    (journey : m.Journey s w trials w') (strict : m.keepGoing = false)
    (split : trials = before ++ t :: after) : ∀ earlier ∈ before, earlier.outcome = .ok () := by
  intro earlier mem
  obtain ⟨front, back, rfl⟩ := List.append_of_mem mem
  rw [← Trial.failed_eq_false_iff, ← Bool.not_eq_true]
  intro fails
  rw [List.append_assoc, List.cons_append] at split
  cases back <;> cases journey.stops strict split fails

/-- What comes of executing an order. -/
theorem Manner.Journey.policy (journey : m.Journey s w trials w') :
    Policy m.keepGoing s.size trials (verdict m.keepGoing trials) where
  stops strict before t after f split fails := by
    refine ⟨journey.stops strict split (Trial.failed_iff.2 ⟨f, fails⟩), ?_⟩
    rw [strict]
    exact forM_outcome_eq_error_iff.2
      ⟨before, t, after, split, journey.fine_before strict split, fails⟩
  counts goes some := by rw [goes, verdict, if_pos rfl, if_neg some]
  succeeds := verdict_eq_ok_iff
  covers goes := journey.covers (goes.imp_right failures_eq_zero_iff.2)
  spawned := journey.spawned
  refused t mem e refused := by
    obtain ⟨_, _, tries⟩ := journey.tried t mem
    rw [tries.eq_of_refused refused]

/-! ## What it is worth -/

/-- The exit code after a request was carried out. -/
def codeOf : Except Failure Unit → Nat
  | .ok () => 0
  | .error f => f.exitCode

/-- A command line that decides about the exit code has failed. -/
theorem exitCode_of_decides {host : Host} {spawn : Spawn} {result : Except ExecutionError Unit}
    {own : Nat} (runs : host.Runs w spawn result w')
    (decides : Spawn.Decides spawn own) :
    ∃ cause, result = .error cause ∧ cause.exitCode = own := by
  cases runs with
  | unnamed => cases decides
  | unstarted =>
    cases decides with
    | missing => exact ⟨_, rfl, rfl⟩
  | @ended _ _ _ outcome =>
    obtain ⟨status, _, _, _⟩ := outcome
    cases decides with
    | own fails =>
      match own, fails with
      | _ + 1, _ => exact ⟨_, rfl, rfl⟩

/-- If it does not decide, its failure is worth 1. -/
theorem exitCode_of_not_decides {host : Host} {spawn : Spawn} {cause : ExecutionError}
    (runs : host.Runs w spawn (.error cause) w')
    (others : ∀ own, ¬Spawn.Decides spawn own) : cause.exitCode = 1 := by
  generalize failed : Except.error cause = result at runs
  cases runs with
  | unnamed =>
    cases failed
    rfl
  | @unstarted _ _ _ refusal =>
    cases failed
    cases refusal with
    | noSuchFile => exact absurd .missing (others 127)
    | _ => rfl
  | @ended _ _ _ outcome =>
    obtain ⟨status, _, _, _⟩ := outcome
    match status with
    | .exited 0 => cases failed
    | .exited (n + 1) => exact absurd (.own n.succ_ne_zero) (others (n + 1))
    | .signalled =>
      cases failed
      rfl

namespace Manner

theorem Tries.exitCode_of_decides {own : Nat} (tries : m.Tries w t w') (decides : t.Decides own) :
    ∃ f, t.outcome = .error f ∧ f.exitCode = own := by
  obtain ⟨spawn, mem, decides⟩ := decides
  cases tries with
  | refused => cases mem
  | ran runs =>
    obtain rfl := List.mem_singleton.1 mem
    obtain ⟨_, rfl, code⟩ := exitCode_of_decides runs decides
    exact ⟨_, rfl, code⟩

theorem Tries.exitCode_of_not_decides (tries : m.Tries w t w') (fails : t.outcome = .error f)
    (others : ∀ own, ¬t.Decides own) : f.exitCode = 1 := by
  cases tries with
  | refused =>
    cases fails
    rfl
  | @ran _ _ result _ runs =>
    match result, runs, fails with
    | .error _, runs, rfl =>
      exact exitCode_of_not_decides runs fun own decides =>
        others own ⟨_, List.mem_singleton_self _, decides⟩

theorem Tries.exitCode_ne_zero (tries : m.Tries w t w') (fails : t.outcome = .error f) :
    f.exitCode ≠ 0 := by
  by_cases decided : ∃ own, t.Decides own
  · obtain ⟨own, decides⟩ := decided
    obtain ⟨_, same, code⟩ := tries.exitCode_of_decides decides
    obtain rfl := Except.error.inj (fails.symm.trans same)
    obtain ⟨_, _, decides⟩ := decides
    rw [code]
    cases decides with
    | missing => decide
    | own fails => exact fails
  · rw [tries.exitCode_of_not_decides fails (not_exists.1 decided)]
    exact Nat.one_ne_zero

/-- What comes of executing an order is worth 1 if it is a count of failures, and otherwise it is
the failure of an item. -/
theorem Journey.verdict_error (journey : m.Journey s w trials w')
    (result : verdict m.keepGoing trials = .error f) :
    f.exitCode = 1 ∨ m.keepGoing = false ∧ ∃ t ∈ trials, t.outcome = .error f ∧
      ∃ v u, m.Tries v t u := by
  unfold verdict at result
  split at result
  · left
    split at result
    · cases result
    · cases result
      rfl
  · next strict =>
    obtain ⟨before, t, after, split, -, fails⟩ := forM_outcome_eq_error_iff.1 result
    have mem : t ∈ trials := split ▸ List.mem_append_right before List.mem_cons_self
    exact .inr ⟨Bool.not_eq_true _ ▸ strict, t, mem, fails, journey.tried t mem⟩

/-- What executing an order is worth as an exit code. -/
theorem Journey.exitsWith (journey : m.Journey s w trials w') :
    ExitsWith m.keepGoing trials (codeOf (verdict m.keepGoing trials)) where
  zero := by
    rw [← journey.policy.succeeds]
    match result : verdict m.keepGoing trials with
    | .ok () => exact ⟨fun _ => rfl, fun _ => rfl⟩
    | .error f =>
      have fails : f.exitCode ≠ 0 := by
        rcases journey.verdict_error result with one | ⟨_, t, _, fails, _, _, tries⟩
        · rw [one]
          exact Nat.one_ne_zero
        · exact tries.exitCode_ne_zero fails
      exact ⟨fun zero => absurd zero fails, fun same => nomatch same⟩
  decided strict t mem own decides := by
    obtain ⟨_, _, tries⟩ := journey.tried t mem
    obtain ⟨f, fails, code⟩ := tries.exitCode_of_decides decides
    obtain ⟨before, after, split⟩ := List.append_of_mem mem
    rw [(journey.policy.stops strict before t after f split fails).2]
    exact code
  other fails others := by
    match result : verdict m.keepGoing trials with
    | .ok () =>
      rw [result] at fails
      exact absurd rfl fails
    | .error f =>
      rcases journey.verdict_error result with one | ⟨strict, t, mem, failing, _, _, tries⟩
      · exact one
      · exact tries.exitCode_of_not_decides failing (others strict t mem)

end Manner

theorem Asks.exitCode {e : Environment} {arguments : List String} {p : Project}
    {request : Request} (asked : Asks e w arguments p request) (host : Host) :
    ((run host e arguments).run w).1 =
      codeOf ((request.perform host (wantsColours e) p).run w).1 := by
  obtain @⟨r, _, _, _, read, loads, names, found, means⟩ := asked
  have performed : (perform host e (wantsColours e) r).run w =
      (request.perform host (wantsColours e) p).run w := by
    rw [perform, Attempting.run_get_bind, loads]
    dsimp only
    rw [names, dispatch, found]
    dsimp only
    rw [means]
  rw [run, read]
  dsimp only
  rw [StateT.run_bind, show StateT.run (perform host e (wantsColours e) r).run w = _ from performed]
  generalize (request.perform host (wantsColours e) p).run w = done
  obtain ⟨result, _⟩ := done
  cases result <;> rfl

/-- What comes of arguments that ask for an order to be executed: whatever items the sweep comes to
and however the command lines end, trials follow the policy, and the exit code is theirs. -/
theorem executing (host : Host) {e : Environment} {arguments : List String} {p : Project}
    {o : Order} {keepGoing : Bool} (asked : Asks e w arguments p (.execute o keepGoing)) :
    ∃ trials result, Executes host (wantsColours e) p o keepGoing w trials result ∧
      Policy keepGoing (o.sweep p w).size trials result ∧
      ExitsWith keepGoing trials ((run host e arguments).run w).1 := by
  obtain ⟨trials, w', journey, executes⟩ := exists_executes host (wantsColours e) p o keepGoing w
  refine ⟨trials, _, executes, journey.policy, ?_⟩
  rw [asked.exitCode host]
  have ran : ((Request.execute o keepGoing).perform host (wantsColours e) p).run w = _ :=
    run_execute journey
  rw [ran]
  exact journey.exitsWith

/-! ## A command line in a template -/

theorem of_toOption {ε α : Type} {x : Except ε α} {a : α} (same : x.toOption = some a) :
    x = .ok a := by
  match x, same with
  | .ok _, rfl => rfl

theorem parse_table :
    Configuration.ofText "/p/repomux.toml" table = .ok { repositories := [standing, gone] } := by
  have plain : (Configuration.ofText "/p/repomux.toml" table).toOption.map (fun c =>
      (c.shell.isNone, c.constants.isEmpty, c.virtualenvs.isEmpty)) = some (true, true, true) := by
    decide +kernel
  have listed : (Configuration.ofText "/p/repomux.toml" table).toOption.map (fun c =>
      c.repositories.map fun r => (r.id, r.path, r.attributes.isEmpty)) =
        some [("a", "sub", true), ("b", "gone", true)] := by decide +kernel
  match Configuration.ofText "/p/repomux.toml" table, plain, listed with
  | .ok ⟨none, [], [], [⟨_, _, []⟩, ⟨_, _, []⟩]⟩, _, listed =>
    cases listed
    rfl

theorem load_house : loadProject inside ⟨[]⟩ (some "/p/repomux.toml") = .ok house := by
  have text : inside.readText "/p/repomux.toml" = .ok table := by
    have file : inside.tree.entryAt inside.here? "/p/repomux.toml" =
        .ok (.file (Text.encodeUtf8 table) 0o644) :=
      FileTree.entryAt_of_resolve (resolve_housed_file _) rfl
    have decoded : Text.decodeUtf8 (Text.encodeUtf8 table) = .ok table :=
      of_toOption (by decide +kernel)
    rw [World.readText, bind_ok file]
    dsimp only
    rw [decoded]
    rfl
  have root : Project.rootOf "/p/repomux.toml" = "/p" := by decide +kernel
  have led : inside.tree.resolve inside.here? (Project.rootOf "/p/repomux.toml") = .ok ["p"] := by
    rw [root]
    exact resolve_housed_root _
  have loaded := Project.load_of_canonicalize text parse_table
    (FileTree.canonicalize_of_shallow shallow_housed led)
  rw [loadProject]
  dsimp only
  rw [bind_ok (mapError_ok loaded)]
  rfl

theorem asks_house :
    Asks ⟨[]⟩ inside ["-c", "/p/repomux.toml", "exec", "{__shell__:x}"] house
      (.execute ⟨["{__shell__:x}"], [], {}⟩ false) := by
  have read : topGrammar.read ["-c", "/p/repomux.toml", "exec", "{__shell__:x}"] =
      .ok ⟨[], [("config", "/p/repomux.toml")], ["exec", "{__shell__:x}"]⟩ :=
    of_toOption (by decide +kernel)
  have means : Action.execute.request ["{__shell__:x}"] =
      .ok (.execute ⟨["{__shell__:x}"], [], {}⟩ false) := of_toOption (by decide +kernel)
  exact .intro read load_house rfl (Action.ofName?_name .execute) means

/-- The command line in the template ends with 3, so that nothing is run for the first repository,
and the second one is not looked at. The exit code is not 3. -/
theorem executing_house :
    Asks ⟨[]⟩ inside ["-c", "/p/repomux.toml", "exec", "{__shell__:x}"] house
        (.execute ⟨["{__shell__:x}"], [], {}⟩ false) ∧
      ∃ t result,
        Executes (ending 3) false house ⟨["{__shell__:x}"], [], {}⟩ false inside [t] result ∧
        t.spawned = [] ∧ Policy false 2 [t] result ∧ ExitsWith false [t] 1 ∧
        ((run (ending 3) ⟨[]⟩ ["-c", "/p/repomux.toml", "exec", "{__shell__:x}"]).run inside).1 =
          1 := by
  have parsed : Template.parse "{__shell__:x}" = ⟨[.directive (.atom (.command "x"))]⟩ := by
    decide +kernel
  have assembles : assembling (ending 3) "{__shell__:x}" =
      (.error (.template (.atom (.command "x" (.nonZeroExit "x" 3)))),
        { inside with current := 2 }) := by
    rw [assembling, Launch.assemble, Template.substituteAll, Template.substitute, parsed]
    rfl
  have turn := next_standing assembles [gone]
  obtain ⟨trials, result, executes, policy, exits⟩ := executing (ending 3) asks_house
  have alone : ∃ e, trials = [⟨.error e, [], .error (.sweep e)⟩] := by
    obtain ⟨_, journey, _⟩ := executes
    cases journey with
    | ended turn' => cases turn.symm.trans turn'
    | stopped turn' tries =>
      have same := congrArg (fun taken => taken.1.1) (turn.symm.trans turn')
      exact ⟨_, congrArg ([·]) (tries.eq_of_refused (Option.some.inj same).symm)⟩
    | onward turn' tries goes =>
      have same := congrArg (fun taken => taken.1.1) (turn.symm.trans turn')
      rw [tries.eq_of_refused (Option.some.inj same).symm] at goes
      cases goes rfl
  obtain ⟨e, rfl⟩ := alone
  have code : ((run (ending 3) ⟨[]⟩ ["-c", "/p/repomux.toml", "exec", "{__shell__:x}"]).run
      inside).1 = 1 := by
    refine exits.other (fun zero => ?_) fun _ t mem own decides => ?_
    · cases exits.zero.1 zero _ (List.mem_singleton_self _)
    · obtain ⟨spawn, spawned, _⟩ := decides
      rw [List.mem_singleton.1 mem] at spawned
      cases spawned
  exact ⟨asks_house, _, result, executes, rfl, policy, code ▸ exits, code⟩

end Fleet.CommandLine
