import Fleet.Proofs.CommandLists
import Fleet.Proofs.ShellMode
import Mathlib.Data.List.FinRange

/-!
# What a virtualenv's activation guards

The script of a virtualenv is its activation, then `&&`, then the commands with their own
separator. Operators associate to the left, so the activation guards the first command only. What
follows a failed activation depends on the separator: `&&` carries the failure on to the end, and
`||` and `;` do not.

* `started_in_virtualenv`: what is started after a successful and after a failed activation, and
  when a failed one keeps every command from being started.
-/

namespace Fleet

namespace Launch

/-- The text of the activation, or of the command at a place. -/
def nameOf (activation : String) (values : List String) : Option (Fin values.length) → String
  | none => activation
  | some place => values[place]

/-- The places of all commands, in order. -/
def places (values : List String) : List (Option (Fin values.length)) :=
  (List.finRange values.length).map some

theorem map_nameOf_places (activation : String) (values : List String) :
    (places values).map (nameOf activation values) = values := by
  rw [places, List.map_map]
  exact List.map_getElem_finRange values

/-- The places of commands, of which there is at least one. -/
theorem places_cons {values : List String} (nonempty : values ≠ []) :
    ∃ first others, places values = first :: others := by
  cases shape : places values with
  | nil =>
    have same := map_nameOf_places "" values
    rw [shape] at same
    exact absurd same.symm nonempty
  | cons first others => exact ⟨first, others, rfl⟩

/-- The texts of chained commands are read as the chain, and as nothing else. -/
theorem reads_chain_iff {activation : String} {values : List String}
    {first : Option (Fin values.length)} {others : List (Option (Fin values.length))}
    (shape : places values = first :: others) (separator : Separator)
    (l : CommandList (Option (Fin values.length))) :
    l.Reads (nameOf activation values) (String.intercalate separator.joiner values)
      (places values) ↔ l = .chain separator first others := by
  have reads : (CommandList.chain separator first others).Reads (nameOf activation values)
      (String.intercalate separator.joiner values) (places values) := by
    refine ⟨(CommandList.commands_chain separator first others).trans shape.symm, ?_⟩
    rw [CommandList.text_chain, ← shape, map_nameOf_places]
  constructor
  · exact fun read => CommandList.eq_of_reads read reads
  · rintro rfl
    exact reads

/-- With the activation in front, too, there is one way to read the script. -/
theorem reads_guard_iff {activation : String} {values : List String}
    {first : Option (Fin values.length)} {others : List (Option (Fin values.length))}
    (shape : places values = first :: others) (separator : Separator)
    (l : CommandList (Option (Fin values.length))) :
    l.Reads (nameOf activation values)
      (activation ++ " && " ++ String.intercalate separator.joiner values)
      (none :: places values) ↔ l = (CommandList.chain separator first others).guard none := by
  obtain ⟨commands, text⟩ := (reads_chain_iff shape separator _).2 rfl
  have reads : ((CommandList.chain separator first others).guard none).Reads
      (nameOf activation values)
      (activation ++ " && " ++ String.intercalate separator.joiner values)
      (none :: places values) := by
    refine ⟨?_, ?_⟩
    · rw [CommandList.commands_guard, commands]
    · rw [CommandList.text_guard, text]
      rfl
  constructor
  · exact fun read => CommandList.eq_of_reads read reads
  · rintro rfl
    exact reads

/-- A failure in front keeps every command from being started if `&&` joins the commands, or if
there is only one, and for no other list. -/
theorem started_guard_eq_iff {α : Type} (a : α) (separator : Separator) (first : α)
    (others : List α) :
    (∀ status : α → Nat, status a ≠ 0 →
      ((CommandList.chain separator first others).guard a).started status = [a]) ↔
      separator = .andThen ∨ others = [] := by
  constructor
  · intro gated
    let failing : α → Nat := fun _ => 1
    have stopped := gated failing Nat.one_ne_zero
    have failed : failing a ≠ 0 := Nat.one_ne_zero
    rw [CommandList.started_guard_chain_of_failure failed] at stopped
    by_cases andThen : separator = .andThen
    · exact .inl andThen
    · rw [if_neg andThen] at stopped
      cases others with
      | nil => exact .inr rfl
      | cons second others =>
        exact absurd (List.cons.inj stopped).2 (CommandList.startedFrom_ne_nil _ _ _)
  · intro gate status failed
    rw [CommandList.started_guard_chain_of_failure failed]
    rcases gate with rfl | rfl
    · rw [if_pos rfl]
    · cases separator <;> rfl

/-! ## From templates to what is started -/

variable {σ : Type} {capture : Capture σ} {bindings : Bindings} {commands : List String} {s t : σ}

/-- What is started from the script of a virtualenv, against what is started without one. After a
successful activation it is the same; after a failed one `||` and `;` go on behind the first
command, so that the activation guards the commands only with `&&`, or if there is one command. -/
theorem started_in_virtualenv {launch : Launch} {virtualenv shell : String} {words : List String}
    (named : launch.virtualenv = some virtualenv) (nonempty : commands ≠ [])
    (assembled : (launch.assemble capture shell bindings commands).run s = (.ok words, t)) :
    ∃ values activation script plainScript,
      (Template.substituteAll capture bindings commands).run s = (.ok values, t) ∧
      Launch.activation virtualenv = .ok activation ∧
      words = [shell, "-c", script] ∧
      (Launch.assemble { launch with virtualenv := none, forceShell := true } capture shell
        bindings commands).run s = (.ok [shell, "-c", plainScript], t) ∧
      ∃ guarded plain : CommandList (Option (Fin values.length)),
        (∀ l : CommandList (Option (Fin values.length)),
          l.Reads (nameOf activation values) script (none :: places values) ↔ l = guarded) ∧
        (∀ l : CommandList (Option (Fin values.length)),
          l.Reads (nameOf activation values) plainScript (places values) ↔ l = plain) ∧
        (∀ status, status none = 0 → guarded.started status = none :: plain.started status) ∧
        (∀ status, status none ≠ 0 → guarded.started status =
          none :: if launch.separator = .andThen then []
            else (plain.tail?.map (CommandList.started status)).getD []) ∧
        ((∀ status, status none ≠ 0 → guarded.started status = [none]) ↔
          launch.separator = .andThen ∨ values.length = 1) := by
  obtain ⟨values, substituted, read⟩ := of_assemble_ok assembled
  have shellUsed : launch.UsesShell values := .inr (.inr (by rw [named]; rfl))
  have clean := clean_of_words_ok shellUsed read
  have environmentClean : ¬Words.HoldsNul virtualenv := by
    apply clean
    rw [named]
    exact List.mem_cons_of_mem _ List.mem_cons_self
  obtain ⟨quoted, written, activated⟩ := activation_of_not_holdsNul environmentClean
  obtain ⟨quoted', written', wordsRead⟩ := words_of_named shellUsed named clean
  obtain rfl := Option.some.inj (written.symm.trans written')
  -- without the virtualenv there is one text less that could hold a NUL
  have plainClean : ∀ text ∈ shell :: (none : Option String).toList ++ values,
      ¬Words.HoldsNul text := by
    intro text mem
    apply clean text
    rcases List.mem_cons.1 mem with rfl | mem
    · exact List.mem_cons_self
    · exact List.mem_cons_of_mem _ (List.mem_append_right _ mem)
  have plainRead : Launch.words { launch with virtualenv := none, forceShell := true } shell
      values = .ok [shell, "-c", String.intercalate launch.separator.joiner values] :=
    words_of_unnamed (.inl rfl) rfl plainClean
  have count := Template.length_substituteAll substituted
  have valued : values ≠ [] := by
    rintro rfl
    exact nonempty (List.length_eq_zero_iff.1 count.symm)
  obtain ⟨first, others, shape⟩ := places_cons valued
  have size : others = [] ↔ values.length = 1 := by
    have sizes := congrArg List.length shape
    rw [places, List.length_map, List.length_finRange, List.length_cons] at sizes
    constructor
    · rintro rfl
      exact sizes
    · intro single
      exact List.length_eq_zero_iff.1 (Nat.succ.inj (sizes.symm.trans single))
  refine ⟨values, ". " ++ quoted, _, _, substituted, activated,
    Except.ok.inj (read.symm.trans wordsRead), ?_,
    (CommandList.chain launch.separator first others).guard none,
    CommandList.chain launch.separator first others, reads_guard_iff shape launch.separator,
    reads_chain_iff shape launch.separator, ?_, ?_, ?_⟩
  · rw [assemble_of_substituted _ shell substituted, plainRead]
  · intro status succeeded
    exact CommandList.started_guard_of_success succeeded _
  · intro status failed
    exact CommandList.started_guard_chain_of_failure failed launch.separator first others
  · rw [started_guard_eq_iff, size]

/-- With `||` the second command is started although the activation failed. -/
theorem started_in_virtualenv_orElse :
    ((⟨false, .orElse, some "/p", false⟩ : Launch).assemble (fun _ => pure "") "/bin/sh"
        (.ofList []) ["x", "y"]).run () =
        (.ok ["/bin/sh", "-c", ". /p/bin/activate && x || y"], ()) ∧
      ∃ guarded : CommandList (Option (Fin 2)),
        (∀ l : CommandList (Option (Fin 2)), l.Reads (nameOf ". /p/bin/activate" ["x", "y"])
          ". /p/bin/activate && x || y" (none :: places ["x", "y"]) ↔ l = guarded) ∧
        guarded.started (fun place => if place = none then 3 else 0) = [none, some 1] := by
  have first : Template.parse "x" = ⟨[.text "x"]⟩ := by decide +kernel
  have second : Template.parse "y" = ⟨[.text "y"]⟩ := by decide +kernel
  have substituted : (Template.substituteAll (fun _ => pure "") (.ofList []) ["x", "y"]).run () =
      (.ok ["x", "y"], ()) := by
    rw [Template.substituteAll, Template.substituteAll, Template.substitute, Template.substitute,
      first, second]
    rfl
  have quotes : Words.quote? (activationScript "/p") = some "/p/bin/activate" := by
    decide +kernel
  have activated : activation "/p" = .ok ". /p/bin/activate" := by
    rw [activation, quote_of_some quotes]
    rfl
  have assembled : ((⟨false, .orElse, some "/p", false⟩ : Launch).assemble (fun _ => pure "")
      "/bin/sh" (.ofList []) ["x", "y"]).run () =
      (.ok ["/bin/sh", "-c", ". /p/bin/activate && x || y"], ()) := by
    have shellUsed : (⟨false, .orElse, some "/p", false⟩ : Launch).UsesShell ["x", "y"] :=
      .inr (.inl (by decide))
    have clean : ∀ text ∈ "/bin/sh" :: (some "/p").toList ++ ["x", "y"],
        ¬Words.HoldsNul text := by
      unfold Words.HoldsNul
      decide
    obtain ⟨quoted, written, read⟩ := words_of_named shellUsed rfl clean
    obtain rfl := Option.some.inj (written.symm.trans quotes)
    rw [assemble_of_substituted _ _ substituted, read]
    rfl
  refine ⟨assembled, ?_⟩
  obtain ⟨values, activation', script, plainScript, substituted', activated', words, _, guarded,
    plain, reads, _⟩ :=
    started_in_virtualenv rfl (List.cons_ne_nil "x" ["y"]) assembled
  rw [substituted] at substituted'
  obtain rfl := Except.ok.inj (Prod.mk.inj substituted').1
  obtain rfl := Except.ok.inj (activated.symm.trans activated')
  cases words
  have read : (⟨none, [(.andThen, some 0), (.orElse, some 1)]⟩ :
      CommandList (Option (Fin 2))).Reads (nameOf ". /p/bin/activate" ["x", "y"])
      ". /p/bin/activate && x || y" (none :: places ["x", "y"]) := ⟨rfl, rfl⟩
  refine ⟨guarded, reads, ?_⟩
  rw [← (reads _).1 read]
  rfl

end Launch

end Fleet
