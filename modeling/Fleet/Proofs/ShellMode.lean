import Fleet.Project.Basic
import Fleet.Proofs.Attempts
import Fleet.Proofs.Quoting

/-!
# Command lines for the shell

With the shell in use a command line is written as text, the script as one quoted word of it, and
the text is then split again. Two levels of quoting have to cancel out: the script of a virtualenv
holds a quoted path, and the whole script is quoted once more.

* `words_of_shell`: the words are exactly the shell, `-c` and the script, unless one of the two
  texts cannot be quoted.
* `assemble_by_shell`: the same from command templates, with the texts that decide about failure.
-/

namespace Fleet

/-- Whether commands are run by a shell. -/
def Launch.UsesShell (launch : Launch) (commands : List String) : Prop :=
  launch.forceShell = true ∨ 1 < commands.length ∨ launch.virtualenv.isSome = true

/-- Whether a caller asks for something that only a shell can do. -/
def Overrides.NeedShell (overrides : Overrides) (commands : List String) : Prop :=
  overrides.shell = some true ∨ overrides.virtualenv.isSome = true ∨ 1 < commands.length

/-- What a caller asks for cannot be taken back by turning the shell down. -/
theorem Project.usesShell_of_launch {p : Project} {commands : List String} {overrides : Overrides}
    {launch : Launch} (launched : p.launch commands overrides = .ok launch)
    (needed : overrides.NeedShell commands) : launch.UsesShell commands := by
  unfold Project.launch at launched
  dsimp only at launched
  split at launched
  · next unset =>
    obtain rfl := Except.ok.inj launched
    rcases needed with asked | named | several
    · exact .inl (by simp [asked])
    · rw [unset] at named
      cases named
    · exact .inr (.inl several)
  · split at launched
    · obtain rfl := Except.ok.inj launched
      exact .inl rfl
    · cases launched

namespace Template

variable {σ : Type}

/-- Each template has one value. -/
theorem length_substituteAll {capture : Capture σ} {bindings : Bindings} {texts values : List String}
    {s t : σ} (run : (substituteAll capture bindings texts).run s = (.ok values, t)) :
    values.length = texts.length := by
  induction texts generalizing values s with
  | nil =>
    cases run
    rfl
  | cons text rest ih =>
    rw [substituteAll] at run
    obtain ⟨value, u, _, run⟩ := Attempting.of_run_bind_ok run
    obtain ⟨others, v, othersRun, run⟩ := Attempting.of_run_bind_ok run
    cases run
    rw [List.length_cons, List.length_cons, ih othersRun]

end Template

namespace Launch

open Words (HoldsNul quote? split?)

/-! ## The words of a line for the shell -/

theorem quote_of_some {word quoted : String} (written : quote? word = some quoted) :
    quote word = .ok quoted := by
  rw [quote, written]

theorem quote_of_holdsNul {word : String} (nul : HoldsNul word) :
    quote word = .error (.unsplittable word) := by
  rw [quote, Words.quote?_eq_none_iff.2 nul]

theorem exists_quote?_of_not_holdsNul {word : String} (clean : ¬HoldsNul word) :
    ∃ quoted, quote? word = some quoted := by
  cases written : quote? word with
  | some quoted => exact ⟨quoted, rfl⟩
  | none => exact absurd (Words.quote?_eq_none_iff.1 written) clean

/-- A line for the shell is three quoted words: the shell, the option `-c` and the script. -/
theorem split?_shell_line {shell script shellQuoted scriptQuoted : String}
    (shellWritten : quote? shell = some shellQuoted)
    (scriptWritten : quote? script = some scriptQuoted) :
    split? (shellQuoted ++ " -c " ++ scriptQuoted) = some [shell, "-c", script] := by
  have option : quote? "-c" = some "-c" := by decide +kernel
  have three : shellQuoted ++ " -c " ++ scriptQuoted =
      String.intercalate " " [shellQuoted, "-c", scriptQuoted] := by
    have middle : " -c " = " " ++ "-c" ++ " " := rfl
    rw [String.intercalate_cons_cons, String.intercalate_cons_cons, String.intercalate_singleton,
      middle]
    simp only [String.append_assoc]
  rw [three]
  apply Words.split?_intercalate
  rw [List.mapM_cons, List.mapM_cons, List.mapM_cons, List.mapM_nil, shellWritten, option,
    scriptWritten]
  rfl

/-- The command that activates a virtualenv is two words. -/
theorem split?_activation {virtualenv quoted : String}
    (written : quote? (activationScript virtualenv) = some quoted) :
    split? (". " ++ quoted) = some [".", activationScript virtualenv] := by
  have dot : quote? "." = some "." := by decide +kernel
  have two : ". " ++ quoted = String.intercalate " " [".", quoted] := by
    rw [String.intercalate_cons_cons, String.intercalate_singleton]
    rfl
  rw [two]
  apply Words.split?_intercalate
  rw [List.mapM_cons, List.mapM_cons, List.mapM_nil, dot, written]
  rfl

/-- With the activation written, the line for the shell fails only over a text that cannot be
quoted. -/
theorem line_of_shell {launch : Launch} {shell : String} {commands : List String}
    {first : Option String} (shellUsed : launch.UsesShell commands)
    (activated : launch.virtualenv.mapM activation = .ok first) :
    launch.line shell commands =
      (quote shell).bind fun shellQuoted =>
        (quote (launch.script first commands)).map (shellQuoted ++ " -c " ++ ·) := by
  have same : first.isSome = launch.virtualenv.isSome := by
    cases environment : launch.virtualenv with
    | none =>
      rw [environment] at activated
      cases activated
      rfl
    | some virtualenv =>
      rw [environment] at activated
      cases written : activation virtualenv with
      | error e =>
        rw [Option.mapM_some, written] at activated
        cases activated
      | ok text =>
        rw [Option.mapM_some, written] at activated
        cases activated
        rfl
  have mode : (launch.forceShell || decide (1 < commands.length) || first.isSome) = true := by
    rw [same]
    simpa [UsesShell, or_assoc] using shellUsed
  rw [line, activated]
  exact if_pos mode

/-- Without a NUL the words are the shell, `-c` and the script. -/
theorem words_of_shell {launch : Launch} {shell : String} {commands : List String}
    {first : Option String} (shellUsed : launch.UsesShell commands)
    (activated : launch.virtualenv.mapM activation = .ok first) (shellClean : ¬HoldsNul shell)
    (scriptClean : ¬HoldsNul (launch.script first commands)) :
    launch.words shell commands = .ok [shell, "-c", launch.script first commands] := by
  obtain ⟨shellQuoted, shellWritten⟩ := exists_quote?_of_not_holdsNul shellClean
  obtain ⟨scriptQuoted, scriptWritten⟩ := exists_quote?_of_not_holdsNul scriptClean
  have written : launch.line shell commands = .ok (shellQuoted ++ " -c " ++ scriptQuoted) := by
    rw [line_of_shell shellUsed activated, quote_of_some shellWritten,
      quote_of_some scriptWritten]
    rfl
  have read := split?_shell_line shellWritten scriptWritten
  rw [words, written]
  simp only [bind, Except.bind, read]
  rfl

/-- A line that cannot be written is reported, whichever text is the reason. -/
theorem words_of_line_error {launch : Launch} {shell : String} {commands : List String}
    {e : AssemblyError} (failed : launch.line shell commands = .error e) :
    launch.words shell commands = .error e := by
  rw [words, failed]
  rfl

/-- A NUL in the shell or the script makes the line fail. -/
theorem line_of_holdsNul {launch : Launch} {shell : String} {commands : List String}
    {first : Option String} (shellUsed : launch.UsesShell commands)
    (activated : launch.virtualenv.mapM activation = .ok first)
    (nul : HoldsNul shell ∨ HoldsNul (launch.script first commands)) :
    ∃ text, launch.line shell commands = .error (.unsplittable text) := by
  rw [line_of_shell shellUsed activated]
  by_cases shellNul : HoldsNul shell
  · exact ⟨shell, by rw [quote_of_holdsNul shellNul]; rfl⟩
  · obtain ⟨shellQuoted, shellWritten⟩ := exists_quote?_of_not_holdsNul shellNul
    have scriptNul := nul.resolve_left shellNul
    exact ⟨_, by rw [quote_of_some shellWritten, quote_of_holdsNul scriptNul]; rfl⟩

/-! ## Activating a virtualenv -/

theorem holdsNul_activationScript {virtualenv : String} :
    HoldsNul (activationScript virtualenv) ↔ HoldsNul virtualenv := by
  have tail : ¬HoldsNul "bin/activate" := by unfold HoldsNul; decide
  have slash : ¬HoldsNul "/" := by unfold HoldsNul; decide
  have relative : Path.isAbsolute "bin/activate" = false := by decide
  unfold activationScript Path.join
  rw [relative, if_neg Bool.false_ne_true]
  split
  · rw [Words.holdsNul_append, or_iff_left tail]
  · rw [Words.holdsNul_append, Words.holdsNul_append, or_iff_left tail, or_iff_left slash]

/-- The activation is written unless the path of the virtualenv holds a NUL. -/
theorem activation_of_not_holdsNul {virtualenv : String} (clean : ¬HoldsNul virtualenv) :
    ∃ quoted, quote? (activationScript virtualenv) = some quoted ∧
      activation virtualenv = .ok (". " ++ quoted) := by
  have scriptClean : ¬HoldsNul (activationScript virtualenv) :=
    fun nul => clean (holdsNul_activationScript.1 nul)
  obtain ⟨quoted, written⟩ := exists_quote?_of_not_holdsNul scriptClean
  exact ⟨quoted, written, by rw [activation, quote_of_some written]; rfl⟩

theorem line_of_virtualenv_holdsNul {launch : Launch} {shell virtualenv : String}
    {commands : List String} (named : launch.virtualenv = some virtualenv)
    (nul : HoldsNul virtualenv) :
    launch.line shell commands = .error (.unsplittable (activationScript virtualenv)) := by
  have failed : activation virtualenv = .error (.unsplittable (activationScript virtualenv)) := by
    rw [activation, quote_of_holdsNul (holdsNul_activationScript.2 nul)]
    rfl
  rw [line, named, Option.mapM_some, failed]
  rfl

/-! ## The script -/

theorem script_none (launch : Launch) (commands : List String) :
    launch.script none commands = String.intercalate launch.separator.joiner commands :=
  rfl

theorem script_some (launch : Launch) (first : String) (commands : List String) :
    launch.script (some first) commands =
      first ++ " && " ++ String.intercalate launch.separator.joiner commands := by
  show String.intercalate " && " [first, launch.separator.join commands] = _
  rw [String.intercalate_cons_cons, String.intercalate_singleton]
  rfl

/-- The separators bring no NUL in. -/
theorem holdsNul_script_none {launch : Launch} {commands : List String} :
    HoldsNul (launch.script none commands) ↔ ∃ command ∈ commands, HoldsNul command := by
  have clean : ¬HoldsNul launch.separator.joiner := by
    unfold HoldsNul
    cases launch.separator <;> decide
  exact Words.holdsNul_intercalate clean commands

theorem holdsNul_script_some {launch : Launch} {quoted : String} {commands : List String}
    (clean : ¬HoldsNul quoted) :
    HoldsNul (launch.script (some (". " ++ quoted)) commands) ↔
      ∃ command ∈ commands, HoldsNul command := by
  have dot : ¬HoldsNul ". " := by unfold HoldsNul; decide
  have andThen : ¬HoldsNul " && " := by unfold HoldsNul; decide
  rw [script_some, Words.holdsNul_append, Words.holdsNul_append, Words.holdsNul_append,
    or_iff_right dot, or_iff_right clean, or_iff_right andThen]
  exact holdsNul_script_none

/-- A NUL anywhere makes the line fail. -/
theorem line_of_nul {launch : Launch} {shell : String} {commands : List String}
    (shellUsed : launch.UsesShell commands)
    (nul : ∃ text ∈ shell :: launch.virtualenv.toList ++ commands, HoldsNul text) :
    ∃ text, launch.line shell commands = .error (.unsplittable text) := by
  obtain ⟨text, mem, held⟩ := nul
  cases named : launch.virtualenv with
  | none =>
    rw [named] at mem
    have activated : launch.virtualenv.mapM activation = .ok none := by
      rw [named]
      rfl
    apply line_of_holdsNul shellUsed activated
    rcases List.mem_cons.1 mem with rfl | mem
    · exact .inl held
    · exact .inr (holdsNul_script_none.2 ⟨text, mem, held⟩)
  | some virtualenv =>
    by_cases environmentNul : HoldsNul virtualenv
    · exact ⟨_, line_of_virtualenv_holdsNul named environmentNul⟩
    · obtain ⟨quoted, written, activates⟩ := activation_of_not_holdsNul environmentNul
      have activated : launch.virtualenv.mapM activation = .ok (some (". " ++ quoted)) := by
        rw [named, Option.mapM_some, activates]
        rfl
      apply line_of_holdsNul shellUsed activated
      rw [named] at mem
      rcases List.mem_cons.1 mem with rfl | mem
      · exact .inl held
      · rcases List.mem_cons.1 mem with rfl | mem
        · exact absurd held environmentNul
        · exact .inr ((holdsNul_script_some (Words.not_holdsNul_of_quote? written)).2
            ⟨text, mem, held⟩)

/-- Without a NUL and without a virtualenv the script is the commands. -/
theorem words_of_unnamed {launch : Launch} {shell : String} {commands : List String}
    (shellUsed : launch.UsesShell commands) (unnamed : launch.virtualenv = none)
    (clean : ∀ text ∈ shell :: launch.virtualenv.toList ++ commands, ¬HoldsNul text) :
    launch.words shell commands =
      .ok [shell, "-c", String.intercalate launch.separator.joiner commands] := by
  have activated : launch.virtualenv.mapM activation = .ok none := by
    rw [unnamed]
    rfl
  rw [unnamed] at clean
  have scriptClean : ¬HoldsNul (launch.script none commands) := fun nul => by
    obtain ⟨command, mem, held⟩ := holdsNul_script_none.1 nul
    exact clean command (List.mem_cons_of_mem _ mem) held
  rw [words_of_shell shellUsed activated (clean shell List.mem_cons_self) scriptClean,
    script_none]

/-- Without a NUL the script of a virtualenv is its activation and then the commands. -/
theorem words_of_named {launch : Launch} {shell virtualenv : String} {commands : List String}
    (shellUsed : launch.UsesShell commands) (named : launch.virtualenv = some virtualenv)
    (clean : ∀ text ∈ shell :: launch.virtualenv.toList ++ commands, ¬HoldsNul text) :
    ∃ quoted, quote? (activationScript virtualenv) = some quoted ∧
      launch.words shell commands = .ok [shell, "-c", ". " ++ quoted ++ " && " ++
        String.intercalate launch.separator.joiner commands] := by
  rw [named] at clean
  have environmentClean : ¬HoldsNul virtualenv :=
    clean virtualenv (List.mem_cons_of_mem _ List.mem_cons_self)
  obtain ⟨quoted, written, activates⟩ := activation_of_not_holdsNul environmentClean
  have activated : launch.virtualenv.mapM activation = .ok (some (". " ++ quoted)) := by
    rw [named, Option.mapM_some, activates]
    rfl
  have scriptClean : ¬HoldsNul (launch.script (some (". " ++ quoted)) commands) := fun nul => by
    obtain ⟨command, mem, held⟩ :=
      (holdsNul_script_some (Words.not_holdsNul_of_quote? written)).1 nul
    exact clean command (List.mem_cons_of_mem _ (List.mem_cons_of_mem _ mem)) held
  refine ⟨quoted, written, ?_⟩
  rw [words_of_shell shellUsed activated (clean shell List.mem_cons_self) scriptClean,
    script_some]

/-- Where there are words, no text holds a NUL. -/
theorem clean_of_words_ok {launch : Launch} {shell : String} {commands split : List String}
    (shellUsed : launch.UsesShell commands) (read : launch.words shell commands = .ok split) :
    ∀ text ∈ shell :: launch.virtualenv.toList ++ commands, ¬HoldsNul text := by
  intro text mem held
  obtain ⟨_, failed⟩ := line_of_nul shellUsed ⟨text, mem, held⟩
  rw [words_of_line_error failed] at read
  cases read

/-- If there are words at all, they are what the line splits into. -/
theorem split?_of_words_ok {launch : Launch} {shell line : String}
    {commands split : List String} (written : launch.line shell commands = .ok line)
    (read : launch.words shell commands = .ok split) : split? line = some split := by
  rw [words, written] at read
  simp only [bind, Except.bind] at read
  cases parts : split? line with
  | none =>
    rw [parts] at read
    cases read
  | some parts' =>
    rw [parts] at read
    cases read
    rfl

/-! ## From templates to words -/

variable {σ : Type} {capture : Capture σ} {bindings : Bindings} {commands values : List String}
  {s t : σ}

/-- Once the templates have values, the words depend on nothing else. -/
theorem assemble_of_substituted (launch : Launch) (shell : String)
    (substituted : (Template.substituteAll capture bindings commands).run s = (.ok values, t)) :
    (launch.assemble capture shell bindings commands).run s = (launch.words shell values, t) := by
  have adapted : (ExceptT.adapt AssemblyError.template
      (Template.substituteAll capture bindings commands)).run s = (.ok values, t) := by
    rw [Attempting.run_adapt, substituted]
    rfl
  exact Attempting.run_bind_ok adapted

/-- Words come from values of the templates. -/
theorem of_assemble_ok {launch : Launch} {shell : String} {split : List String}
    (assembled : (launch.assemble capture shell bindings commands).run s = (.ok split, t)) :
    ∃ values, (Template.substituteAll capture bindings commands).run s = (.ok values, t) ∧
      launch.words shell values = .ok split := by
  obtain ⟨values, u, adapted, rest⟩ := Attempting.of_run_bind_ok assembled
  have substituted := Attempting.of_run_adapt_ok adapted
  have whole := assemble_of_substituted launch shell substituted
  rw [assembled] at whole
  obtain ⟨read, rfl⟩ := Prod.mk.inj whole
  exact ⟨values, substituted, read.symm⟩

theorem usesShell_of_length {launch : Launch} (same : values.length = commands.length)
    (shellUsed : launch.UsesShell commands) : launch.UsesShell values := by
  rw [UsesShell, same]
  exact shellUsed

/-- What the shell is given: itself, `-c`, and as one word the commands with their separator
between two, after the activation of the virtualenv if there is one. A NUL in the shell, the
virtualenv or a command is the only reason for a failure, and it is reported as one. -/
theorem assemble_by_shell {launch : Launch} {shell : String}
    (shellUsed : launch.UsesShell commands ∨ ∃ (p : Project) (overrides : Overrides),
      p.launch commands overrides = .ok launch ∧ overrides.NeedShell commands)
    (substituted : (Template.substituteAll capture bindings commands).run s = (.ok values, t)) :
    ((∀ text ∈ shell :: launch.virtualenv.toList ++ values, ¬HoldsNul text) →
      (launch.virtualenv = none →
        (launch.assemble capture shell bindings commands).run s =
          (.ok [shell, "-c", String.intercalate launch.separator.joiner values], t)) ∧
      ∀ virtualenv, launch.virtualenv = some virtualenv →
        ∃ quoted, quote? (activationScript virtualenv) = some quoted ∧
          split? (". " ++ quoted) = some [".", activationScript virtualenv] ∧
          (launch.assemble capture shell bindings commands).run s =
            (.ok [shell, "-c", ". " ++ quoted ++ " && " ++
              String.intercalate launch.separator.joiner values], t)) ∧
    ((∃ text ∈ shell :: launch.virtualenv.toList ++ values, HoldsNul text) →
      ∃ text, (launch.assemble capture shell bindings commands).run s =
        (.error (.unsplittable text), t)) ∧
    ∀ line, launch.line shell values = .ok line → (split? line).isSome = true := by
  have shellUsed : launch.UsesShell values := by
    apply usesShell_of_length (Template.length_substituteAll substituted)
    rcases shellUsed with shellUsed | ⟨p, overrides, launched, needed⟩
    · exact shellUsed
    · exact Project.usesShell_of_launch launched needed
  rw [assemble_of_substituted launch shell substituted]
  refine ⟨fun clean => ⟨fun unnamed => ?_, fun virtualenv named => ?_⟩, fun nul => ?_,
    fun line written => ?_⟩
  · rw [words_of_unnamed shellUsed unnamed clean]
  · obtain ⟨quoted, quotes, read⟩ := words_of_named shellUsed named clean
    exact ⟨quoted, quotes, split?_activation quotes, by rw [read]⟩
  · obtain ⟨text, failed⟩ := line_of_nul shellUsed nul
    exact ⟨text, by rw [words_of_line_error failed]⟩
  · by_cases nul : ∃ text ∈ shell :: launch.virtualenv.toList ++ values, HoldsNul text
    · obtain ⟨text, failed⟩ := line_of_nul shellUsed nul
      rw [failed] at written
      cases written
    · have clean : ∀ text ∈ shell :: launch.virtualenv.toList ++ values, ¬HoldsNul text :=
        fun text mem held => nul ⟨text, mem, held⟩
      cases named : launch.virtualenv with
      | none =>
        rw [split?_of_words_ok written (words_of_unnamed shellUsed named clean)]
        rfl
      | some virtualenv =>
        obtain ⟨quoted, _, read⟩ := words_of_named shellUsed named clean
        rw [split?_of_words_ok written read]
        rfl

/-- A virtualenv in a directory with a blank, a quote in a command and a `#` in a value. -/
theorem assemble_by_shell_spaced :
    (⟨false, .orElse, some "/my envs/py", false⟩ : Launch).UsesShell
        ["echo \"it's {url}\"", "true"] ∧
      ((⟨false, .orElse, some "/my envs/py", false⟩ : Launch).assemble (fun _ => pure "")
        "/bin/sh" (.ofList [("url", "U #1")]) ["echo \"it's {url}\"", "true"]).run () =
        (.ok ["/bin/sh", "-c",
          ". '/my envs/py/bin/activate' && echo \"it's U #1\" || true"], ()) := by
  have shellUsed : (⟨false, .orElse, some "/my envs/py", false⟩ : Launch).UsesShell
      ["echo \"it's {url}\"", "true"] := .inr (.inl (by decide))
  have first : Template.parse "echo \"it's {url}\"" =
      ⟨[.text "echo \"it's ", .directive (.atom (.name "url")), .text "\""]⟩ := by
    decide +kernel
  have second : Template.parse "true" = ⟨[.text "true"]⟩ := by decide +kernel
  have substituted : (Template.substituteAll (fun _ => pure "") (.ofList [("url", "U #1")])
      ["echo \"it's {url}\"", "true"]).run () = (.ok ["echo \"it's U #1\"", "true"], ()) := by
    rw [Template.substituteAll, Template.substituteAll, Template.substitute, Template.substitute,
      first, second]
    rfl
  have quotes : quote? (activationScript "/my envs/py") = some "'/my envs/py/bin/activate'" := by
    decide +kernel
  have clean : ∀ text ∈ "/bin/sh" :: (some "/my envs/py").toList ++
      ["echo \"it's U #1\"", "true"], ¬HoldsNul text := by
    unfold HoldsNul
    decide
  obtain ⟨_, named⟩ := (assemble_by_shell (.inl shellUsed) substituted).1 clean
  obtain ⟨quoted, written, _, result⟩ := named "/my envs/py" rfl
  rw [quotes] at written
  obtain rfl := Option.some.inj written
  exact ⟨shellUsed, result⟩

end Launch

end Fleet
