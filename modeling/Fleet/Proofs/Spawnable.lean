import Fleet.Proofs.ShellMode

/-!
# Command lines that can be spawned

A program is started from a list of words, the first of which names it; no word can hold a NUL.
The shell mode quotes all that goes into a command line, so what it assembles can be spawned.
The other mode splits the text of its command as it stands. A line that says nothing outside
comments has no words, and a NUL outside comments is in one of them: neither is a failure.

* `splitFrom_cons`: a line is read one character at a time.
* `passes`: what one character can do.
* `eq_nil_iff_of_splitFrom`, `holdsNul_iff_of_splitFrom`: which lines have no words, and which have
  a word with a NUL.
* `spawnable_of_assemble`: which command lines can be spawned.
-/

namespace Fleet

namespace Words

/-! ## One character of a line -/

namespace Position

/-- The position after one more character. -/
def next : Position → Char → Position
  | .between, c => if isSeparator c then .between else if c = '#' then .comment else afterBare [] c
  | .comment, c => if c = '\n' then .between else .comment
  | .bare word, c => if isSeparator c then .between else afterBare word c
  | .escaped word, c => .bare (if c = '\n' then word else c :: word)
  | .single word, c => if c = '\'' then .bare word else .single (c :: word)
  | .double word, c => afterDouble word c
  | .doubleEscaped word, c =>
    .double (if isEscapable c then c :: word else if c = '\n' then word else c :: '\\' :: word)

/-- The word that is being read, its last character first. -/
def pending : Position → Option (List Char)
  | .between | .comment => none
  | .bare word | .escaped word | .single word | .double word | .doubleEscaped word => some word

/-- The word that ends with one more character, if one does. -/
def ended : Position → Char → Option (List Char)
  | .bare word, c => if isSeparator c then some word else none
  | _, _ => none

end Position

open Position (next pending ended)

variable {p : Position} {c : Char} {cs : List Char} {words : List String}

/-- A line is read one character at a time. -/
theorem splitFrom_cons (p : Position) (c : Char) (rest : List Char) :
    splitFrom p (c :: rest) =
      (splitFrom (p.next c) rest).map (((p.ended c).map toWord).toList ++ ·) := by
  have unchanged : ∀ x : Option (List String), x = x.map (([] : List String) ++ ·) :=
    fun _ => Option.map_id'.symm
  cases p with
  | between =>
    refine Eq.trans ?_ (unchanged _)
    rw [splitFrom, next]
    split
    · rfl
    · split <;> rfl
  | bare word =>
    rw [splitFrom, next, ended]
    split
    · rfl
    · exact unchanged _
  | doubleEscaped word =>
    refine Eq.trans ?_ (unchanged _)
    rw [splitFrom, next]
    split
    · rfl
    · split <;> rfl
  | comment | escaped | single | double => exact unchanged _

/-- At the end of a line its last word ends. -/
theorem of_splitFrom_nil (read : splitFrom p [] = some words) :
    words = (p.pending.map toWord).toList := by
  cases p with
  | between | comment | bare =>
    cases read
    rfl
  | escaped | single | double | doubleEscaped => cases read

/-! ## What a line says -/

/-- The characters in no comment, read from a position. -/
def spokenFrom : Position → List Char → List Char
  | _, [] => []
  | p, c :: rest =>
    if p.next c = .comment then spokenFrom .comment rest else c :: spokenFrom (p.next c) rest

/-- The characters of a line that are in no comment. -/
def spoken (line : String) : List Char :=
  spokenFrom .between line.toList

theorem mem_spokenFrom_cons {d : Char} {rest : List Char} :
    d ∈ spokenFrom p (c :: rest) ↔
      (p.next c ≠ .comment ∧ d = c) ∨ d ∈ spokenFrom (p.next c) rest := by
  rw [spokenFrom]
  split
  · next silent => rw [silent, ne_eq, eq_self, not_true_eq_false, false_and, false_or]
  · next loud => rw [List.mem_cons, and_iff_right loud]

/-- What one more character can do: nothing, open a word, go on with one, or end one. -/
inductive Passes (p : Position) (c : Char) : Prop where
  | idle : p.pending = none → (p.next c).pending = none → p.ended c = none →
    (p.next c ≠ .comment → isSeparator c = true) → Passes p c
  | opens {begun : List Char} : p.pending = none → (p.next c).pending = some begun →
    p.ended c = none → isSeparator c = false → ('\x00' ∈ begun ↔ '\x00' = c) → Passes p c
  | goesOn {word onward : List Char} : p.pending = some word → (p.next c).pending = some onward →
    p.ended c = none → ('\x00' ∈ onward ↔ '\x00' ∈ word ∨ '\x00' = c) → Passes p c
  | ends {word : List Char} : p.pending = some word → p.next c = .between →
    p.ended c = some word → isSeparator c = true → Passes p c

theorem pending_afterBare (word : List Char) (c : Char) :
    ∃ onward, (afterBare word c).pending = some onward ∧
      ('\x00' ∈ onward ↔ '\x00' ∈ word ∨ '\x00' = c) := by
  unfold afterBare
  split
  · next quote => exact ⟨word, rfl, by simp [quote]⟩
  · split
    · next quote => exact ⟨word, rfl, by simp [quote]⟩
    · split
      · next backslash => exact ⟨word, rfl, by simp [backslash]⟩
      · exact ⟨c :: word, rfl, by rw [List.mem_cons, or_comm]⟩

theorem pending_afterDouble (word : List Char) (c : Char) :
    ∃ onward, (afterDouble word c).pending = some onward ∧
      ('\x00' ∈ onward ↔ '\x00' ∈ word ∨ '\x00' = c) := by
  unfold afterDouble
  split
  · next quote => exact ⟨word, rfl, by simp [quote]⟩
  · split
    · next backslash => exact ⟨word, rfl, by simp [backslash]⟩
    · exact ⟨c :: word, rfl, by rw [List.mem_cons, or_comm]⟩

theorem passes (p : Position) (c : Char) : Passes p c := by
  cases p with
  | between =>
    by_cases blank : isSeparator c = true
    · have stays : next .between c = .between := if_pos blank
      exact .idle rfl (by rw [stays]; rfl) rfl fun _ => blank
    · by_cases comment : c = '#'
      · have silent : next .between c = .comment := (if_neg blank).trans (if_pos comment)
        exact .idle rfl (by rw [silent]; rfl) rfl fun loud => absurd silent loud
      · have starts : next .between c = afterBare [] c := (if_neg blank).trans (if_neg comment)
        obtain ⟨begun, pending, nul⟩ := pending_afterBare [] c
        exact .opens rfl (by rw [starts]; exact pending) rfl (Bool.eq_false_iff.2 blank)
          (by rw [nul, or_iff_right List.not_mem_nil])
  | comment =>
    by_cases newline : c = '\n'
    · have stays : next .comment c = .between := if_pos newline
      exact .idle rfl (by rw [stays]; rfl) rfl fun _ => by rw [newline]; rfl
    · have silent : next .comment c = .comment := if_neg newline
      exact .idle rfl (by rw [silent]; rfl) rfl fun loud => absurd silent loud
  | bare word =>
    by_cases blank : isSeparator c = true
    · exact .ends rfl (if_pos blank) (if_pos blank) blank
    · have onward : next (.bare word) c = afterBare word c := if_neg blank
      obtain ⟨_, pending, nul⟩ := pending_afterBare word c
      exact .goesOn rfl (by rw [onward]; exact pending) (if_neg blank) nul
  | escaped word =>
    by_cases newline : c = '\n'
    · exact .goesOn rfl rfl rfl (by simp [newline])
    · exact .goesOn rfl rfl rfl (by rw [if_neg newline, List.mem_cons, or_comm])
  | single word =>
    by_cases quote : c = '\''
    · have closes : next (.single word) c = .bare word := if_pos quote
      exact .goesOn rfl (by rw [closes]; rfl) rfl (by simp [quote])
    · have onward : next (.single word) c = .single (c :: word) := if_neg quote
      exact .goesOn rfl (by rw [onward]; rfl) rfl (by rw [List.mem_cons, or_comm])
  | double word =>
    obtain ⟨_, pending, nul⟩ := pending_afterDouble word c
    exact .goesOn rfl pending rfl nul
  | doubleEscaped word =>
    refine .goesOn rfl rfl rfl ?_
    by_cases escapable : isEscapable c = true
    · rw [if_pos escapable, List.mem_cons, or_comm]
    · rw [if_neg escapable]
      by_cases newline : c = '\n'
      · simp [newline]
      · rw [if_neg newline, List.mem_cons, List.mem_cons, or_comm]
        simp

theorem next_ne_comment {onward : List Char} (pending : (p.next c).pending = some onward) :
    p.next c ≠ .comment := by
  intro silent
  rw [silent] at pending
  cases pending

/-- A line has no words just if nothing but blanks is outside its comments. -/
theorem eq_nil_iff_of_splitFrom (read : splitFrom p cs = some words) :
    words = [] ↔ p.pending = none ∧ ∀ c ∈ spokenFrom p cs, isSeparator c = true := by
  induction cs generalizing p words with
  | nil =>
    rw [of_splitFrom_nil read]
    cases p.pending <;> simp [spokenFrom]
  | cons c rest ih =>
    rw [splitFrom_cons] at read
    obtain ⟨others, onward, rfl⟩ := Option.map_eq_some_iff.1 read
    have ih := ih onward
    cases passes p c with
    | idle out stays nothing blank =>
      rw [nothing, Option.map_none, Option.toList_none, List.nil_append, ih, out, stays]
      refine and_congr_right fun _ => ⟨fun all d mem => ?_, fun all d mem => ?_⟩
      · rcases mem_spokenFrom_cons.1 mem with ⟨loud, rfl⟩ | mem
        · exact blank loud
        · exact all d mem
      · exact all d (mem_spokenFrom_cons.2 (.inr mem))
    | opens out begun nothing speaks =>
      rw [nothing, Option.map_none, Option.toList_none, List.nil_append, ih, begun]
      refine ⟨fun held => (nomatch held.1), fun held => ?_⟩
      have blank := held.2 c (mem_spokenFrom_cons.2 (.inl ⟨next_ne_comment begun, rfl⟩))
      rw [speaks] at blank
      cases blank
    | goesOn inside goes nothing =>
      rw [nothing, Option.map_none, Option.toList_none, List.nil_append, ih, goes, inside]
      exact ⟨fun held => (nomatch held.1), fun held => nomatch held.1⟩
    | ends inside _ closes =>
      rw [closes, inside]
      exact ⟨fun held => (nomatch held), fun held => nomatch held.1⟩

theorem holdsNul_toWord {word : List Char} : HoldsNul (toWord word) ↔ '\x00' ∈ word := by
  rw [HoldsNul, toWord, String.toList_ofList, List.mem_reverse]

/-- A line has a word with a NUL just if a NUL is outside its comments. -/
theorem holdsNul_iff_of_splitFrom (read : splitFrom p cs = some words) :
    (∃ word ∈ words, HoldsNul word) ↔
      '\x00' ∈ p.pending.getD [] ∨ '\x00' ∈ spokenFrom p cs := by
  induction cs generalizing p words with
  | nil =>
    rw [of_splitFrom_nil read]
    cases p.pending <;> simp [spokenFrom, holdsNul_toWord]
  | cons c rest ih =>
    rw [splitFrom_cons] at read
    obtain ⟨others, onward, rfl⟩ := Option.map_eq_some_iff.1 read
    have ih := ih onward
    rw [mem_spokenFrom_cons]
    cases passes p c with
    | idle out stays nothing blank =>
      have other : ¬(p.next c ≠ .comment ∧ '\x00' = c) := by
        rintro ⟨loud, rfl⟩
        exact absurd (blank loud) (by decide)
      rw [nothing, Option.map_none, Option.toList_none, List.nil_append, ih, out, stays,
        or_iff_right other]
    | opens out begun nothing speaks nul =>
      rw [nothing, Option.map_none, Option.toList_none, List.nil_append, ih, out, begun,
        Option.getD_some, Option.getD_none, or_iff_right List.not_mem_nil, nul,
        and_iff_right (next_ne_comment begun)]
    | goesOn inside goes nothing nul =>
      rw [nothing, Option.map_none, Option.toList_none, List.nil_append, ih, inside, goes,
        Option.getD_some, Option.getD_some, nul, and_iff_right (next_ne_comment goes), or_assoc]
    | ends inside between closes blank =>
      -- The word that ends is the pending one; the blank after it is no NUL.
      have other : ¬(p.next c ≠ .comment ∧ '\x00' = c) := by
        rintro ⟨_, rfl⟩
        exact absurd blank (by decide)
      rw [between, pending, Option.getD_none, or_iff_right List.not_mem_nil] at ih
      rw [closes, inside, or_iff_right other, between, ← ih, Option.map_some, Option.toList_some,
        List.singleton_append, Option.getD_some]
      simp only [List.mem_cons, exists_eq_or_imp, holdsNul_toWord]

end Words

open Words (HoldsNul isSeparator split? spoken)

/-- Whether a program can be started from the words: one names it, and none holds a NUL. -/
structure Spawnable (argv : List String) : Prop where
  program : argv ≠ []
  clean : ∀ word ∈ argv, ¬HoldsNul word

/-- The words of a line can be spawned if there is more than blanks outside comments, and no NUL. -/
theorem spawnable_iff_of_split? {line : String} {argv : List String}
    (read : split? line = some argv) :
    Spawnable argv ↔ (∃ c ∈ spoken line, isSeparator c = false) ∧ '\x00' ∉ spoken line := by
  have blank : argv = [] ↔ ∀ c ∈ spoken line, isSeparator c = true :=
    (Words.eq_nil_iff_of_splitFrom read).trans (and_iff_right rfl)
  have nul : (∃ word ∈ argv, HoldsNul word) ↔ '\x00' ∈ spoken line :=
    (Words.holdsNul_iff_of_splitFrom read).trans (or_iff_right List.not_mem_nil)
  constructor
  · rintro ⟨program, clean⟩
    refine ⟨Decidable.byContradiction fun silent => program (blank.2 fun c mem => ?_),
      fun mem => ?_⟩
    · cases held : isSeparator c with
      | true => rfl
      | false => exact absurd ⟨c, mem, held⟩ silent
    · obtain ⟨word, wordMem, held⟩ := nul.2 mem
      exact clean word wordMem held
  · rintro ⟨⟨c, mem, speaks⟩, clean⟩
    refine ⟨fun none => ?_, fun word wordMem held => clean (nul.1 ⟨word, wordMem, held⟩)⟩
    rw [blank.1 none c mem] at speaks
    cases speaks

namespace Launch

variable {σ : Type} {launch : Launch} {capture : Capture σ} {shell : String} {bindings : Bindings}
  {commands values argv : List String} {s t : σ}

/-- What is assembled for the shell can be spawned. -/
theorem spawnable_of_shell (shellUsed : launch.UsesShell values)
    (read : launch.words shell values = .ok argv) : Spawnable argv := by
  have written : ∃ line, launch.line shell values = .ok line := by
    cases failed : launch.line shell values with
    | ok line => exact ⟨line, rfl⟩
    | error e =>
      rw [words_of_line_error failed] at read
      cases read
  obtain ⟨line, written⟩ := written
  obtain ⟨first, activated, _⟩ := of_bind_ok (show _ >>= _ = _ from written)
  have clean : ¬(HoldsNul shell ∨ HoldsNul (launch.script first values)) := by
    intro nul
    obtain ⟨text, failed⟩ := line_of_holdsNul shellUsed activated nul
    rw [failed] at written
    cases written
  rw [not_or] at clean
  rw [words_of_shell shellUsed activated clean.1 clean.2] at read
  obtain rfl := Except.ok.inj read
  refine ⟨List.cons_ne_nil _ _, fun word mem => ?_⟩
  rcases List.mem_cons.1 mem with rfl | mem
  · exact clean.1
  · rcases List.mem_cons.1 mem with rfl | mem
    · unfold HoldsNul
      decide
    · rw [List.mem_singleton.1 mem]
      exact clean.2

/-- Without a shell the line is the command. -/
theorem line_of_not_usesShell {command : String} (direct : ¬launch.UsesShell [command]) :
    launch.line shell [command] = .ok command := by
  have unforced : launch.forceShell = false :=
    Bool.eq_false_iff.2 fun forced => direct (.inl forced)
  have unnamed : launch.virtualenv = none := by
    cases named : launch.virtualenv with
    | none => rfl
    | some virtualenv => exact absurd (.inr (.inr (by rw [named]; rfl))) direct
  rw [line, unnamed, unforced]
  rfl

/-- Which command lines can be spawned: those for the shell, and of the others those whose text
says more than blanks outside comments, and no NUL there. -/
theorem spawnable_of_assemble (given : commands ≠ [])
    (assembled : (launch.assemble capture shell bindings commands).run s = (.ok argv, t)) :
    ∃ values, (Template.substituteAll capture bindings commands).run s = (.ok values, t) ∧
      (Spawnable argv ↔ launch.UsesShell commands ∨ ∃ line, values = [line] ∧
        (∃ c ∈ spoken line, isSeparator c = false) ∧ '\x00' ∉ spoken line) := by
  obtain ⟨values, substituted, read⟩ := of_assemble_ok assembled
  have same := Template.length_substituteAll substituted
  refine ⟨values, substituted, ?_⟩
  by_cases shellUsed : launch.UsesShell commands
  · exact iff_of_true (spawnable_of_shell (usesShell_of_length same shellUsed) read) (.inl shellUsed)
  · rw [or_iff_right shellUsed]
    have single : values.length = 1 := by
      have several : ¬1 < commands.length := fun several => shellUsed (.inr (.inl several))
      have some := List.length_pos_iff.2 given
      omega
    obtain ⟨line, rfl⟩ := List.length_eq_one_iff.1 single
    have direct : ¬launch.UsesShell [line] :=
      fun held => shellUsed (usesShell_of_length same.symm held)
    rw [spawnable_iff_of_split? (split?_of_words_ok (line_of_not_usesShell direct) read)]
    exact ⟨fun speaks => ⟨line, rfl, speaks⟩,
      fun ⟨_, taken, speaks⟩ => List.singleton_inj.1 taken ▸ speaks⟩

/-- A value with a NUL, without the shell. -/
theorem spawnable_of_assemble_nul :
    (({} : Launch).assemble (fun _ => pure "") "/bin/sh" (.ofList [("x", "a\x00b")])
        ["echo {x}"]).run () = (.ok ["echo", "a\x00b"], ()) ∧
      ¬Spawnable ["echo", "a\x00b"] := by
  have parsed : Template.parse "echo {x}" = ⟨[.text "echo ", .directive (.atom (.name "x"))]⟩ := by
    decide +kernel
  have substituted : (Template.substituteAll (fun _ => pure "") (.ofList [("x", "a\x00b")])
      ["echo {x}"]).run () = (.ok ["echo a\x00b"], ()) := by
    rw [Template.substituteAll, Template.substituteAll, Template.substitute, parsed]
    rfl
  have read : ({} : Launch).words "/bin/sh" ["echo a\x00b"] = .ok ["echo", "a\x00b"] := by
    have parts : split? "echo a\x00b" = some ["echo", "a\x00b"] := by decide +kernel
    rw [words, line_of_not_usesShell (by simp [UsesShell])]
    simp only [bind, Except.bind, parts]
    rfl
  have assembled := assemble_of_substituted ({} : Launch) "/bin/sh" substituted
  rw [read] at assembled
  refine ⟨assembled, fun spawnable => ?_⟩
  obtain ⟨values, substituted', spawns⟩ := spawnable_of_assemble (List.cons_ne_nil _ _) assembled
  rw [substituted] at substituted'
  obtain rfl := Except.ok.inj (Prod.mk.inj substituted').1
  rcases spawns.1 spawnable with shellUsed | ⟨line, taken, _, clean⟩
  · exact absurd shellUsed (by simp [UsesShell])
  · obtain rfl := List.singleton_inj.1 taken
    exact clean (by decide +kernel)

end Launch

end Fleet
