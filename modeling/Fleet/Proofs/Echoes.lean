import Fleet.Proofs.Spans
import Fleet.Proofs.Spawnable

/-!
# Lines that are shown

The words of a command line are shown as one line, each of them quoted where it has to be. The line
is more than a picture of the words: it splits into them again. It can even be given as a command,
once the braces that would be directives there are doubled. Quotes bring no brace in and take none
out, so that whether a line closes its braces can be told from its words.

* `filter_quote?`, `leftOpen_display`: the braces of a line are those of its words.
* `split?_display`: splitting a line gives its words back.
* `Launch.assemble_display`: and so does assembling it.
-/

namespace Fleet

namespace Words

open Template (leftOpen depthAfter)

/-! ## Braces within quotes -/

/-- A brace. -/
def isBrace (c : Char) : Bool :=
  c == '{' || c == '}'

theorem filter_doubleQuoteChar (c : Char) :
    (doubleQuoteChar c).filter isBrace = [c].filter isBrace := by
  unfold doubleQuoteChar
  split
  · exact List.filter_cons_of_neg (by decide)
  · rfl

theorem filter_writeChunk (styles : Styles) (chunk : List Char) :
    (writeChunk styles chunk).filter isBrace = chunk.filter isBrace := by
  have single : ['\''].filter isBrace = [] := by decide
  have double : ['"'].filter isBrace = [] := by decide
  unfold writeChunk
  split
  · rfl
  · split
    · rw [List.filter_append, List.filter_append, single, List.nil_append, List.append_nil]
    · rw [List.filter_append, List.filter_append, double, List.nil_append, List.append_nil,
        List.filter_flatMap, funext filter_doubleQuoteChar, ← List.filter_flatMap,
        List.flatMap_singleton']

theorem filter_writeChunks (cs : List Char) :
    (writeChunks cs).filter isBrace = cs.filter isBrace := by
  induction cs using writeChunks.induct with
  | case1 => rw [writeChunks]
  | case2 c tail split ih =>
    have parts : c :: tail = (c :: split.1) ++ split.2.2 :=
      congrArg (c :: ·) (takeChunk_append (stylesOfFirst c) tail).symm
    rw [writeChunks, List.filter_append, filter_writeChunk, ih, ← List.filter_append, ← parts]

/-- The braces of a quoted word are those of the word. -/
theorem filter_quote? {word quoted : String} (written : quote? word = some quoted) :
    quoted.toList.filter isBrace = word.toList.filter isBrace := by
  unfold quote? at written
  dsimp only at written
  split at written
  · next empty =>
    obtain rfl := Option.some.inj written
    rw [List.isEmpty_iff.1 empty]
    decide
  · split at written
    · cases written
    · obtain rfl := Option.some.inj written
      rw [String.toList_ofList, filter_writeChunks]

/-- The blanks between texts are no braces. -/
theorem filter_intercalate (texts : List String) :
    (String.intercalate " " texts).toList.filter isBrace =
      (texts.flatMap String.toList).filter isBrace := by
  have blank : " ".toList.filter isBrace = [] := by decide
  induction texts with
  | nil => rfl
  | cons text rest ih =>
    cases rest with
    | nil => rw [String.intercalate_singleton, List.flatMap_singleton]
    | cons second rest =>
      rw [String.intercalate_cons_cons, String.toList_append, String.toList_append,
        List.filter_append, List.filter_append, ih, blank, List.append_nil,
        List.flatMap_cons (x := text), List.filter_append]

theorem filter_mapM_quote? {words quoted : List String} (each : words.mapM quote? = some quoted) :
    (quoted.flatMap String.toList).filter isBrace =
      (words.flatMap String.toList).filter isBrace := by
  induction words generalizing quoted with
  | nil =>
    rw [List.mapM_nil] at each
    obtain rfl := Option.some.inj each
    rfl
  | cons word words ih =>
    rw [List.mapM_cons] at each
    obtain ⟨first, firstQuoted, each⟩ := Option.bind_eq_some_iff.1 each
    obtain ⟨others, othersQuoted, same⟩ := Option.bind_eq_some_iff.1 each
    obtain rfl := Option.some.inj same
    rw [List.flatMap_cons, List.filter_append, filter_quote? firstQuoted, ih othersQuoted,
      List.flatMap_cons, List.filter_append]

/-- How many braces are open is a matter of the braces alone. -/
theorem leftOpen_filter (cs : List Char) : leftOpen (cs.filter isBrace) = leftOpen cs := by
  unfold leftOpen
  generalize 0 = depth
  induction cs generalizing depth with
  | nil => rfl
  | cons c rest ih =>
    by_cases brace : isBrace c = true
    · rw [List.filter_cons_of_pos brace, List.foldl_cons, List.foldl_cons, ih]
    · have plain : c ≠ '{' ∧ c ≠ '}' := by simpa [isBrace] using brace
      rw [List.filter_cons_of_neg brace, List.foldl_cons, ih, depthAfter, if_neg plain.1,
        if_neg plain.2]

/-! ## The words of a line -/

theorem exists_join? {words : List String} (clean : ∀ word ∈ words, ¬HoldsNul word) :
    ∃ line, join? words = some line := by
  suffices each : ∃ quoted, words.mapM quote? = some quoted by
    obtain ⟨quoted, each⟩ := each
    exact ⟨_, Option.map_eq_some_iff.2 ⟨quoted, each, rfl⟩⟩
  induction words with
  | nil => exact ⟨[], rfl⟩
  | cons word words ih =>
    obtain ⟨first, written⟩ :=
      Launch.exists_quote?_of_not_holdsNul (clean word List.mem_cons_self)
    obtain ⟨others, written'⟩ := ih fun other mem => clean other (List.mem_cons_of_mem word mem)
    exact ⟨first :: others, by rw [List.mapM_cons, written, written']; rfl⟩

theorem display_of_join? {words : List String} {line : String} (written : join? words = some line) :
    display words = line := by
  rw [display, written, Option.getD_some]

/-- Splitting a line gives its words back. -/
theorem split?_display {words : List String} (clean : ∀ word ∈ words, ¬HoldsNul word) :
    split? (display words) = some words := by
  obtain ⟨line, written⟩ := exists_join? clean
  rw [display_of_join? written]
  exact split?_of_join? written

/-- A line leaves as many braces open as its words do. -/
theorem leftOpen_display {words : List String} (clean : ∀ word ∈ words, ¬HoldsNul word) :
    leftOpen (display words).toList = leftOpen (words.flatMap String.toList) := by
  obtain ⟨line, written⟩ := exists_join? clean
  rw [display_of_join? written]
  obtain ⟨quoted, each, rfl⟩ := Option.map_eq_some_iff.1 written
  rw [← leftOpen_filter, filter_intercalate, filter_mapM_quote? each, leftOpen_filter]

end Words

/-! ## Lines as commands -/

namespace Template

/-- A text that leaves no brace open comes to itself if its outermost braces are doubled. -/
theorem substitute_doubled_eq_pure {σ : Type} (capture : Capture σ) (bindings : Bindings)
    {text : String} (shut : leftOpen text.toList = 0) :
    substitute capture bindings (doubled text) = pure text := by
  have kept : Template.print ⟨piecesOf text.toList⟩ = text :=
    String.toList_injective (print_piecesOf text.toList)
  rw [substitute, evaluate, parse, doubled, String.toList_ofList, piecesOf_doubledFrom shut,
    evaluatePieces_spelled, kept]

end Template

namespace Launch

open Template (leftOpen doubled)
open Words (HoldsNul display split?)

variable {σ : Type} {launch : Launch} {capture : Capture σ} {bindings : Bindings}
  {argv : List String} {text line : String}

/-- Without a shell, a single command comes to the words of its value. -/
theorem assemble_of_substitute (direct : ¬launch.UsesShell [text])
    (valued : Template.substitute capture bindings text = pure line)
    (read : split? line = some argv) (shell : String) :
    launch.assemble capture shell bindings [text] = pure argv := by
  have words : launch.words shell [line] = .ok argv := by
    have alone : ¬launch.UsesShell [line] := fun used => direct (usesShell_of_length rfl used)
    rw [Launch.words, bind_ok (line_of_not_usesShell alone), read]
    rfl
  funext s
  have substituted : (Template.substituteAll capture bindings [text]).run s = (.ok [line], s) := by
    rw [Template.substituteAll, Template.substituteAll, valued]
    rfl
  have assembled := assemble_of_substituted launch shell substituted
  rw [words] at assembled
  exact assembled

/-- The line that shows some words splits into them. It closes its braces if they do, and then,
with its outermost braces doubled, it is a command that comes to these words without a shell,
whatever names stand for, and no line is run for it. -/
theorem assemble_display (clean : ∀ word ∈ argv, ¬HoldsNul word) :
    split? (display argv) = some argv ∧
      leftOpen (display argv).toList = leftOpen (argv.flatMap String.toList) ∧
      (leftOpen (display argv).toList = 0 →
        ∀ {σ : Type} (capture : Capture σ) (shell : String) (bindings : Bindings) (launch : Launch)
          (s : σ), launch.forceShell = false → launch.virtualenv = none →
            (launch.assemble capture shell bindings [doubled (display argv)]).run s =
                (.ok argv, s) ∧
              (launch.assemble (recorded capture) shell bindings [doubled (display argv)]).run
                (s, []) = (.ok argv, s, [])) := by
  have read := Words.split?_display clean
  refine ⟨read, Words.leftOpen_display clean, ?_⟩
  intro shut σ capture shell bindings launch s unforced unnamed
  have direct : ∀ text, ¬launch.UsesShell [text] := by
    rintro text (forced | several | named)
    · rw [unforced] at forced
      cases forced
    · exact absurd several (Nat.lt_irrefl 1)
    · rw [unnamed] at named
      cases named
  have plain : ∀ {τ : Type} (capture : Capture τ),
      launch.assemble capture shell bindings [doubled (display argv)] = pure argv :=
    fun capture => assemble_of_substitute (direct _)
      (Template.substitute_doubled_eq_pure capture bindings shut) read shell
  rw [plain, plain]
  exact ⟨rfl, rfl⟩

/-- A word that is empty, quotes, backslashes, a line end, and words with braces. -/
def oddities : List String :=
  ["printf", "", "it's {a|b}", "\\n#", "$x", "{__shell__:rm {y}}", "\n", "\x7d^!"]

/-- The line that shows them, with two of its braces doubled. -/
theorem assemble_display_oddities :
    (∀ word ∈ oddities, ¬HoldsNul word) ∧ leftOpen (display oddities).toList = 0 ∧
      doubled (display oddities) =
        "printf '' \"it's {{a|b}}\" \"\\\\n#\" '$x' '{{__shell__:rm {y}}}' '\n' '\x7d''^!'" ∧
      (({} : Launch).assemble (recorded Template.numbering) "/bin/sh" (.ofList [("a", "1")])
          ["printf '' \"it's {{a|b}}\" \"\\\\n#\" '$x' '{{__shell__:rm {y}}}' '\n' '\x7d''^!'"]).run
        (0, []) = (.ok oddities, 0, []) := by
  have clean : ∀ word ∈ oddities, ¬HoldsNul word := by
    unfold HoldsNul
    decide +kernel
  have shut : leftOpen (display oddities).toList = 0 := by decide +kernel
  have twice : doubled (display oddities) =
      "printf '' \"it's {{a|b}}\" \"\\\\n#\" '$x' '{{__shell__:rm {y}}}' '\n' '\x7d''^!'" := by
    decide +kernel
  obtain ⟨-, -, back⟩ := assemble_display clean
  obtain ⟨-, ran⟩ :=
    back shut Template.numbering "/bin/sh" (.ofList [("a", "1")]) {} 0 rfl rfl
  rw [twice] at ran
  exact ⟨clean, shut, twice, ran⟩

end Launch

end Fleet
