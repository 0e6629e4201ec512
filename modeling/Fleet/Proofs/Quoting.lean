import Fleet.Words.Quoting
import Fleet.Words.Splitting

/-!
# Quoted words are split back

`Words.quote?` cuts a word into chunks and writes each in a style of its own; `Words.split?` reads
a line character by character. Neither mentions the other. Here a chunk is read from the middle of
a word (`splitFrom_writeChunk`), so that chunks of different styles can follow each other, then a
word up to whatever follows it (`splitFrom_quoted`), then a whole line.

* `quote?_eq_none_iff`: the words that cannot be written are those with a NUL.
* `not_holdsNul_of_quote?`: what is written holds none either.
* `split?_of_join?`: splitting a line of quoted words gives the words back.
-/

namespace Fleet.Words

/-! ## Characters that need no quotes -/

/-- A bare character is read as itself, whatever position a word is in. -/
theorem isBare_not_special {c : Char} (bare : isBare c = true) :
    isSeparator c = false ∧ c ≠ '#' ∧ c ≠ '"' ∧ c ≠ '\'' ∧ c ≠ '\\' := by
  refine ⟨?_, ?_, ?_, ?_, ?_⟩
  · cases separator : isSeparator c with
    | false => rfl
    | true =>
      simp only [isSeparator, Bool.or_eq_true, beq_iff_eq] at separator
      rcases separator with (rfl | rfl) | rfl <;> exact absurd bare (by decide)
  all_goals
    rintro rfl
    exact absurd bare (by decide)

theorem splitFrom_bare_cons {c : Char} (bare : isBare c = true) (word rest : List Char) :
    splitFrom (.bare word) (c :: rest) = splitFrom (.bare (c :: word)) rest := by
  obtain ⟨separator, _, double, single, backslash⟩ := isBare_not_special bare
  rw [splitFrom, separator, afterBare, if_neg double, if_neg single, if_neg backslash]
  rfl

/-! ## Reading one chunk -/

theorem splitFrom_bare_append {chunk : List Char} (bare : ∀ c ∈ chunk, isBare c = true)
    (word rest : List Char) :
    splitFrom (.bare word) (chunk ++ rest) = splitFrom (.bare (chunk.reverse ++ word)) rest := by
  induction chunk generalizing word with
  | nil => rfl
  | cons c chunk ih =>
    rw [List.cons_append, splitFrom_bare_cons (bare c List.mem_cons_self),
      ih (fun d mem => bare d (List.mem_cons_of_mem _ mem)), List.reverse_cons,
      List.append_assoc]
    rfl

theorem splitFrom_single_append {chunk : List Char} (unquoted : '\'' ∉ chunk)
    (word rest : List Char) :
    splitFrom (.single word) (chunk ++ '\'' :: rest) =
      splitFrom (.bare (chunk.reverse ++ word)) rest := by
  induction chunk generalizing word with
  | nil =>
    rw [List.nil_append, splitFrom, if_pos rfl]
    rfl
  | cons c chunk ih =>
    have other : c ≠ '\'' := fun same => unquoted (same ▸ List.mem_cons_self)
    rw [List.cons_append, splitFrom, if_neg other,
      ih (fun mem => unquoted (List.mem_cons_of_mem _ mem)), List.reverse_cons,
      List.append_assoc]
    rfl

/-- Between double quotes a character is read back from the way it is written there. -/
theorem splitFrom_double_char (c : Char) (word rest : List Char) :
    splitFrom (.double word) (doubleQuoteChar c ++ rest) =
      splitFrom (.double (c :: word)) rest := by
  unfold doubleQuoteChar
  split
  · next escapes =>
    have escapable : isEscapable c = true := by
      simpa [isEscapable, or_assoc] using escapes
    rw [List.cons_append, List.cons_append, List.nil_append, splitFrom, afterDouble,
      if_neg (by decide), if_pos rfl, splitFrom, if_pos escapable]
  · next plain =>
    simp only [Bool.or_eq_true, decide_eq_true_eq, not_or] at plain
    rw [List.cons_append, List.nil_append, splitFrom, afterDouble, if_neg plain.1.2,
      if_neg plain.2]

theorem splitFrom_double_append (chunk word rest : List Char) :
    splitFrom (.double word) (chunk.flatMap doubleQuoteChar ++ '"' :: rest) =
      splitFrom (.bare (chunk.reverse ++ word)) rest := by
  induction chunk generalizing word with
  | nil =>
    rw [List.flatMap_nil, List.nil_append, splitFrom, afterDouble, if_pos rfl]
    rfl
  | cons c chunk ih =>
    rw [List.flatMap_cons, List.append_assoc, splitFrom_double_char, ih, List.reverse_cons,
      List.append_assoc]
    rfl

/-- What a chunk has to be like for a set of styles to be able to carry it. Between double quotes
every character can be read back. -/
def Styles.Carries (styles : Styles) (chunk : List Char) : Prop :=
  (styles.bare = true → ∀ c ∈ chunk, isBare c = true) ∧
    (styles.single = true → '\'' ∉ chunk)

/-- A chunk is read from the middle of a word, and what follows from the end of it. -/
theorem splitFrom_writeChunk {styles : Styles} {chunk : List Char}
    (carries : styles.Carries chunk) (word rest : List Char) :
    splitFrom (.bare word) (writeChunk styles chunk ++ rest) =
      splitFrom (.bare (chunk.reverse ++ word)) rest := by
  unfold writeChunk
  split
  · next bare => exact splitFrom_bare_append (carries.1 bare) word rest
  · split
    · next single =>
      have opening : splitFrom (.bare word) ('\'' :: (chunk ++ '\'' :: rest)) =
          splitFrom (.single word) (chunk ++ '\'' :: rest) := rfl
      rw [List.append_assoc, List.append_assoc]
      exact opening.trans (splitFrom_single_append (carries.2 single) word rest)
    · have opening :
          splitFrom (.bare word) ('"' :: (chunk.flatMap doubleQuoteChar ++ '"' :: rest)) =
            splitFrom (.double word) (chunk.flatMap doubleQuoteChar ++ '"' :: rest) := rfl
      rw [List.append_assoc, List.append_assoc]
      exact opening.trans (splitFrom_double_append chunk word rest)

/-! ## The chunks of a word -/

/-- The styles of a chunk carry its characters, together with those taken before. -/
theorem carries_takeChunk {styles : Styles} {before : List Char}
    (carries : styles.Carries before) (cs : List Char) :
    (takeChunk styles cs).2.1.Carries (before ++ (takeChunk styles cs).1) := by
  induction cs generalizing styles before with
  | nil => simpa [takeChunk] using carries
  | cons c rest ih =>
    rw [takeChunk]
    split
    · simpa using carries
    · have narrowed : (styles.inter (stylesOf c)).Carries (before ++ [c]) := by
        constructor
        · intro bare d mem
          simp only [Styles.inter, stylesOf, Bool.and_eq_true] at bare
          rcases List.mem_append.1 mem with mem | mem
          · exact carries.1 bare.1 d mem
          · rw [List.mem_singleton.1 mem]
            exact bare.2
        · intro single mem
          simp only [Styles.inter, stylesOf, Bool.and_eq_true, bne_iff_ne] at single
          rcases List.mem_append.1 mem with mem | mem
          · exact carries.2 single.1 mem
          · exact single.2.1.1 (List.mem_singleton.1 mem).symm
      have taken := ih narrowed
      rw [List.append_assoc] at taken
      exact taken

theorem carries_stylesOfFirst (c : Char) : (stylesOfFirst c).Carries [c] := by
  unfold stylesOfFirst
  split
  · next caret =>
    subst caret
    refine ⟨fun bare => ?_, fun _ => by decide⟩
    cases bare
  · constructor
    · intro bare d mem
      rw [List.mem_singleton.1 mem]
      exact bare
    · intro single mem
      simp only [stylesOf, Bool.and_eq_true, bne_iff_ne] at single
      exact single.1.1 (List.mem_singleton.1 mem).symm

theorem takeChunk_append (styles : Styles) (cs : List Char) :
    (takeChunk styles cs).1 ++ (takeChunk styles cs).2.2 = cs := by
  induction cs generalizing styles with
  | nil => rfl
  | cons c rest ih =>
    rw [takeChunk]
    split
    · rfl
    · exact congrArg (c :: ·) (ih _)

/-- The chunks of a text are read from the middle of a word. -/
theorem splitFrom_writeChunks (cs word rest : List Char) :
    splitFrom (.bare word) (writeChunks cs ++ rest) =
      splitFrom (.bare (cs.reverse ++ word)) rest := by
  induction cs using writeChunks.induct generalizing word with
  | case1 => rw [writeChunks, List.nil_append, List.reverse_nil, List.nil_append]
  | case2 c tail split ih =>
    have carries : split.2.1.Carries (c :: split.1) :=
      carries_takeChunk (carries_stylesOfFirst c) tail
    have parts : c :: tail = (c :: split.1) ++ split.2.2 :=
      congrArg (c :: ·) (takeChunk_append (stylesOfFirst c) tail).symm
    rw [writeChunks, List.append_assoc, splitFrom_writeChunk carries, ih, parts,
      List.reverse_append, List.append_assoc]

/-! ## Words and lines -/

theorem writeChunk_ne_nil {styles : Styles} {c : Char} {chunk : List Char}
    (carries : styles.Carries (c :: chunk)) :
    ∃ first rest, writeChunk styles (c :: chunk) = first :: rest ∧
      isSeparator first = false ∧ first ≠ '#' := by
  unfold writeChunk
  split
  · next bare =>
    obtain ⟨separator, comment, _⟩ :=
      isBare_not_special (carries.1 bare c List.mem_cons_self)
    exact ⟨c, chunk, rfl, separator, comment⟩
  · split
    · exact ⟨'\'', _, rfl, rfl, by decide⟩
    · exact ⟨'"', _, rfl, rfl, by decide⟩

/-- A written word starts with a character that opens a word. -/
theorem writeChunks_cons (c : Char) (cs : List Char) :
    ∃ first rest, writeChunks (c :: cs) = first :: rest ∧
      isSeparator first = false ∧ first ≠ '#' := by
  have carries := carries_takeChunk (carries_stylesOfFirst c) cs
  obtain ⟨first, rest, written, separator, comment⟩ := writeChunk_ne_nil carries
  refine ⟨first, rest ++ writeChunks (takeChunk (stylesOfFirst c) cs).2.2, ?_, separator,
    comment⟩
  rw [writeChunks]
  exact congrArg (· ++ writeChunks (takeChunk (stylesOfFirst c) cs).2.2) written

/-- A text with a NUL in it. -/
def HoldsNul (text : String) : Prop :=
  '\x00' ∈ text.toList

theorem holdsNul_append {a b : String} : HoldsNul (a ++ b) ↔ HoldsNul a ∨ HoldsNul b := by
  rw [HoldsNul, String.toList_append, List.mem_append]
  rfl

/-- A text put together from others holds a NUL if one of them does. -/
theorem holdsNul_intercalate {between : String} (clean : ¬HoldsNul between) (texts : List String) :
    HoldsNul (String.intercalate between texts) ↔ ∃ text ∈ texts, HoldsNul text := by
  induction texts with
  | nil => simp [HoldsNul]
  | cons text texts ih =>
    cases texts with
    | nil => simp
    | cons second texts =>
      rw [String.intercalate_cons_cons, holdsNul_append, holdsNul_append, ih, or_iff_left clean]
      simp only [List.mem_cons, exists_eq_or_imp]

/-- The words that cannot be written are those with a NUL. -/
theorem quote?_eq_none_iff {word : String} : quote? word = none ↔ HoldsNul word := by
  unfold quote? HoldsNul
  cases word.toList with
  | nil => simp
  | cons c cs => by_cases mem : '\x00' ∈ c :: cs <;> simp [mem]

theorem mem_writeChunk {styles : Styles} {chunk : List Char} {c : Char}
    (mem : c ∈ writeChunk styles chunk) : c ∈ chunk ∨ c = '\'' ∨ c = '"' ∨ c = '\\' := by
  unfold writeChunk at mem
  split at mem
  · exact .inl mem
  · split at mem
    · simp only [List.cons_append, List.nil_append, List.mem_cons, List.mem_append,
        List.not_mem_nil, or_false] at mem
      rcases mem with rfl | mem | rfl
      · exact .inr (.inl rfl)
      · exact .inl mem
      · exact .inr (.inl rfl)
    · simp only [List.cons_append, List.nil_append, List.mem_cons, List.mem_append,
        List.not_mem_nil, or_false, List.mem_flatMap] at mem
      rcases mem with rfl | ⟨d, inChunk, mem⟩ | rfl
      · exact .inr (.inr (.inl rfl))
      · unfold doubleQuoteChar at mem
        split at mem
        · simp only [List.mem_cons, List.not_mem_nil, or_false] at mem
          rcases mem with rfl | rfl
          · exact .inr (.inr (.inr rfl))
          · exact .inl inChunk
        · rw [List.mem_singleton.1 mem]
          exact .inl inChunk
      · exact .inr (.inr (.inl rfl))

theorem mem_writeChunks {cs : List Char} {c : Char} (mem : c ∈ writeChunks cs) :
    c ∈ cs ∨ c = '\'' ∨ c = '"' ∨ c = '\\' := by
  induction cs using writeChunks.induct with
  | case1 => exact .inl (by rwa [writeChunks] at mem)
  | case2 d tail split ih =>
    have parts : d :: tail = (d :: split.1) ++ split.2.2 :=
      congrArg (d :: ·) (takeChunk_append (stylesOfFirst d) tail).symm
    rw [writeChunks] at mem
    rw [parts]
    rcases List.mem_append.1 mem with mem | mem
    · exact (mem_writeChunk mem).imp_left (List.mem_append_left _)
    · exact (ih mem).imp_left (List.mem_append_right _)

/-- What is written holds no NUL. -/
theorem not_holdsNul_of_quote? {word quoted : String} (written : quote? word = some quoted) :
    ¬HoldsNul quoted := by
  intro nul
  have clean : ¬HoldsNul word := fun held => by
    rw [quote?_eq_none_iff.2 held] at written
    cases written
  unfold quote? at written
  dsimp only at written
  split at written
  · obtain rfl := Option.some.inj written
    exact absurd nul (by simp [HoldsNul])
  · split at written
    · cases written
    · obtain rfl := Option.some.inj written
      rw [HoldsNul, String.toList_ofList] at nul
      rcases mem_writeChunks nul with held | quote | quote | quote
      · exact clean held
      all_goals exact absurd quote (by decide)

/-- A quoted word is read up to whatever follows it. -/
theorem splitFrom_quoted {word quoted : String} (written : quote? word = some quoted)
    (rest : List Char) :
    splitFrom .between (quoted.toList ++ rest) =
      splitFrom (.bare word.toList.reverse) rest := by
  unfold quote? at written
  cases chars : word.toList with
  | nil =>
    simp only [chars] at written
    obtain rfl := Option.some.inj written
    rfl
  | cons c cs =>
    simp only [chars] at written
    split at written
    · next empty => cases empty
    · split at written
      · cases written
      · obtain rfl := Option.some.inj written
        obtain ⟨first, tail, shape, separator, comment⟩ := writeChunks_cons c cs
        have opening : splitFrom .between (writeChunks (c :: cs) ++ rest) =
            splitFrom (.bare []) (writeChunks (c :: cs) ++ rest) := by
          rw [shape, List.cons_append, splitFrom, splitFrom, separator, if_neg comment]
          rfl
        rw [String.toList_ofList, opening, splitFrom_writeChunks, List.append_nil]

theorem toWord_reverse (word : String) : toWord word.toList.reverse = word := by
  rw [toWord, List.reverse_reverse, String.ofList_toList]

/-- A quoted word that a blank ends is the first word of the line. -/
theorem splitFrom_quoted_blank {word quoted : String} (written : quote? word = some quoted)
    (rest : List Char) :
    splitFrom .between (quoted.toList ++ ' ' :: rest) =
      (splitFrom .between rest).map (word :: ·) := by
  rw [splitFrom_quoted written, splitFrom, if_pos (by decide), toWord_reverse]

/-- A quoted word is a line of one word. -/
theorem split?_of_quote? {word quoted : String} (written : quote? word = some quoted) :
    split? quoted = some [word] := by
  have read := splitFrom_quoted written []
  rw [List.append_nil] at read
  rw [split?, read, splitFrom, toWord_reverse]

/-- Quoted words with a blank between two are split back. -/
theorem split?_intercalate {words quoted : List String}
    (each : words.mapM quote? = some quoted) :
    split? (String.intercalate " " quoted) = some words := by
  induction words generalizing quoted with
  | nil =>
    rw [List.mapM_nil] at each
    obtain rfl := Option.some.inj each
    rfl
  | cons word words ih =>
    rw [List.mapM_cons] at each
    obtain ⟨first, firstQuoted, each⟩ := Option.bind_eq_some_iff.1 each
    obtain ⟨others, othersQuoted, same⟩ := Option.bind_eq_some_iff.1 each
    obtain rfl := Option.some.inj same
    have rest := ih othersQuoted
    cases words with
    | nil =>
      rw [List.mapM_nil] at othersQuoted
      obtain rfl := Option.some.inj othersQuoted
      rw [String.intercalate_singleton]
      exact split?_of_quote? firstQuoted
    | cons second words =>
      rw [List.mapM_cons] at othersQuoted
      obtain ⟨next, _, tail⟩ := Option.bind_eq_some_iff.1 othersQuoted
      obtain ⟨after, _, same⟩ := Option.bind_eq_some_iff.1 tail
      obtain rfl := Option.some.inj same
      rw [split?, String.intercalate_cons_cons, String.toList_append, String.toList_append,
        List.append_assoc]
      exact (splitFrom_quoted_blank firstQuoted _).trans (congrArg (Option.map (word :: ·)) rest)

/-- Splitting a line of quoted words gives the words back. -/
theorem split?_of_join? {words : List String} {line : String} (written : join? words = some line) :
    split? line = some words := by
  obtain ⟨quoted, each, rfl⟩ := Option.map_eq_some_iff.1 written
  exact split?_intercalate each

end Fleet.Words
