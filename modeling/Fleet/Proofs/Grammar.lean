import Fleet.Proofs.Braces
import Mathlib.Data.List.TakeWhile

/-!
# The grammar of directives

What stands between the outermost braces of a directive decides its form, and the forms are tried
in a fixed order: an escape, a command, a chain, a name, and what is left is invalid. Here each
form is described by itself, by the texts that are written for it.

* `isName_iff`: names are what their pattern describes.
* `segmented_segments`, `segments_intercalate`: how the alternatives of a chain are told apart.
* `formed_iff`: the directives that are read are the well-formed ones.
* `print_ofInner`: a directive is written as the text it was read from.
-/

namespace Fleet

namespace Template

/-! ## Names -/

/-- A letter of the Latin alphabet without diacritics. -/
def IsLetter (c : Char) : Prop :=
  ('A' ≤ c ∧ c ≤ 'Z') ∨ ('a' ≤ c ∧ c ≤ 'z')

/-- A text of the form `\$?[A-Za-z_][A-Za-z0-9_.-]*`. -/
def NamePattern (cs : List Char) : Prop :=
  ∃ tag first rest, cs = tag ++ first :: rest ∧ (tag = [] ∨ tag = ['$']) ∧
    (IsLetter first ∨ first = '_') ∧
    ∀ c ∈ rest, IsLetter c ∨ ('0' ≤ c ∧ c ≤ '9') ∨ c = '_' ∨ c = '.' ∨ c = '-'

theorem isAlpha_iff (c : Char) : c.isAlpha = true ↔ IsLetter c := by
  have parts : c.isAlpha = (decide ('A' ≤ c ∧ c ≤ 'Z') || (decide ('a' ≤ c) && decide (c ≤ 'z'))) :=
    rfl
  rw [parts, Bool.or_eq_true, Bool.and_eq_true, decide_eq_true_eq, decide_eq_true_eq,
    decide_eq_true_eq, IsLetter]

theorem isNameStart_iff (c : Char) : isNameStart c = true ↔ IsLetter c ∨ c = '_' := by
  rw [isNameStart, Bool.or_eq_true, isAlpha_iff, beq_iff_eq]

theorem isNameRest_iff (c : Char) :
    isNameRest c = true ↔
      IsLetter c ∨ ('0' ≤ c ∧ c ≤ '9') ∨ c = '_' ∨ c = '.' ∨ c = '-' := by
  have parts : c.isAlphanum = (c.isAlpha || (decide ('0' ≤ c) && decide (c ≤ '9'))) := rfl
  simp only [isNameRest, parts, Bool.or_eq_true, Bool.and_eq_true, decide_eq_true_eq, isAlpha_iff,
    beq_iff_eq, or_assoc]

theorem isPlainName_iff (cs : List Char) :
    isPlainName cs = true ↔ ∃ first rest, cs = first :: rest ∧ (IsLetter first ∨ first = '_') ∧
      ∀ c ∈ rest, IsLetter c ∨ ('0' ≤ c ∧ c ≤ '9') ∨ c = '_' ∨ c = '.' ∨ c = '-' := by
  cases cs with
  | nil => exact iff_of_false Bool.false_ne_true fun ⟨_, _, same, _⟩ => nomatch same
  | cons first rest =>
    rw [isPlainName, Bool.and_eq_true, List.all_eq_true, isNameStart_iff]
    constructor
    · rintro ⟨starts, goesOn⟩
      exact ⟨first, rest, rfl, starts, fun c mem => (isNameRest_iff c).1 (goesOn c mem)⟩
    · rintro ⟨_, _, same, starts, goesOn⟩
      obtain ⟨rfl, rfl⟩ := List.cons.inj same
      exact ⟨starts, fun c mem => (isNameRest_iff c).2 (goesOn c mem)⟩

/-- Names are what their pattern describes. -/
theorem isName_iff (cs : List Char) : isName cs = true ↔ NamePattern cs := by
  unfold isName
  split
  · next rest =>
    rw [isPlainName_iff]
    constructor
    · rintro ⟨first, others, rfl, plain⟩
      exact ⟨['$'], first, others, rfl, .inr rfl, plain⟩
    · rintro ⟨tag, first, others, same, rfl | rfl, starts, goesOn⟩
      · -- a tag is not a character that a name may start with
        obtain ⟨rfl, -⟩ := List.cons.inj same
        exact absurd starts (by unfold IsLetter; decide)
      · exact ⟨first, others, (List.cons.inj same).2, starts, goesOn⟩
  · next untagged =>
    rw [isPlainName_iff]
    constructor
    · rintro ⟨first, others, rfl, plain⟩
      exact ⟨[], first, others, rfl, .inl rfl, plain⟩
    · rintro ⟨tag, first, others, rfl, rfl | rfl, plain⟩
      · exact ⟨first, others, rfl, plain⟩
      · exact absurd rfl (untagged _)

/-- No character with a meaning of its own occurs in a name. -/
theorem not_mem_of_namePattern {cs : List Char} (name : NamePattern cs) {c : Char}
    (special : c = '{' ∨ c = '|' ∨ c = ':') : c ∉ cs := by
  obtain ⟨tag, first, rest, rfl, tagged, starts, goesOn⟩ := name
  intro mem
  rcases List.mem_append.1 mem with inTag | inPlain
  · rcases tagged with rfl | rfl
    · cases inTag
    · rw [List.mem_singleton.1 inTag] at special
      revert special
      decide
  · rcases List.mem_cons.1 inPlain with rfl | inRest
    · unfold IsLetter at starts
      rcases special with rfl | rfl | rfl <;> revert starts <;> decide
    · have part := goesOn c inRest
      unfold IsLetter at part
      rcases special with rfl | rfl | rfl <;> revert part <;> decide

/-! ## Escapes and commands -/

/-- A text that has braces of its own at both ends. -/
def IsEscape (inner : List Char) : Prop :=
  inner.head? = some '{' ∧ inner.getLast? = some '}'

instance (inner : List Char) : Decidable (IsEscape inner) :=
  inferInstanceAs (Decidable (_ ∧ _))

/-- The two ends are two characters. -/
theorem isEscape_iff (inner : List Char) :
    (2 ≤ inner.length && inner.head? == some '{' && inner.getLast? == some '}') = true ↔
      IsEscape inner := by
  rw [Bool.and_eq_true, Bool.and_eq_true, decide_eq_true_eq, beq_iff_eq, beq_iff_eq, IsEscape,
    and_assoc]
  refine and_iff_right_of_imp fun ⟨first, last⟩ => ?_
  match inner, first, last with
  | [c], first, last => exact absurd (first.symm.trans last) (by decide)
  | _ :: _ :: _, _, _ => exact Nat.le_add_left 2 _

theorem not_isEscape_of_not_mem {inner : List Char} (absent : '{' ∉ inner) : ¬IsEscape inner :=
  fun escape => absent (List.mem_of_head? escape.1)

/-- A command begins with its mark, and so not with a brace. -/
theorem not_isEscape_of_command {inner : List Char} (command : commandMark <+: inner) :
    ¬IsEscape inner := by
  obtain ⟨line, rfl⟩ := command
  intro escape
  have first : (commandMark ++ line).head? = some '_' := rfl
  exact absurd (first.symm.trans escape.1) (by decide)

theorem not_command_of_namePattern {cs : List Char} (name : NamePattern cs) :
    ¬commandMark <+: cs := by
  intro command
  have mem : ':' ∈ commandMark := by decide
  exact not_mem_of_namePattern name (.inr (.inr rfl)) (command.subset mem)

/-- Whether a chain begins with a mark is up to its first segment. -/
theorem command_of_append {segment rest : List Char}
    (command : commandMark <+: segment ++ '|' :: rest) : commandMark <+: segment := by
  rcases Nat.lt_or_ge segment.length commandMark.length with longer | shorter
  · have separated : segment ++ ['|'] <+: commandMark :=
      List.prefix_of_prefix_length_le ⟨rest, by rw [List.append_assoc]; rfl⟩ command
        (by rw [List.length_append]; exact longer)
    have mem : '|' ∈ commandMark := separated.subset (List.mem_append_right _ List.mem_cons_self)
    exact absurd mem (by decide)
  · exact List.prefix_of_prefix_length_le command (List.prefix_append _ _) shorter

/-! ## Segments of a chain -/

/-- The sources of a chain. Only the last may be a command, and only a command may hold the
separator. -/
structure Segmented (sources : List (List Char)) : Prop where
  before : ∀ source ∈ sources.dropLast, '|' ∉ source ∧ ¬commandMark <+: source
  last : ∀ source ∈ sources.getLast?, '|' ∈ source → commandMark <+: source

instance (sources : List (List Char)) : Decidable (Segmented sources) :=
  decidable_of_iff ((∀ source ∈ sources.dropLast, '|' ∉ source ∧ ¬commandMark <+: source) ∧
    ∀ source ∈ sources.getLast?, '|' ∈ source → commandMark <+: source)
    ⟨fun ⟨before, last⟩ => ⟨before, last⟩, fun ⟨before, last⟩ => ⟨before, last⟩⟩

/-- A source that holds the separator is a command, as only the last does. -/
theorem Segmented.command_of_bar {sources : List (List Char)} (segmented : Segmented sources)
    {source : List Char} (mem : source ∈ sources) (bar : '|' ∈ source) :
    commandMark <+: source := by
  rcases List.eq_nil_or_concat sources with rfl | ⟨before, last, rfl⟩
  · cases mem
  · rw [List.concat_eq_append] at segmented mem
    rcases List.mem_append.1 mem with early | late
    · exact absurd bar (segmented.before source (by rwa [List.dropLast_concat])).1
    · obtain rfl := List.mem_singleton.1 late
      exact segmented.last source (by rw [List.getLast?_concat]; rfl) bar

theorem segmented_singleton {source : List Char}
    (last : '|' ∈ source → commandMark <+: source) : Segmented [source] := by
  refine ⟨fun _ mem => absurd mem List.not_mem_nil, fun other mem => ?_⟩
  obtain rfl := Option.some.inj (Option.mem_def.1 mem)
  exact last

theorem segmented_cons_cons (source next : List Char) (rest : List (List Char)) :
    Segmented (source :: next :: rest) ↔
      ('|' ∉ source ∧ ¬commandMark <+: source) ∧ Segmented (next :: rest) := by
  constructor
  · rintro ⟨before, last⟩
    refine ⟨before source List.mem_cons_self, fun other mem => before other ?_, fun other mem => ?_⟩
    · exact List.mem_cons_of_mem _ mem
    · exact last other (by rwa [List.getLast?_cons_cons])
  · rintro ⟨first, before, last⟩
    refine ⟨fun other mem => ?_, fun other mem => last other ?_⟩
    · rcases List.mem_cons.1 mem with rfl | mem
      · exact first
      · exact before other mem
    · rwa [List.getLast?_cons_cons] at mem

theorem segments_of_last {cs : List Char} (last : '|' ∈ cs → commandMark <+: cs) :
    segments cs = [cs] := by
  rw [segments]
  split
  · rfl
  · next plain =>
    have none : '|' ∉ cs := fun mem => plain (List.isPrefixOf_iff_prefix.2 (last mem))
    have empty : cs.dropWhile (· ≠ '|') = [] := by
      rw [List.dropWhile_eq_nil_iff]
      intro c mem
      exact decide_eq_true fun same => none (same ▸ mem)
    split
    · rfl
    · next more =>
      rw [empty] at more
      cases more

theorem segments_append {segment : List Char} (whole : '|' ∉ segment)
    (plain : ¬commandMark <+: segment) (rest : List Char) :
    segments (segment ++ '|' :: rest) = segment :: segments rest := by
  have goesOn : ∀ c ∈ segment, decide (c ≠ '|') = true := fun c mem =>
    decide_eq_true fun same => whole (same ▸ mem)
  have taken : (segment ++ '|' :: rest).takeWhile (· ≠ '|') = segment := by
    rw [List.takeWhile_append_of_pos goesOn, List.takeWhile_cons_of_neg (by decide),
      List.append_nil]
  have left : (segment ++ '|' :: rest).dropWhile (· ≠ '|') = '|' :: rest := by
    rw [List.dropWhile_append_of_pos goesOn, List.dropWhile_cons_of_neg (by decide)]
  rw [segments, if_neg fun command => plain (command_of_append (List.isPrefixOf_iff_prefix.1 command))]
  split
  · next none =>
    rw [left] at none
    cases none
  · next more =>
    rw [left] at more
    obtain ⟨-, rfl⟩ := List.cons.inj more
    rw [taken]

/-- A text is a last segment, or a segment before others. -/
theorem last_or_append (cs : List Char) :
    ('|' ∈ cs → commandMark <+: cs) ∨
      ∃ segment rest, cs = segment ++ '|' :: rest ∧ '|' ∉ segment ∧ ¬commandMark <+: segment := by
  by_cases command : commandMark <+: cs
  · exact .inl fun _ => command
  · by_cases mem : '|' ∈ cs
    · obtain ⟨segment, rest, rfl, whole⟩ := List.eq_append_cons_of_mem mem
      exact .inr ⟨segment, rest, rfl, whole, fun mark => command (mark.trans (List.prefix_append ..))⟩
    · exact .inl fun there => absurd there mem

/-- Induction along the segments of a text. -/
@[elab_as_elim]
theorem segments_induction {motive : List Char → Prop}
    (last : ∀ cs, ('|' ∈ cs → commandMark <+: cs) → motive cs)
    (append : ∀ segment rest, '|' ∉ segment → ¬commandMark <+: segment → motive rest →
      motive (segment ++ '|' :: rest)) (cs : List Char) : motive cs := by
  rcases last_or_append cs with isLast | ⟨segment, rest, same, whole, plain⟩
  · exact last cs isLast
  · rw [same]
    exact append segment rest whole plain (segments_induction last append rest)
termination_by cs.length
decreasing_by
  rw [same, List.length_append, List.length_cons]
  omega

theorem segments_ne_nil (cs : List Char) : segments cs ≠ [] := by
  rcases last_or_append cs with last | ⟨segment, rest, rfl, whole, plain⟩
  · rw [segments_of_last last]
    exact List.cons_ne_nil _ _
  · rw [segments_append whole plain]
    exact List.cons_ne_nil _ _

/-- The segments and the separators between them make up the text. -/
theorem intercalate_segments (cs : List Char) : ['|'].intercalate (segments cs) = cs := by
  induction cs using segments_induction with
  | last cs last => rw [segments_of_last last, List.intercalate_singleton]
  | append segment rest whole plain ih =>
    rw [segments_append whole plain, List.intercalate_cons_of_ne_nil (segments_ne_nil rest), ih,
      List.append_assoc]
    rfl

theorem segmented_segments (cs : List Char) : Segmented (segments cs) := by
  induction cs using segments_induction with
  | last cs last =>
    rw [segments_of_last last]
    exact segmented_singleton last
  | append segment rest whole plain ih =>
    rw [segments_append whole plain]
    obtain ⟨next, others, shape⟩ := List.exists_cons_of_ne_nil (segments_ne_nil rest)
    rw [shape] at ih ⊢
    exact (segmented_cons_cons ..).2 ⟨⟨whole, plain⟩, ih⟩

/-- A chain has two segments at least. -/
theorem two_le_length_segments {cs : List Char} (mem : '|' ∈ cs) (plain : ¬commandMark <+: cs) :
    2 ≤ (segments cs).length := by
  rcases last_or_append cs with last | ⟨segment, rest, rfl, whole, first⟩
  · exact absurd (last mem) plain
  · rw [segments_append whole first, List.length_cons]
    have more := List.length_pos_iff.2 (segments_ne_nil rest)
    omega

/-- Sources that are told apart are read back from the chain that is written for them. -/
theorem segments_intercalate {sources : List (List Char)} (nonempty : sources ≠ [])
    (segmented : Segmented sources) : segments (['|'].intercalate sources) = sources := by
  induction sources with
  | nil => exact absurd rfl nonempty
  | cons source rest ih =>
    cases rest with
    | nil =>
      rw [List.intercalate_singleton]
      exact segments_of_last (segmented.last source rfl)
    | cons next rest =>
      obtain ⟨⟨whole, plain⟩, others⟩ := (segmented_cons_cons ..).1 segmented
      rw [List.intercalate_cons_cons, List.append_assoc, List.singleton_append,
        segments_append whole plain, ih (List.cons_ne_nil _ _) others]

/-- A chain of several segments holds a separator and does not begin with a mark. -/
theorem chain_of_segmented {sources : List (List Char)} (several : 2 ≤ sources.length)
    (segmented : Segmented sources) :
    '|' ∈ ['|'].intercalate sources ∧ ¬commandMark <+: ['|'].intercalate sources := by
  match sources, several with
  | source :: next :: rest, _ =>
    obtain ⟨⟨whole, plain⟩, -⟩ := (segmented_cons_cons ..).1 segmented
    rw [List.intercalate_cons_cons, List.append_assoc, List.singleton_append]
    exact ⟨List.mem_append_right _ List.mem_cons_self, fun command => plain (command_of_append command)⟩

end Template

/-! ## Atoms -/

open Template (commandMark NamePattern IsEscape Segmented)

/-- What a text stands for by itself. -/
inductive Atom.Reads : String → Atom → Prop where
  | command (line : String) : Reads (String.ofList commandMark ++ line) (.command line)
  | name {key : String} (pattern : NamePattern key.toList) : Reads key (.name key)
  | invalid {source : String} (notCommand : ¬commandMark <+: source.toList)
      (notName : ¬NamePattern source.toList) :
      Reads source (.invalid ("\x7b" ++ source ++ "\x7d"))

theorem toList_braced (s : String) : ("\x7b" ++ s ++ "\x7d").toList = '{' :: (s.toList ++ ['}']) := by
  rw [String.toList_append, String.toList_append]
  rfl

theorem ofList_braced (cs : List Char) :
    String.ofList (['{'] ++ cs ++ ['}']) = "\x7b" ++ String.ofList cs ++ "\x7d" := by
  rw [← String.toList_inj, toList_braced, String.toList_ofList, String.toList_ofList]
  rfl

namespace Atom

theorem ofChars_of_command (line : List Char) :
    ofChars (commandMark ++ line) = .command (String.ofList line) := by
  rw [ofChars, if_pos (List.isPrefixOf_iff_prefix.2 (List.prefix_append ..)), List.drop_left]

theorem ofChars_of_name {cs : List Char} (name : NamePattern cs) :
    ofChars cs = .name (String.ofList cs) := by
  rw [ofChars, if_neg fun command =>
    Template.not_command_of_namePattern name (List.isPrefixOf_iff_prefix.1 command),
    if_pos ((Template.isName_iff cs).2 name)]

theorem ofChars_of_invalid {cs : List Char} (notCommand : ¬commandMark <+: cs)
    (notName : ¬NamePattern cs) :
    ofChars cs = .invalid ("\x7b" ++ String.ofList cs ++ "\x7d") := by
  rw [ofChars, if_neg fun command => notCommand (List.isPrefixOf_iff_prefix.1 command),
    if_neg fun name => notName ((Template.isName_iff cs).1 name), ofList_braced]

/-- Every text stands for one atom, the one that is read. -/
theorem reads_iff {source : String} {a : Atom} : Reads source a ↔ a = ofChars source.toList := by
  constructor
  · intro reads
    cases reads with
    | command line =>
      rw [String.toList_append, String.toList_ofList, ofChars_of_command, String.ofList_toList]
    | name pattern => rw [ofChars_of_name pattern, String.ofList_toList]
    | invalid notCommand notName =>
      rw [ofChars_of_invalid notCommand notName, String.ofList_toList]
  · rintro rfl
    by_cases command : commandMark <+: source.toList
    · obtain ⟨line, whole⟩ := command
      have same : source = String.ofList commandMark ++ String.ofList line := by
        rw [← String.toList_inj, ← whole, String.toList_append, String.toList_ofList,
          String.toList_ofList]
      rw [← whole, ofChars_of_command, same]
      exact .command _
    · by_cases name : NamePattern source.toList
      · rw [ofChars_of_name name, String.ofList_toList]
        exact .name name
      · rw [ofChars_of_invalid command name, String.ofList_toList]
        exact .invalid command name

/-- The source of a command begins with the mark. -/
theorem Reads.marked {source line : String} (reads : Reads source (.command line)) :
    commandMark <+: source.toList := by
  cases reads with
  | command =>
    rw [String.toList_append, String.toList_ofList]
    exact List.prefix_append ..

theorem Reads.namePattern {source key : String} (reads : Reads source (.name key)) :
    NamePattern key.toList := by
  cases reads with
  | name pattern => exact pattern

/-- An atom is written as its source between braces. -/
theorem Reads.print {source : String} {a : Atom} (reads : Reads source a) :
    a.print = "\x7b" ++ source ++ "\x7d" := by
  cases reads with
  | command line => rw [Atom.print, ← String.append_assoc]
  | name => rfl
  | invalid => rfl

end Atom

/-! ## Directives -/

/-- The directives that are read from between two braces. -/
inductive Directive.Formed : Directive → Prop where
  | escape {inner : String} (form : IsEscape inner.toList) : Formed (.escape inner)
  | command (line : String) : Formed (.atom (.command line))
  | name {key : String} (pattern : NamePattern key.toList) : Formed (.atom (.name key))
  | chain {alternatives : List Alternative} (several : 2 ≤ alternatives.length)
      (segmented : Segmented (alternatives.map fun a => a.source.toList))
      (reads : ∀ a ∈ alternatives, Atom.Reads a.source a.atom)
      (notEscape : ¬IsEscape (Alternative.printAll alternatives).toList) :
      Formed (.chain alternatives)
  | invalid {inner : String} (notEscape : ¬IsEscape inner.toList)
      (notCommand : ¬commandMark <+: inner.toList) (notChain : '|' ∉ inner.toList)
      (notName : ¬NamePattern inner.toList) :
      Formed (.atom (.invalid ("\x7b" ++ inner ++ "\x7d")))

theorem Alternative.toList_printAll (alternatives : List Alternative) :
    (printAll alternatives).toList =
      ['|'].intercalate (alternatives.map fun a => a.source.toList) := by
  rw [printAll, String.toList_intercalate, List.map_map]
  rfl

theorem Alternative.source_ofChars (cs : List Char) : (ofChars cs).source.toList = cs :=
  String.toList_ofList

theorem Alternative.reads_ofChars (cs : List Char) :
    Atom.Reads (ofChars cs).source (ofChars cs).atom := by
  rw [Atom.reads_iff, source_ofChars]
  rfl

theorem Alternative.eq_ofChars {a : Alternative} (reads : Atom.Reads a.source a.atom) :
    a = ofChars a.source.toList := by
  rw [ofChars, ← Atom.reads_iff.1 reads, String.ofList_toList]

namespace Directive

/-! The forms that are tried, in order. -/

theorem ofInner_of_escape {inner : List Char} (escape : IsEscape inner) :
    ofInner inner = .escape (String.ofList inner) := by
  rw [ofInner, if_pos ((Template.isEscape_iff inner).2 escape)]

theorem ofInner_of_command {inner : List Char} (command : commandMark <+: inner) :
    ofInner inner = .atom (Atom.ofChars inner) := by
  rw [ofInner, if_neg fun escape =>
    Template.not_isEscape_of_command command ((Template.isEscape_iff inner).1 escape),
    if_pos (List.isPrefixOf_iff_prefix.2 command)]

theorem ofInner_of_chain {inner : List Char} (notEscape : ¬IsEscape inner)
    (notCommand : ¬commandMark <+: inner) (chain : '|' ∈ inner) :
    ofInner inner = .chain ((Template.segments inner).map Alternative.ofChars) := by
  rw [ofInner, if_neg fun escape => notEscape ((Template.isEscape_iff inner).1 escape),
    if_neg fun command => notCommand (List.isPrefixOf_iff_prefix.1 command),
    if_pos (List.contains_iff_mem.2 chain)]

theorem ofInner_of_single {inner : List Char} (notEscape : ¬IsEscape inner)
    (notCommand : ¬commandMark <+: inner) (single : '|' ∉ inner) :
    ofInner inner = .atom (Atom.ofChars inner) := by
  rw [ofInner, if_neg fun escape => notEscape ((Template.isEscape_iff inner).1 escape),
    if_neg fun command => notCommand (List.isPrefixOf_iff_prefix.1 command),
    if_neg fun chain => single (List.contains_iff_mem.1 chain)]

theorem formed_ofInner (inner : List Char) : (ofInner inner).Formed := by
  by_cases escape : IsEscape inner
  · rw [ofInner_of_escape escape]
    exact .escape (by rwa [String.toList_ofList])
  by_cases command : commandMark <+: inner
  · rw [ofInner_of_command command]
    obtain ⟨line, rfl⟩ := command
    rw [Atom.ofChars_of_command]
    exact .command _
  by_cases chain : '|' ∈ inner
  · rw [ofInner_of_chain escape command chain]
    have sources : ((Template.segments inner).map Alternative.ofChars).map
        (fun a => a.source.toList) = Template.segments inner := by
      rw [List.map_map]
      exact List.map_id'' Alternative.source_ofChars _
    refine .chain ?_ ?_ ?_ ?_
    · rw [List.length_map]
      exact Template.two_le_length_segments chain command
    · rw [sources]
      exact Template.segmented_segments inner
    · intro a mem
      obtain ⟨segment, -, rfl⟩ := List.mem_map.1 mem
      exact Alternative.reads_ofChars segment
    · rwa [Alternative.toList_printAll, sources, Template.intercalate_segments]
  · rw [ofInner_of_single escape command chain]
    by_cases name : NamePattern inner
    · rw [Atom.ofChars_of_name name]
      exact .name (by rwa [String.toList_ofList])
    · rw [Atom.ofChars_of_invalid command name]
      exact .invalid (by rwa [String.toList_ofList]) (by rwa [String.toList_ofList])
        (by rwa [String.toList_ofList]) (by rwa [String.toList_ofList])

theorem Formed.eq_ofInner {d : Directive} (formed : d.Formed) : ∃ inner, d = ofInner inner := by
  cases formed with
  | @escape inner form =>
    exact ⟨inner.toList, by rw [ofInner_of_escape form, String.ofList_toList]⟩
  | command line =>
    refine ⟨commandMark ++ line.toList, ?_⟩
    rw [ofInner_of_command (List.prefix_append ..), Atom.ofChars_of_command, String.ofList_toList]
  | @name key pattern =>
    refine ⟨key.toList, ?_⟩
    rw [ofInner_of_single
      (Template.not_isEscape_of_not_mem (Template.not_mem_of_namePattern pattern (.inl rfl)))
      (Template.not_command_of_namePattern pattern)
      (Template.not_mem_of_namePattern pattern (.inr (.inl rfl))),
      Atom.ofChars_of_name pattern, String.ofList_toList]
  | @chain alternatives several segmented reads notEscape =>
    rw [Alternative.toList_printAll] at notEscape
    have nonempty : alternatives.map (fun a => a.source.toList) ≠ [] := by
      rintro empty
      rw [List.map_eq_nil_iff.1 empty] at several
      cases several
    obtain ⟨separated, plain⟩ :=
      Template.chain_of_segmented (by rwa [List.length_map]) segmented
    have read : alternatives.map (Alternative.ofChars ∘ fun a => a.source.toList) =
        alternatives.map id :=
      List.map_congr_left fun a mem => (Alternative.eq_ofChars (reads a mem)).symm
    refine ⟨['|'].intercalate (alternatives.map fun a => a.source.toList), ?_⟩
    rw [ofInner_of_chain notEscape plain separated,
      Template.segments_intercalate nonempty segmented, List.map_map, read, List.map_id]
  | @invalid inner notEscape notCommand notChain notName =>
    refine ⟨inner.toList, ?_⟩
    rw [ofInner_of_single notEscape notCommand notChain,
      Atom.ofChars_of_invalid notCommand notName, String.ofList_toList]

/-- A directive is written as what it was read from. -/
theorem print_ofInner (inner : List Char) :
    (ofInner inner).print.toList = '{' :: (inner ++ ['}']) := by
  have atom : (Directive.atom (Atom.ofChars inner)).print.toList = '{' :: (inner ++ ['}']) := by
    have reads : Atom.Reads (String.ofList inner) (Atom.ofChars inner) := by
      rw [Atom.reads_iff, String.toList_ofList]
    rw [print, reads.print, toList_braced, String.toList_ofList]
  by_cases escape : IsEscape inner
  · rw [ofInner_of_escape escape, print, toList_braced, String.toList_ofList]
  by_cases command : commandMark <+: inner
  · rw [ofInner_of_command command, atom]
  by_cases chain : '|' ∈ inner
  · rw [ofInner_of_chain escape command chain, print, toList_braced, Alternative.toList_printAll,
      List.map_map]
    have sources : (Template.segments inner).map
        ((fun a : Alternative => a.source.toList) ∘ Alternative.ofChars) =
          Template.segments inner := List.map_id'' Alternative.source_ofChars _
    rw [sources, Template.intercalate_segments]
  · rw [ofInner_of_single escape command chain, atom]

/-- A span between two braces is read by what stands between them. -/
theorem ofSpan_braced (inner : List Char) : ofSpan ('{' :: (inner ++ ['}'])) = ofInner inner := by
  have last : ('{' :: (inner ++ ['}'])).getLast? = some '}' := by
    rw [← List.cons_append, List.getLast?_concat]
  rw [ofSpan, if_pos, List.tail_cons, List.dropLast_concat]
  rw [last, List.head?_cons, List.length_cons, List.length_append]
  simp

/-- The directives that are read from between two braces are the well-formed ones. -/
theorem formed_iff {d : Directive} : d.Formed ↔ ∃ inner, d = ofInner inner := by
  constructor
  · exact Formed.eq_ofInner
  · rintro ⟨inner, rfl⟩
    exact formed_ofInner inner

/-- A well-formed directive is read back from the text that is written for it. -/
theorem Formed.ofSpan_print {d : Directive} (formed : d.Formed) : ofSpan d.print.toList = d := by
  obtain ⟨inner, rfl⟩ := formed.eq_ofInner
  rw [print_ofInner, ofSpan_braced]

end Directive

end Fleet
