import Fleet.Proofs.Spans

/-!
# Offsets of spans

A text is cut at offsets in octets, and not at every offset. The span that a text begins with is
found by going through its characters with a count of open braces and an offset. The count cannot
fall below what it stands for, because the first brace of the text is open as long as the search
goes on, and the offset that is found lies behind the shortest beginning of the text that has as
many closing as opening braces.

* `searchEnd?_eq`, `searchEnd?_append`: the search splits a text as its reader does, and after any
  part of the text goes on with the braces and the octets of that part.
* `Closed.shortestLevel`, `ShortestLevel.unique`: what a closed span is among the beginnings.
* `countsExactly`: the count along the way.
* `piecesBy_eq`: a span that is read has braces at its ends.
* `spans_end_exactly`: the results together.
-/

namespace Fleet.Template

/-- The offset behind the closing brace that leaves no brace open. Before the characters, `count`
braces are open and `offset` octets have gone by. A brace is a single octet. -/
def searchEnd? (count offset : Nat) : List Char → Option Nat
  | [] => none
  | c :: rest =>
    if c = '}' ∧ depthAfter count c = 0 then some (offset + 1)
    else searchEnd? (depthAfter count c) (offset + c.utf8Size) rest

/-- The offset behind the balanced span that a text begins with. -/
def spanEnd? (text : String) : Option Nat :=
  searchEnd? 0 0 text.toList

/-- How many octets characters take. -/
def octets (cs : List Char) : Nat :=
  (String.ofList cs).utf8ByteSize

/-- The pieces of a text, its spans being read in a way of one's own. -/
def piecesBy (read : List Char → Directive) (cs : List Char) : List Piece :=
  match cs with
  | [] => []
  | c :: rest =>
    if c = '{' then
      match _split : takeBalanced 0 (c :: rest) with
      | some (span, after) => .directive (read span) :: piecesBy read after
      | none => [.directive (.atom (.invalid (String.ofList (c :: rest))))]
    else
      .text (String.ofList (c :: rest.takeWhile (· ≠ '{'))) ::
        piecesBy read (rest.dropWhile (· ≠ '{'))
termination_by cs.length
decreasing_by
  · exact takeBalanced_length_lt _split
  · have le := (List.dropWhile_sublist (· ≠ '{') (l := rest)).length_le
    simp only [List.length_cons]
    omega

/-- The shortest beginning of a text that is not empty and has as many closing as opening braces. -/
structure ShortestLevel (cs span : List Char) : Prop where
  before : span <+: cs
  nonempty : span ≠ []
  level : depth span = 0
  least : ∀ p, p <+: cs → p ≠ [] → depth p = 0 → span.length ≤ p.length

/-- The search of a text comes to a character `c` after others. It goes on from there with a count
of the braces that are open, which is by how much the opening ones outnumber the closing ones, and
nothing is cut off when the character is counted too. -/
structure CountsExactly (text : String) (before : List Char) (c : Char) (rest : List Char) :
    Prop where
  onward : spanEnd? text = searchEnd? (leftOpen before) (octets before) (c :: rest)
  agrees : (leftOpen before : Int) = depth before
  positive : c = '}' → 0 < leftOpen before
  agreesAfter : (depthAfter (leftOpen before) c : Int) = depth (before ++ [c])

/-- What the search finds in a text that begins with a brace. -/
structure EndsExactly (text : String) : Prop where
  /-- It is where the reader of templates splits the text. -/
  split : spanEnd? text = (takeBalanced 0 text.toList).map fun split => octets split.1
  found : (∃ offset, spanEnd? text = some offset) ↔
    ∃ p, p <+: text.toList ∧ p ≠ [] ∧ depth p = 0
  missed : spanEnd? text = none ↔ ∀ p, p <+: text.toList → p ≠ [] → 0 < depth p
  shortest : ∀ offset, spanEnd? text = some offset ↔
    ∃ span, ShortestLevel text.toList span ∧ octets span = offset
  closes : ∀ span, ShortestLevel text.toList span → span.getLast? = some '}'
  /-- The offset lies between two characters of the text, or at its end. -/
  boundary : ∀ offset, spanEnd? text = some offset → (String.Pos.Raw.mk offset).IsValid text
  /-- As long as no end is found, the count is exact. -/
  counts : ∀ before c rest, text.toList = before ++ c :: rest →
    spanEnd? (String.ofList before) = none → CountsExactly text before c rest

/-! ## The search and the reader -/

theorem octets_cons (c : Char) (cs : List Char) : octets (c :: cs) = c.utf8Size + octets cs := by
  rw [octets, String.ofList_cons, String.utf8ByteSize_append, String.utf8ByteSize_singleton, octets]

theorem searchEnd?_eq (n k : Nat) (cs : List Char) :
    searchEnd? n k cs = (takeBalanced n cs).map fun split => k + octets split.1 := by
  induction cs generalizing n k with
  | nil => rfl
  | cons c rest ih =>
    rw [searchEnd?, takeBalanced]
    split
    · next ends =>
      rw [Option.map_some, octets_cons, ends.1]
      rfl
    · rw [ih, Option.map_map]
      refine congrArg (Option.map · _) (funext fun split => ?_)
      show k + c.utf8Size + octets split.1 = k + octets (c :: split.1)
      rw [octets_cons]
      omega

theorem spanEnd?_eq (text : String) :
    spanEnd? text = (takeBalanced 0 text.toList).map fun split => octets split.1 := by
  rw [spanEnd?, searchEnd?_eq]
  simp only [Nat.zero_add]

/-- Where no end is found, the search goes on with what has been counted. -/
theorem searchEnd?_append {n k : Nat} {before : List Char} (rest : List Char)
    (unended : takeBalanced n before = none) :
    searchEnd? n k (before ++ rest) =
      searchEnd? (before.foldl depthAfter n) (k + octets before) rest := by
  induction before generalizing n k with
  | nil => rfl
  | cons c others ih =>
    rw [takeBalanced] at unended
    split at unended
    · cases unended
    · next goesOn =>
      rw [List.cons_append, searchEnd?, if_neg goesOn, ih (Option.map_eq_none_iff.1 unended),
        List.foldl_cons, octets_cons, Nat.add_assoc]

/-! ## Shortest beginnings -/

/-- No shorter beginning of a text is level than a closed span. -/
theorem Closed.shortestLevel {cs span : List Char} (closed : Closed span) (before : span <+: cs) :
    ShortestLevel cs span where
  before := before
  nonempty := closed.ne_nil
  level := closed.balances
  least p beginning nonempty level := by
    rcases List.prefix_or_prefix_of_prefix beginning before with within | beyond
    · by_cases whole : p = span
      · rw [whole]
      · have unclosed := closed.within p within nonempty whole
        omega
    · exact beyond.length_le

theorem ShortestLevel.unique {cs span other : List Char} (shortest : ShortestLevel cs span)
    (shortest' : ShortestLevel cs other) : span = other := by
  have le := shortest.least other shortest'.before shortest'.nonempty shortest'.level
  have ge := shortest'.least span shortest.before shortest.nonempty shortest.level
  exact (List.prefix_of_prefix_length_le shortest.before shortest'.before le).eq_of_length
    (Nat.le_antisymm le ge)

/-! ## The count along the way -/

/-- The count along a text that begins with a brace is never cut off. -/
theorem countsExactly {text : String} (opens : text.toList.head? = some '{') {before : List Char}
    {c : Char} {rest : List Char} (whole : text.toList = before ++ c :: rest)
    (unended : takeBalanced 0 before = none) : CountsExactly text before c rest := by
  have onward : spanEnd? text = searchEnd? (leftOpen before) (octets before) (c :: rest) := by
    rw [spanEnd?, whole, searchEnd?_append _ unended, Nat.zero_add, leftOpen]
  cases before with
  | nil =>
    rw [whole] at opens
    obtain rfl := Option.some.inj opens
    exact ⟨onward, rfl, fun closes => absurd closes (by decide), rfl⟩
  | cons d others =>
    rw [whole] at opens
    obtain rfl := Option.some.inj opens
    have stays := takeBalanced_eq_none_iff.1 unended
    have positive := leftOpen_staysOpen stays
    have agrees := natCast_leftOpen stays
    refine ⟨onward, agrees, fun _ => positive, ?_⟩
    rw [natCast_depthAfter positive, agrees, depth_append]

/-! ## Ends of spans -/

theorem exists_taken {text : String} {offset : Nat} (ends : spanEnd? text = some offset) :
    ∃ span after, takeBalanced 0 text.toList = some (span, after) ∧ octets span = offset := by
  rw [spanEnd?_eq] at ends
  obtain ⟨⟨span, after⟩, taken, size⟩ := Option.map_eq_some_iff.1 ends
  exact ⟨span, after, taken, size⟩

/-- The end of a span is an offset that the text can be cut at. -/
theorem isValid_of_spanEnd? {text : String} {offset : Nat} (ends : spanEnd? text = some offset) :
    (String.Pos.Raw.mk offset).IsValid text := by
  obtain ⟨span, after, taken, size⟩ := exists_taken ends
  refine String.Pos.Raw.isValid_iff_exists_append.2 ⟨String.ofList span, String.ofList after, ?_, ?_⟩
  · rw [← String.ofList_append, takeBalanced_append taken, String.ofList_toList]
  · rw [← size]
    rfl

theorem spanEnd?_eq_none_iff {text : String} (opens : text.toList.head? = some '{') :
    spanEnd? text = none ↔ ∀ p, p <+: text.toList → p ≠ [] → 0 < depth p := by
  obtain ⟨rest, whole⟩ := List.head?_eq_some_iff.1 opens
  rw [spanEnd?_eq, Option.map_eq_none_iff, whole, takeBalanced_eq_none_iff]
  exact ⟨fun stays => stays.within, fun within => ⟨rfl, within⟩⟩

theorem closed_of_spanEnd? {text : String} (opens : text.toList.head? = some '{') {offset : Nat}
    (ends : spanEnd? text = some offset) :
    ∃ span, Closed span ∧ span <+: text.toList ∧ octets span = offset := by
  obtain ⟨span, after, taken, size⟩ := exists_taken ends
  obtain ⟨rest, whole⟩ := List.head?_eq_some_iff.1 opens
  rw [whole] at taken ⊢
  obtain ⟨split, closed⟩ := takeBalanced_eq_some_iff.1 taken
  exact ⟨span, closed, ⟨after, split.symm⟩, size⟩

/-- An end is found just if there is something to be found. -/
theorem exists_spanEnd?_iff {text : String} (opens : text.toList.head? = some '{') :
    (∃ offset, spanEnd? text = some offset) ↔
      ∃ p, p <+: text.toList ∧ p ≠ [] ∧ depth p = 0 := by
  constructor
  · rintro ⟨offset, ends⟩
    obtain ⟨span, closed, before, -⟩ := closed_of_spanEnd? opens ends
    exact ⟨span, before, closed.ne_nil, closed.balances⟩
  · rintro ⟨p, beginning, nonempty, level⟩
    cases ends : spanEnd? text with
    | some offset => exact ⟨offset, rfl⟩
    | none =>
      have positive := (spanEnd?_eq_none_iff opens).1 ends p beginning nonempty
      omega

/-- The shortest level beginning is the closed span that is found. -/
theorem ShortestLevel.closed {text : String} (opens : text.toList.head? = some '{')
    {span : List Char} (shortest : ShortestLevel text.toList span) :
    Closed span ∧ spanEnd? text = some (octets span) := by
  obtain ⟨offset, ends⟩ := (exists_spanEnd?_iff opens).2
    ⟨span, shortest.before, shortest.nonempty, shortest.level⟩
  obtain ⟨other, closed, before, size⟩ := closed_of_spanEnd? opens ends
  obtain rfl := shortest.unique (closed.shortestLevel before)
  exact ⟨closed, by rw [ends, size]⟩

theorem spanEnd?_eq_some_iff {text : String} (opens : text.toList.head? = some '{')
    (offset : Nat) :
    spanEnd? text = some offset ↔
      ∃ span, ShortestLevel text.toList span ∧ octets span = offset := by
  constructor
  · intro ends
    obtain ⟨span, closed, before, size⟩ := closed_of_spanEnd? opens ends
    exact ⟨span, closed.shortestLevel before, size⟩
  · rintro ⟨span, shortest, rfl⟩
    exact (shortest.closed opens).2

theorem endsExactly {text : String} (opens : text.toList.head? = some '{') : EndsExactly text where
  split := spanEnd?_eq text
  found := exists_spanEnd?_iff opens
  missed := spanEnd?_eq_none_iff opens
  shortest := spanEnd?_eq_some_iff opens
  closes span shortest := by
    obtain ⟨inner, rfl⟩ := (shortest.closed opens).1.exists_inner
    rw [← List.cons_append, List.getLast?_concat]
  boundary _ ends := isValid_of_spanEnd? ends
  counts before c rest whole unended := by
    rw [spanEnd?_eq, Option.map_eq_none_iff, String.toList_ofList] at unended
    exact countsExactly opens whole unended

/-! ## Spans that are read -/

/-- A span that is taken off a text is a text between two braces. -/
theorem braced_of_takeBalanced {rest span after : List Char}
    (taken : takeBalanced 0 ('{' :: rest) = some (span, after)) :
    ∃ inner, span = '{' :: (inner ++ ['}']) :=
  (takeBalanced_eq_some_iff.1 taken).2.exists_inner

/-- What is read as a directive has braces at its ends, so the reader of spans need not know what
to do with anything else. -/
theorem piecesBy_eq {read : List Char → Directive}
    (braced : ∀ inner, read ('{' :: (inner ++ ['}'])) = .ofInner inner) (cs : List Char) :
    piecesBy read cs = piecesOf cs := by
  fun_induction piecesBy read cs with
  | case1 => rw [piecesOf]
  | case2 rest span after taken ih =>
    obtain ⟨inner, rfl⟩ := braced_of_takeBalanced taken
    obtain ⟨whole, closed⟩ := takeBalanced_eq_some_iff.1 taken
    rw [whole, piecesOf_closed closed, braced, Directive.ofSpan_braced, ih]
  | case3 rest untaken => rw [piecesOf_staysOpen (takeBalanced_eq_none_iff.1 untaken)]
  | case4 c rest text ih => rw [piecesOf, if_neg text, ih]

/-- In a text that begins with a brace, the search ends just where it should. And the pieces of any
text are the same however a span would be read that does not stand between two braces, because no
such span is ever read. -/
theorem spans_end_exactly (text : String) :
    (text.toList.head? = some '{' → EndsExactly text) ∧
      ∀ read : List Char → Directive,
        (∀ inner, read ('{' :: (inner ++ ['}'])) = .ofInner inner) →
          piecesBy read text.toList = (parse text).pieces :=
  ⟨endsExactly, fun _ braced => piecesBy_eq braced text.toList⟩

/-- Braces within braces, a stray one, and characters of two and of four octets. The reader here
takes off the first and the last character of any span. -/
theorem spans_end_exactly_nested :
    "\x7bé\x7b\x7d😀\x7dü\x7d".toList.head? = some '{' ∧
      spanEnd? "\x7bé\x7b\x7d😀\x7dü\x7d" = some 10 ∧
      (String.Pos.Raw.mk 10).IsValid "\x7bé\x7b\x7d😀\x7dü\x7d" ∧
      (∃ span, ShortestLevel "\x7bé\x7b\x7d😀\x7dü\x7d".toList span ∧ octets span = 10 ∧
        span.getLast? = some '}') ∧
      piecesBy (fun span => .ofInner span.tail.dropLast) "\x7bé\x7b\x7d😀\x7dü\x7d".toList =
        [.directive (.atom (.invalid "\x7bé\x7b\x7d😀\x7d")), .text "ü\x7d"] := by
  have opens : "\x7bé\x7b\x7d😀\x7dü\x7d".toList.head? = some '{' := by decide
  have ends : spanEnd? "\x7bé\x7b\x7d😀\x7dü\x7d" = some 10 := by decide +kernel
  have parsed : (parse "\x7bé\x7b\x7d😀\x7dü\x7d").pieces =
      [.directive (.atom (.invalid "\x7bé\x7b\x7d😀\x7d")), .text "ü\x7d"] := by decide +kernel
  have braced : ∀ inner : List Char,
      Directive.ofInner ('{' :: (inner ++ ['}'])).tail.dropLast = .ofInner inner := by
    intro inner
    rw [List.tail_cons, List.dropLast_concat]
  obtain ⟨exactly, read⟩ := spans_end_exactly "\x7bé\x7b\x7d😀\x7dü\x7d"
  obtain ⟨span, shortest, size⟩ := ((exactly opens).shortest 10).1 ends
  exact ⟨opens, ends, (exactly opens).boundary 10 ends,
    ⟨span, shortest, size, (exactly opens).closes span shortest⟩, (read _ braced).trans parsed⟩

end Fleet.Template
