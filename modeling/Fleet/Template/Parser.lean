import Fleet.Template.Basic

/-!
# From text to templates

A text is cut into balanced spans, and each of them is read as a directive.
-/

/-!
## Balanced spans

The shortest beginning of a text with as many closing as opening braces.

* `takeBalanced_append`: a span and what follows it make up the text.
* `takeBalanced_length_lt`: what follows a span is shorter than the text.
-/

namespace Fleet.Template

/-- How many braces are open after one more character. -/
def depthAfter (depth : Nat) (c : Char) : Nat :=
  if c = '{' then depth + 1 else if c = '}' then depth - 1 else depth

/-- Splits a text after the closing brace that leaves no brace open, with `depth` of them open
before it; `none` if there is no such brace. -/
def takeBalanced (depth : Nat) : List Char → Option (List Char × List Char)
  | [] => none
  | c :: rest =>
    if c = '}' ∧ depthAfter depth c = 0 then some ([c], rest)
    else (takeBalanced (depthAfter depth c) rest).map fun split => (c :: split.1, split.2)

/-- A span starts with the first character of the text; what is left of the two is split. -/
theorem takeBalanced_cons {depth : Nat} {c : Char} {rest span after : List Char}
    (h : takeBalanced depth (c :: rest) = some (span, after)) :
    (c = '}' ∧ depthAfter depth c = 0 ∧ span = [c] ∧ after = rest) ∨
      ∃ inner,
        takeBalanced (depthAfter depth c) rest = some (inner, after) ∧ span = c :: inner := by
  rw [takeBalanced] at h
  split at h
  · next ends =>
    simp only [Option.some.injEq, Prod.mk.injEq] at h
    exact .inl ⟨ends.1, ends.2, h.1.symm, h.2.symm⟩
  · obtain ⟨⟨inner, tail⟩, split, he⟩ := Option.map_eq_some_iff.1 h
    simp only [Prod.mk.injEq] at he
    obtain ⟨rfl, rfl⟩ := he
    exact .inr ⟨inner, split, rfl⟩

/-- A span and what follows it make up the text. -/
theorem takeBalanced_append {depth : Nat} {cs span after : List Char}
    (h : takeBalanced depth cs = some (span, after)) : span ++ after = cs := by
  induction cs generalizing depth span with
  | nil => simp [takeBalanced] at h
  | cons c rest ih =>
    rcases takeBalanced_cons h with ⟨_, _, rfl, rfl⟩ | ⟨inner, split, rfl⟩
    · rfl
    · simp [ih split]

/-- What follows a span is shorter than the text. -/
theorem takeBalanced_length_lt {depth : Nat} {cs span after : List Char}
    (h : takeBalanced depth cs = some (span, after)) : after.length < cs.length := by
  cases cs with
  | nil => simp [takeBalanced] at h
  | cons c rest =>
    rcases takeBalanced_cons h with ⟨_, _, _, rfl⟩ | ⟨inner, split, _⟩
    · simp
    · have append := congrArg List.length (takeBalanced_append split)
      simp only [List.length_append] at append
      simp only [List.length_cons]
      omega

end Fleet.Template

/-!
## Reading templates

A template is read in one pass over its outermost spans. Reading never fails: an opening brace that
is never closed takes the rest of the text as an invalid span, and a closing brace outside every
span is ordinary text.
-/

namespace Fleet

/-- The atom that a text between braces, or between separators of a chain, stands for. -/
def Atom.ofChars (cs : List Char) : Atom :=
  if Template.commandMark.isPrefixOf cs then
    .command (String.ofList (cs.drop Template.commandMark.length))
  else if Template.isName cs then .name (String.ofList cs)
  else .invalid (String.ofList (['{'] ++ cs ++ ['}']))

/-- The segments of a chain. A command takes the rest of the chain, with any `|` in it. -/
def Template.segments (cs : List Char) : List (List Char) :=
  if Template.commandMark.isPrefixOf cs then [cs]
  else
    match _tail : cs.dropWhile (· ≠ '|') with
    | [] => [cs]
    | _ :: rest => cs.takeWhile (· ≠ '|') :: Template.segments rest
termination_by cs.length
decreasing_by
  have le := (List.dropWhile_sublist (· ≠ '|') (l := cs)).length_le
  rw [_tail] at le
  simp at le
  omega

/-- An alternative with the given text. -/
def Alternative.ofChars (cs : List Char) : Alternative :=
  ⟨String.ofList cs, Atom.ofChars cs⟩

/-- The directive whose text between the outermost braces is given. -/
def Directive.ofInner (inner : List Char) : Directive :=
  if 2 ≤ inner.length && inner.head? == some '{' && inner.getLast? == some '}' then
    .escape (String.ofList inner)
  else if Template.commandMark.isPrefixOf inner then .atom (Atom.ofChars inner)
  else if inner.contains '|' then .chain ((Template.segments inner).map Alternative.ofChars)
  else .atom (Atom.ofChars inner)

/-- The directive that a balanced span stands for. -/
def Directive.ofSpan (span : List Char) : Directive :=
  if span.head? == some '{' && 2 ≤ span.length && span.getLast? == some '}' then
    .ofInner span.tail.dropLast
  else .atom (.invalid (String.ofList span))

namespace Template

/-- The pieces of a text. -/
def piecesOf (cs : List Char) : List Piece :=
  match cs with
  | [] => []
  | c :: rest =>
    if c = '{' then
      match _split : takeBalanced 0 (c :: rest) with
      | some (span, after) => .directive (.ofSpan span) :: piecesOf after
      | none => [.directive (.atom (.invalid (String.ofList (c :: rest))))]
    else
      .text (String.ofList (c :: rest.takeWhile (· ≠ '{'))) ::
        piecesOf (rest.dropWhile (· ≠ '{'))
termination_by cs.length
decreasing_by
  · exact takeBalanced_length_lt _split
  · have le := (List.dropWhile_sublist (· ≠ '{') (l := rest)).length_le
    simp only [List.length_cons]
    omega

/-- The template that a text stands for. -/
def parse (text : String) : Template :=
  ⟨piecesOf text.toList⟩

end Template

end Fleet
