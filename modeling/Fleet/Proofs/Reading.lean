import Fleet.Proofs.Grammar

/-!
# Reading what is written

Reading a template and writing it undo each other. The pieces that a text is read as are written as
that text, and a template is read back from its own text exactly if it is well formed: then its
texts cannot run together, each directive has the form that is tried first for its span, and only
the last one may stay open.

* `pieces_induction`: a text is empty, or begins with a piece of one of three kinds.
* `print_piecesOf`, `wellFormed_piecesOf`: what is read is well formed, and nothing of it is lost.
* `piecesOf_print`: a well-formed template is read back.
* `parse_print_canonical`, `parse_eq_iff`: the two results for whole texts.
-/

namespace Fleet

namespace Template

/-! ## Well-formed templates -/

/-- A template that is read from some text. -/
structure WellFormed (t : Template) : Prop where
  texts : ∀ literal, .text literal ∈ t.pieces → literal ≠ "" ∧ '{' ∉ literal.toList
  /-- No two texts are neighbours. -/
  apart : ∀ before literal literal' after,
    t.pieces ≠ before ++ .text literal :: .text literal' :: after
  directives : ∀ before d after, t.pieces = before ++ .directive d :: after →
    (d.Formed ∧ Closed d.print.toList) ∨
      (after = [] ∧ ∃ span, d = .atom (.invalid span) ∧ StaysOpen span.toList)

theorem wellFormed_nil : WellFormed ⟨[]⟩ where
  texts _ mem := absurd mem List.not_mem_nil
  apart _ _ _ _ same := by simp at same
  directives _ _ _ same := by simp at same

theorem WellFormed.tail {piece : Piece} {rest : List Piece} (formed : WellFormed ⟨piece :: rest⟩) :
    WellFormed ⟨rest⟩ where
  texts literal mem := formed.texts literal (List.mem_cons_of_mem _ mem)
  apart before literal literal' after same :=
    formed.apart (piece :: before) literal literal' after (congrArg (piece :: ·) same)
  directives before d after same :=
    formed.directives (piece :: before) d after (congrArg (piece :: ·) same)

theorem wellFormed_text_cons (literal : String) (rest : List Piece) :
    WellFormed ⟨.text literal :: rest⟩ ↔
      (literal ≠ "" ∧ '{' ∉ literal.toList) ∧ (∀ other, rest.head? ≠ some (.text other)) ∧
        WellFormed ⟨rest⟩ := by
  constructor
  · intro formed
    refine ⟨formed.texts literal List.mem_cons_self, fun other next => ?_, formed.tail⟩
    obtain ⟨after, rfl⟩ := List.head?_eq_some_iff.1 next
    exact formed.apart [] literal other after rfl
  · rintro ⟨proper, next, formed⟩
    refine ⟨fun other mem => ?_, fun before _ other after same => ?_, fun before d after same => ?_⟩
    · rcases List.mem_cons.1 mem with same | mem
      · cases same
        exact proper
      · exact formed.texts other mem
    · rcases List.cons_eq_append_iff.1 same with ⟨-, here⟩ | ⟨before', -, there⟩
      · rw [← (List.cons.inj here).2] at next
        exact next other rfl
      · exact formed.apart _ _ _ _ there
    · rcases List.cons_eq_append_iff.1 same with ⟨-, here⟩ | ⟨before', -, there⟩
      · cases (List.cons.inj here).1
      · exact formed.directives _ _ _ there

theorem wellFormed_directive_cons (d : Directive) (rest : List Piece) :
    WellFormed ⟨.directive d :: rest⟩ ↔
      ((d.Formed ∧ Closed d.print.toList) ∨
        (rest = [] ∧ ∃ span, d = .atom (.invalid span) ∧ StaysOpen span.toList)) ∧
        WellFormed ⟨rest⟩ := by
  constructor
  · intro formed
    exact ⟨formed.directives [] d rest rfl, formed.tail⟩
  · rintro ⟨proper, formed⟩
    refine ⟨fun literal mem => ?_, fun before _ other after same => ?_,
      fun before d' after same => ?_⟩
    · rcases List.mem_cons.1 mem with same | mem
      · cases same
      · exact formed.texts literal mem
    · rcases List.cons_eq_append_iff.1 same with ⟨-, here⟩ | ⟨before', -, there⟩
      · cases (List.cons.inj here).1
      · exact formed.apart _ _ _ _ there
    · rcases List.cons_eq_append_iff.1 same with ⟨-, here⟩ | ⟨before', -, there⟩
      · obtain ⟨same', rfl⟩ := List.cons.inj here
        obtain rfl := Piece.directive.inj same'
        exact proper
      · exact formed.directives _ _ _ there

/-! ## The first piece of a text -/

/-- Whatever begins with a brace begins with a closed span, or stays open. -/
theorem closed_or_staysOpen (rest : List Char) :
    (∃ span after, '{' :: rest = span ++ after ∧ Closed span) ∨ StaysOpen ('{' :: rest) := by
  cases taken : takeBalanced 0 ('{' :: rest) with
  | some split => exact .inl ⟨split.1, split.2, takeBalanced_eq_some_iff.1 taken⟩
  | none => exact .inr (takeBalanced_eq_none_iff.1 taken)

theorem piecesOf_nil : piecesOf [] = [] := by
  rw [piecesOf]

theorem piecesOf_text {literal rest : List Char} (nonempty : literal ≠ []) (plain : '{' ∉ literal)
    (stops : ∀ c ∈ rest.head?, c = '{') :
    piecesOf (literal ++ rest) = .text (String.ofList literal) :: piecesOf rest := by
  obtain ⟨c, others, rfl⟩ := List.exists_cons_of_ne_nil nonempty
  have first : c ≠ '{' := fun same => plain (same ▸ List.mem_cons_self)
  have goesOn : ∀ d ∈ others, decide (d ≠ '{') = true := fun d mem =>
    decide_eq_true fun same => plain (List.mem_cons_of_mem _ (same ▸ mem))
  have taken : (others ++ rest).takeWhile (· ≠ '{') = others := by
    rw [List.takeWhile_append_of_pos goesOn]
    cases rest with
    | nil => rw [List.takeWhile_nil, List.append_nil]
    | cons d rest =>
      rw [stops d rfl, List.takeWhile_cons_of_neg (by decide), List.append_nil]
  have left : (others ++ rest).dropWhile (· ≠ '{') = rest := by
    rw [List.dropWhile_append_of_pos goesOn]
    cases rest with
    | nil => rfl
    | cons d rest => rw [stops d rfl, List.dropWhile_cons_of_neg (by decide)]
  rw [List.cons_append, piecesOf, if_neg first, taken, left]

theorem piecesOf_closed {span : List Char} (closed : Closed span) (after : List Char) :
    piecesOf (span ++ after) = .directive (.ofSpan span) :: piecesOf after := by
  obtain ⟨inner, rfl⟩ := closed.exists_inner
  have split : takeBalanced 0 ('{' :: (inner ++ ['}']) ++ after) =
      some ('{' :: (inner ++ ['}']), after) :=
    takeBalanced_eq_some_iff.2 ⟨rfl, closed⟩
  rw [List.cons_append] at split ⊢
  rw [piecesOf, if_pos rfl]
  split
  · next span' after' taken =>
    obtain ⟨rfl, rfl⟩ := Prod.mk.inj (Option.some.inj (taken.symm.trans split))
    rfl
  · next none =>
    rw [split] at none
    cases none

theorem piecesOf_staysOpen {cs : List Char} (stays : StaysOpen cs) :
    piecesOf cs = [.directive (.atom (.invalid (String.ofList cs)))] := by
  obtain ⟨rest, rfl⟩ := List.head?_eq_some_iff.1 stays.opens
  have none := takeBalanced_eq_none_iff.2 stays
  rw [piecesOf, if_pos rfl]
  split
  · next taken =>
    rw [none] at taken
    cases taken
  · rfl

/-- A text begins with text up to the next brace, or with a closed span, or stays open. -/
theorem first_piece {cs : List Char} (nonempty : cs ≠ []) :
    (∃ literal rest, cs = literal ++ rest ∧ literal ≠ [] ∧ '{' ∉ literal ∧
        ∀ c ∈ rest.head?, c = '{') ∨
      (∃ span after, cs = span ++ after ∧ Closed span) ∨ StaysOpen cs := by
  by_cases brace : '{' ∈ cs
  · obtain ⟨literal, rest, rfl, plain⟩ := List.eq_append_cons_of_mem brace
    by_cases empty : literal = []
    · rw [empty, List.nil_append]
      exact .inr (closed_or_staysOpen rest)
    · exact .inl ⟨literal, '{' :: rest, rfl, empty, plain, fun c first => (Option.some.inj first).symm⟩
  · exact .inl ⟨cs, [], (List.append_nil cs).symm, nonempty, brace, fun c first => nomatch first⟩

theorem Closed.ne_nil {span : List Char} (closed : Closed span) : span ≠ [] := by
  rintro rfl
  cases closed.opens

/-- What is left after a first part is shorter. -/
theorem length_lt_of_append {cs first rest : List Char} (whole : cs = first ++ rest)
    (nonempty : first ≠ []) : rest.length < cs.length := by
  have pos := List.length_pos_iff.2 nonempty
  rw [whole, List.length_append]
  omega

/-- Induction along the pieces of a text. -/
@[elab_as_elim]
theorem pieces_induction {motive : List Char → Prop} (nil : motive [])
    (text : ∀ literal rest, literal ≠ [] → '{' ∉ literal → (∀ c ∈ rest.head?, c = '{') →
      motive rest → motive (literal ++ rest))
    (closed : ∀ span after, Closed span → motive after → motive (span ++ after))
    (staysOpen : ∀ cs, StaysOpen cs → motive cs) (cs : List Char) : motive cs := by
  by_cases empty : cs = []
  · rw [empty]
    exact nil
  rcases first_piece empty with ⟨literal, rest, whole, nonempty, plain, stops⟩ |
    ⟨span, after, whole, closes⟩ | stays
  · rw [whole]
    exact text literal rest nonempty plain stops (pieces_induction nil text closed staysOpen rest)
  · rw [whole]
    exact closed span after closes (pieces_induction nil text closed staysOpen after)
  · exact staysOpen cs stays
termination_by cs.length
decreasing_by
  · exact length_lt_of_append whole nonempty
  · exact length_lt_of_append whole closes.ne_nil

/-! ## Reading, then writing -/

theorem toList_print_cons (piece : Piece) (rest : List Piece) :
    (print ⟨piece :: rest⟩).toList = piece.print.toList ++ (print ⟨rest⟩).toList := by
  rw [print, List.map_cons, String.join_cons, String.toList_append]
  rfl

/-- A closed span is written as it was read. -/
theorem Closed.print_ofSpan {span : List Char} (closed : Closed span) :
    (Directive.ofSpan span).print.toList = span := by
  obtain ⟨inner, rfl⟩ := closed.exists_inner
  rw [Directive.ofSpan_braced, Directive.print_ofInner]

theorem Closed.formed_ofSpan {span : List Char} (closed : Closed span) :
    (Directive.ofSpan span).Formed := by
  obtain ⟨inner, rfl⟩ := closed.exists_inner
  rw [Directive.ofSpan_braced]
  exact Directive.formed_ofInner inner

/-- Nothing of a text is lost. -/
theorem print_piecesOf (cs : List Char) : (print ⟨piecesOf cs⟩).toList = cs := by
  induction cs using pieces_induction with
  | nil =>
    rw [piecesOf_nil]
    rfl
  | text literal rest nonempty plain stops ih =>
    rw [piecesOf_text nonempty plain stops, toList_print_cons, ih, Piece.print, String.toList_ofList]
  | closed span after closed ih =>
    rw [piecesOf_closed closed, toList_print_cons, ih, Piece.print, closed.print_ofSpan]
  | staysOpen cs stays =>
    rw [piecesOf_staysOpen stays, toList_print_cons]
    exact (List.append_nil _).trans String.toList_ofList

/-- Where text stops, no other text begins. -/
theorem head?_piecesOf_of_stops {rest : List Char} (stops : ∀ c ∈ rest.head?, c = '{')
    (literal : String) : (piecesOf rest).head? ≠ some (.text literal) := by
  cases rest with
  | nil =>
    rw [piecesOf_nil]
    exact fun same => nomatch same
  | cons c rest =>
    obtain rfl := stops c rfl
    rcases closed_or_staysOpen rest with ⟨span, after, whole, closed⟩ | stays
    · rw [whole, piecesOf_closed closed]
      exact fun same => nomatch same
    · rw [piecesOf_staysOpen stays]
      exact fun same => nomatch same

/-- What is read is well formed. -/
theorem wellFormed_piecesOf (cs : List Char) : WellFormed ⟨piecesOf cs⟩ := by
  induction cs using pieces_induction with
  | nil =>
    rw [piecesOf_nil]
    exact wellFormed_nil
  | text literal rest nonempty plain stops ih =>
    rw [piecesOf_text nonempty plain stops, wellFormed_text_cons, String.toList_ofList]
    refine ⟨⟨fun empty => nonempty ?_, plain⟩, head?_piecesOf_of_stops stops, ih⟩
    rw [← String.toList_ofList (l := literal), empty]
    rfl
  | closed span after closed ih =>
    rw [piecesOf_closed closed, wellFormed_directive_cons, closed.print_ofSpan]
    exact ⟨.inl ⟨closed.formed_ofSpan, closed⟩, ih⟩
  | staysOpen cs stays =>
    rw [piecesOf_staysOpen stays, wellFormed_directive_cons]
    exact ⟨.inr ⟨rfl, String.ofList cs, rfl, by rwa [String.toList_ofList]⟩, wellFormed_nil⟩

/-! ## Writing, then reading -/

/-- A well-formed template that does not begin with text is written with a brace first. -/
theorem stops_of_wellFormed {pieces : List Piece} (formed : WellFormed ⟨pieces⟩)
    (notText : ∀ literal, pieces.head? ≠ some (.text literal)) :
    ∀ c ∈ (print ⟨pieces⟩).toList.head?, c = '{' := by
  cases pieces with
  | nil => exact fun c first => nomatch first
  | cons piece rest =>
    cases piece with
    | text literal => exact absurd rfl (notText literal)
    | directive d =>
      have opens : (Piece.directive d).print.toList.head? = some '{' := by
        rcases ((wellFormed_directive_cons d rest).1 formed).1 with
          ⟨-, closed⟩ | ⟨-, span, rfl, stays⟩
        · exact closed.opens
        · exact stays.opens
      obtain ⟨others, whole⟩ := List.head?_eq_some_iff.1 opens
      intro c first
      rw [toList_print_cons, whole] at first
      exact (Option.some.inj first).symm

/-- A well-formed template is read back. -/
theorem piecesOf_print {pieces : List Piece} (formed : WellFormed ⟨pieces⟩) :
    piecesOf (print ⟨pieces⟩).toList = pieces := by
  induction pieces with
  | nil => exact piecesOf_nil
  | cons piece rest ih =>
    rw [toList_print_cons]
    cases piece with
    | text literal =>
      obtain ⟨⟨nonempty, plain⟩, next, others⟩ := (wellFormed_text_cons literal rest).1 formed
      have some : literal.toList ≠ [] := fun empty => nonempty (String.toList_inj.1 empty)
      rw [Piece.print, piecesOf_text some plain (stops_of_wellFormed others next), ih others,
        String.ofList_toList]
    | directive d =>
      obtain ⟨⟨proper, closed⟩ | ⟨rfl, span, rfl, stays⟩, others⟩ :=
        (wellFormed_directive_cons d rest).1 formed
      · rw [Piece.print, piecesOf_closed closed, ih others, proper.ofSpan_print]
      · have alone : (Piece.directive (.atom (.invalid span))).print.toList ++
            (print ⟨[]⟩).toList = span.toList := List.append_nil _
        rw [alone, piecesOf_staysOpen stays, String.ofList_toList]

/-! ## Whole texts -/

/-- A template as it is read, told piece by piece. By its type, an alternative of a chain is a
name, a command or invalid. -/
structure Canonical (t : Template) : Prop where
  texts : ∀ literal, .text literal ∈ t.pieces → literal ≠ "" ∧ '{' ∉ literal.toList
  apart : ∀ before literal literal' after,
    t.pieces ≠ before ++ .text literal :: .text literal' :: after
  openLast : ∀ before span after, t.pieces = before ++ .directive (.atom (.invalid span)) :: after →
    StaysOpen span.toList → after = []
  escapes : ∀ inner, .directive (.escape inner) ∈ t.pieces →
    inner.toList.head? = some '{' ∧ inner.toList.getLast? = some '}'
  names : ∀ key, .directive (.atom (.name key)) ∈ t.pieces → NamePattern key.toList
  several : ∀ alternatives, .directive (.chain alternatives) ∈ t.pieces → 2 ≤ alternatives.length
  namesInChains : ∀ alternatives, .directive (.chain alternatives) ∈ t.pieces →
    ∀ a ∈ alternatives, ∀ key, a.atom = .name key → NamePattern key.toList
  commandsLast : ∀ alternatives, .directive (.chain alternatives) ∈ t.pieces →
    ∀ a ∈ alternatives.dropLast, ∀ line, a.atom ≠ .command line

theorem WellFormed.formed_of_mem {t : Template} (formed : t.WellFormed) {d : Directive}
    (mem : .directive d ∈ t.pieces) (valid : ∀ span, d ≠ .atom (.invalid span)) : d.Formed := by
  obtain ⟨before, after, whole⟩ := List.append_of_mem mem
  rcases formed.directives before d after whole with ⟨proper, -⟩ | ⟨-, span, same, -⟩
  · exact proper
  · exact absurd same (valid span)

theorem WellFormed.canonical {t : Template} (formed : t.WellFormed) : t.Canonical where
  texts := formed.texts
  apart := formed.apart
  openLast before span after whole stays := by
    rcases formed.directives before _ after whole with ⟨-, closed⟩ | ⟨last, -⟩
    · exact absurd closed stays.not_closed
    · exact last
  escapes inner mem := by
    cases formed.formed_of_mem mem (fun _ same => nomatch same) with
    | escape form => exact form
  names key mem := by
    cases formed.formed_of_mem mem (fun _ same => nomatch same) with
    | name pattern => exact pattern
  several alternatives mem := by
    cases formed.formed_of_mem mem (fun _ same => nomatch same) with
    | chain several => exact several
  namesInChains alternatives mem a held key named := by
    cases formed.formed_of_mem mem (fun _ same => nomatch same) with
    | chain _ _ reads =>
      have read := reads a held
      rw [named] at read
      exact read.namePattern
  commandsLast alternatives mem a held line isCommand := by
    cases formed.formed_of_mem mem (fun _ same => nomatch same) with
    | chain _ segmented reads =>
      have read := reads a (List.dropLast_subset _ held)
      have early : a.source.toList ∈ (alternatives.map fun a => a.source.toList).dropLast := by
        rw [← List.map_dropLast]
        exact List.mem_map_of_mem held
      obtain ⟨-, plain⟩ := segmented.before _ early
      rw [isCommand] at read
      exact plain read.marked

/-- The pieces of every text are written as that text, and they are in canonical form. -/
theorem parse_print_canonical (text : String) :
    (parse text).print = text ∧ (parse text).Canonical := by
  refine ⟨?_, (wellFormed_piecesOf text.toList).canonical⟩
  rw [← String.toList_inj]
  exact print_piecesOf text.toList

/-- A text is read as a template exactly if the template is well formed and written as that text.
So every text has one reading, and every well-formed template is the reading of one text. -/
theorem parse_eq_iff (text : String) (t : Template) :
    parse text = t ↔ t.WellFormed ∧ t.print = text := by
  constructor
  · rintro rfl
    refine ⟨wellFormed_piecesOf text.toList, ?_⟩
    rw [← String.toList_inj]
    exact print_piecesOf text.toList
  · rintro ⟨formed, rfl⟩
    exact congrArg Template.mk (piecesOf_print formed)

/-- A template with a directive of each form, the last one open. -/
example :
    parse "a \x7d\x7b\x7b{x}\x7d\x7d{$HOME}{__shell__:ls | wc}{a b}{u|v w|__shell__:p|q}\x7bz" =
      ⟨[.text "a \x7d", .directive (.escape "\x7b{x}\x7d"), .directive (.atom (.name "$HOME")),
        .directive (.atom (.command "ls | wc")), .directive (.atom (.invalid "{a b}")),
        .directive (.chain [⟨"u", .name "u"⟩, ⟨"v w", .invalid "{v w}"⟩,
          ⟨"__shell__:p|q", .command "p|q"⟩]),
        .directive (.atom (.invalid "\x7bz"))]⟩ := by
  decide +kernel

end Template

end Fleet
