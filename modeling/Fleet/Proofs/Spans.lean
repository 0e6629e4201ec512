import Fleet.Proofs.Dialogues
import Fleet.Proofs.Reading

/-!
# Texts that leave no brace open

A text that closes every brace it opens is read the same way whatever comes after it, so templates
can be put together from such texts: the whole comes to what the parts come to, one after the other.
And such a text can be kept as it is by doubling the outermost of its braces.

* `leftOpen_eq_zero_iff`: no brace is left open just if no piece stays open.
* `piecesOf_append`: the pieces of two texts, which share a text at the seam.
* `piecesOf_doubledFrom`: doubled braces make an escape of each directive.
* `substitute_append`, `substitute_doubled`: what the two come to.
-/

namespace Fleet

open Attempting

/-- Pieces one after the other. A text that the first end with and a text that the others begin with
are one text. -/
def Piece.seam : List Piece → List Piece → List Piece
  | [], others => others
  | [.text literal], .text more :: others => .text (literal ++ more) :: others
  | piece :: rest, others => piece :: seam rest others

/-- A piece that stands for the text of another one. -/
def Piece.spelled : Piece → Piece
  | .text literal => .text literal
  | .directive d => .directive (.escape d.print)

namespace Template

/-- How many braces a text leaves open. A closing brace where none is open closes nothing. -/
def leftOpen (cs : List Char) : Nat :=
  cs.foldl depthAfter 0

/-- A text with each brace doubled that opens or closes an outermost span, so many being open before
it. -/
def doubledFrom (depth : Nat) : List Char → List Char
  | [] => []
  | c :: rest =>
    if c = '{' ∧ depth = 0 ∨ c = '}' ∧ depth = 1 then
      c :: c :: doubledFrom (depthAfter depth c) rest
    else c :: doubledFrom (depthAfter depth c) rest

/-- A text with one more pair of braces around each of its outermost spans. -/
def doubled (text : String) : String :=
  String.ofList (doubledFrom 0 text.toList)

/-! ## Braces left open -/

/-- After a span no brace is open. -/
theorem foldl_depthAfter_of_takeBalanced {n : Nat} {cs span after : List Char}
    (taken : takeBalanced n cs = some (span, after)) : cs.foldl depthAfter n = leftOpen after := by
  induction cs generalizing n span with
  | nil => cases taken
  | cons c rest ih =>
    rw [List.foldl_cons]
    rcases takeBalanced_cons taken with ⟨_, closes, _, rfl⟩ | ⟨inner, onward, _⟩
    · rw [closes, leftOpen]
    · exact ih onward

/-- While a brace is open, what is counted is by how much the opening braces outnumber the closing
ones. -/
theorem natCast_foldl_depthAfter {n : Nat} (pos : 0 < n) {cs : List Char}
    (untaken : takeBalanced n cs = none) :
    ((cs.foldl depthAfter n : Nat) : Int) = n + depth cs := by
  induction cs generalizing n with
  | nil =>
    rw [depth_nil]
    exact (Int.add_zero _).symm
  | cons c rest ih =>
    have step := natCast_depthAfter pos c
    rcases Nat.eq_zero_or_pos (depthAfter n c) with zero | later
    · rw [takeBalanced_cons_of_zero pos zero] at untaken
      cases untaken
    · rw [takeBalanced_cons_of_pos later, Option.map_eq_none_iff] at untaken
      have onward := ih later untaken
      rw [List.foldl_cons, depth_cons]
      omega

/-- Outside of spans, only an opening brace opens one. -/
theorem depthAfter_zero {c : Char} (notOpen : c ≠ '{') : depthAfter 0 c = 0 := by
  rw [depthAfter, if_neg notOpen]
  split <;> rfl

theorem leftOpen_text {literal : List Char} (plain : '{' ∉ literal) (rest : List Char) :
    leftOpen (literal ++ rest) = leftOpen rest := by
  induction literal with
  | nil => rfl
  | cons c others ih =>
    have notOpen : c ≠ '{' := fun opens => plain (opens ▸ List.mem_cons_self)
    rw [List.cons_append, leftOpen, List.foldl_cons, depthAfter_zero notOpen]
    exact ih fun mem => plain (List.mem_cons_of_mem c mem)

theorem leftOpen_closed {span : List Char} (closed : Closed span) (after : List Char) :
    leftOpen (span ++ after) = leftOpen after := by
  obtain ⟨rest, whole⟩ := List.head?_eq_some_iff.1 closed.opens
  have taken : takeBalanced 0 (span ++ after) = some (span, after) := by
    rw [whole, List.cons_append]
    exact takeBalanced_eq_some_iff.2 ⟨rfl, whole ▸ closed⟩
  exact foldl_depthAfter_of_takeBalanced taken

/-- A text that stays open leaves open what its closing braces lack. -/
theorem natCast_leftOpen {cs : List Char} (stays : StaysOpen cs) :
    (leftOpen cs : Int) = depth cs := by
  obtain ⟨rest, rfl⟩ := List.head?_eq_some_iff.1 stays.opens
  have untaken := takeBalanced_eq_none_iff.2 stays
  rw [takeBalanced_zero_open, Option.map_eq_none_iff] at untaken
  rw [depth_cons, depth_open]
  exact natCast_foldl_depthAfter Nat.one_pos untaken

theorem leftOpen_staysOpen {cs : List Char} (stays : StaysOpen cs) : 0 < leftOpen cs := by
  have counted := natCast_leftOpen stays
  have positive := stays.depth_pos
  omega

/-- A text leaves no brace open just if none of its pieces stays open. -/
theorem leftOpen_eq_zero_iff (cs : List Char) :
    leftOpen cs = 0 ↔
      ∀ span, .directive (.atom (.invalid span)) ∈ piecesOf cs → ¬StaysOpen span.toList := by
  induction cs using pieces_induction with
  | nil =>
    rw [piecesOf_nil]
    exact iff_of_true rfl fun _ mem => absurd mem List.not_mem_nil
  | text literal rest nonempty plain stops ih =>
    rw [leftOpen_text plain, piecesOf_text nonempty plain stops, ih]
    refine forall_congr' fun span => imp_congr_left ?_
    rw [List.mem_cons]
    exact ⟨.inr, fun mem => mem.resolve_left fun same => nomatch same⟩
  | closed span after closed ih =>
    rw [leftOpen_closed closed, piecesOf_closed closed, ih]
    refine ⟨fun each other mem stays => ?_, fun each other mem => each other (.tail _ mem)⟩
    rcases List.mem_cons.1 mem with same | mem
    · -- a closed span that is invalid is written as it was read
      have read := closed.print_ofSpan
      rw [← Piece.directive.inj same, Directive.print, Atom.print] at read
      exact stays.not_closed (read ▸ closed)
    · exact each other mem stays
  | staysOpen cs stays =>
    refine iff_of_false (Nat.ne_of_gt (leftOpen_staysOpen stays)) fun each => ?_
    refine each (String.ofList cs) ?_ (by rwa [String.toList_ofList])
    rw [piecesOf_staysOpen stays]
    exact List.mem_cons_self

end Template

/-! ## Pieces of two texts -/

namespace Piece

theorem seam_directive (d : Directive) (rest others : List Piece) :
    seam (.directive d :: rest) others = .directive d :: seam rest others := by
  rw [seam]
  intro _ _ _ _ same
  cases same

theorem seam_text (literal : String) {rest : List Piece} (more : rest ≠ []) (others : List Piece) :
    seam (.text literal :: rest) others = .text literal :: seam rest others := by
  rw [seam]
  intro _ _ _ _ _ none
  exact absurd none more

/-- Pieces that begin with no text follow a text as they are. -/
theorem seam_last (literal : String) {others : List Piece}
    (plain : ∀ more, others.head? ≠ some (.text more)) :
    seam [.text literal] others = .text literal :: others := by
  rw [seam, seam]
  rintro _ more rest rfl
  exact absurd rfl (plain more)

end Piece

namespace Template

/-- A text without opening braces runs on into what comes after it. -/
theorem piecesOf_literal_append {literal : List Char} (nonempty : literal ≠ [])
    (plain : '{' ∉ literal) (cs : List Char) :
    piecesOf (literal ++ cs) = Piece.seam [.text (String.ofList literal)] (piecesOf cs) := by
  by_cases empty : cs = []
  · have stops : ∀ c ∈ ([] : List Char).head?, c = '{' := fun c first => nomatch first
    rw [empty, piecesOf_text nonempty plain stops, piecesOf_nil]
    rfl
  rcases first_piece empty with ⟨more, rest, rfl, some, plain', stops⟩ | opens
  · have both : '{' ∉ literal ++ more := fun mem => (List.mem_append.1 mem).elim plain plain'
    rw [← List.append_assoc, piecesOf_text (List.append_ne_nil_of_left_ne_nil nonempty more) both
      stops, piecesOf_text some plain' stops, String.ofList_append]
    rfl
  · have stops : ∀ c ∈ cs.head?, c = '{' := by
      intro c first
      have brace : cs.head? = some '{' := by
        rcases opens with ⟨span, after, rfl, closed⟩ | stays
        · rw [List.head?_append, closed.opens]
          rfl
        · exact stays.opens
      rw [brace] at first
      exact (Option.some.inj first).symm
    rw [piecesOf_text nonempty plain stops, Piece.seam_last _ (head?_piecesOf_of_stops stops)]

theorem piecesOf_ne_nil {cs : List Char} (nonempty : cs ≠ []) : piecesOf cs ≠ [] := by
  intro none
  have written := print_piecesOf cs
  rw [none] at written
  exact nonempty written.symm

/-- The pieces of a text that leaves no brace open, and then those of what comes after it. -/
theorem piecesOf_append {first : List Char} (shut : leftOpen first = 0) (second : List Char) :
    piecesOf (first ++ second) = Piece.seam (piecesOf first) (piecesOf second) := by
  induction first using pieces_induction with
  | nil => rw [piecesOf_nil, Piece.seam, List.nil_append]
  | text literal rest nonempty plain stops ih =>
    rw [leftOpen_text plain] at shut
    rw [List.append_assoc]
    by_cases last : rest = []
    · rw [last, List.nil_append, List.append_nil, piecesOf_literal_append nonempty plain]
      have alone := @piecesOf_text literal [] nonempty plain fun c first => nomatch first
      rw [List.append_nil, piecesOf_nil] at alone
      rw [alone]
    · have stops' : ∀ c ∈ (rest ++ second).head?, c = '{' := by
        rwa [List.head?_append, Option.or_of_isSome (by simpa using last)]
      rw [piecesOf_text nonempty plain stops', piecesOf_text nonempty plain stops, ih shut,
        Piece.seam_text _ (piecesOf_ne_nil last)]
  | closed span after closed ih =>
    rw [leftOpen_closed closed] at shut
    rw [List.append_assoc, piecesOf_closed closed, piecesOf_closed closed, ih shut,
      Piece.seam_directive]
  | staysOpen cs stays => exact absurd shut (Nat.ne_of_gt (leftOpen_staysOpen stays))

/-! ## Values of two texts -/

section

variable {σ : Type} (capture : Capture σ) (bindings : Bindings)

/-- Pieces one after the other come to their values one after the other. -/
theorem evaluatePieces_seam (first second : List Piece) :
    evaluatePieces capture bindings (Piece.seam first second) =
      (do
        let value ← evaluatePieces capture bindings first
        let others ← evaluatePieces capture bindings second
        pure (value ++ others)) := by
  fun_induction Piece.seam first second with
  | case1 others =>
    simp only [evaluatePieces, pure_bind, String.empty_append, bind_pure]
  | case2 literal more others =>
    simp only [evaluatePieces, Piece.evaluate, pure_bind, bind_assoc, String.append_empty,
      String.append_assoc]
  | case3 piece rest others _ ih =>
    simp only [evaluatePieces, ih, bind_assoc, pure_bind, String.append_assoc]

/-- What is asked for while a text is evaluated, and the answers. -/
def exchanges (text : String) (s : σ) : List Exchange :=
  ((substitute (recorded capture) bindings text).run (s, [])).2.2

/-- A record that has been begun is gone on with. -/
theorem run_recorded (text : String) (s : σ) (kept : List Exchange) :
    (substitute (recorded capture) bindings text).run (s, kept) =
      (((substitute capture bindings text).run s).1, ((substitute capture bindings text).run s).2,
        kept ++ exchanges capture bindings text s) := by
  have plain : Alike (fun (s : σ × List Exchange) t => s.1 = t)
      (substitute (recorded capture) bindings text) (substitute capture bindings text) :=
    alike_substitute fun a _ =>
      Atom.alike_evaluate (fun _ _ => rfl) fun line _ => alike_recorded capture line
  have begun : Alike (fun (s t : σ × List Exchange) => s.1 = t.1 ∧ s.2 = kept ++ t.2)
      (substitute (recorded capture) bindings text)
      (substitute (recorded capture) bindings text) := by
    refine alike_substitute fun a _ => Atom.alike_evaluate (fun _ _ => rfl) fun line _ => ?_
    rintro ⟨s, whole⟩ ⟨_, before⟩ ⟨rfl, same⟩
    obtain rfl : whole = kept ++ before := same
    exact ⟨rfl, rfl, List.append_assoc kept before _⟩
  obtain ⟨result, state⟩ := plain (s, kept) s rfl
  obtain ⟨-, -, record⟩ := begun (s, kept) (s, []) ⟨rfl, (List.append_nil kept).symm⟩
  exact Prod.ext result (Prod.ext state record)

/-- What comes after a text that leaves no brace open is evaluated after it. If the text fails, so
does the whole, with nothing more asked for; else the whole comes to the value of the text and what
comes after it comes to, and what was asked for the one is followed by what is asked for the
other. -/
theorem substitute_append {first : String} (shut : leftOpen first.toList = 0) (second : String) :
    (parse (first ++ second)).pieces = Piece.seam (parse first).pieces (parse second).pieces ∧
      ∀ s,
        (∀ e t, (substitute capture bindings first).run s = (.error e, t) →
          (substitute capture bindings (first ++ second)).run s = (.error e, t) ∧
            exchanges capture bindings (first ++ second) s =
              exchanges capture bindings first s) ∧
        ∀ value t, (substitute capture bindings first).run s = (.ok value, t) →
          ∀ result u, (substitute capture bindings second).run t = (result, u) →
            (substitute capture bindings (first ++ second)).run s = (result.map (value ++ ·), u) ∧
              exchanges capture bindings (first ++ second) s =
                exchanges capture bindings first s ++ exchanges capture bindings second t := by
  have pieces : (parse (first ++ second)).pieces =
      Piece.seam (parse first).pieces (parse second).pieces := by
    rw [parse, String.toList_append]
    exact piecesOf_append shut second.toList
  have steps : ∀ {τ : Type} (capture : Capture τ),
      substitute capture bindings (first ++ second) = (do
        let value ← substitute capture bindings first
        let others ← substitute capture bindings second
        pure (value ++ others)) := by
    intro τ capture
    rw [substitute, evaluate, pieces]
    exact evaluatePieces_seam capture bindings _ _
  refine ⟨pieces, fun s => ⟨fun e t failed => ?_, fun value t found result u ran => ?_⟩⟩
  · have record := run_recorded capture bindings first s []
    rw [failed, List.nil_append] at record
    refine ⟨by rw [steps, run_bind_error failed], ?_⟩
    rw [exchanges, steps, run_bind_error record]
  · -- the record of the second text is begun with that of the first
    have record := run_recorded capture bindings first s []
    rw [found, List.nil_append] at record
    have later := run_recorded capture bindings second t (exchanges capture bindings first s)
    rw [ran] at later
    rw [exchanges, steps, steps, run_bind_ok found, run_bind_ok record]
    cases result with
    | error e =>
      rw [run_bind_error ran, run_bind_error later]
      exact ⟨rfl, rfl⟩
    | ok more =>
      rw [run_bind_ok ran, run_bind_ok later]
      exact ⟨rfl, rfl⟩

end

/-- A capture that answers with the line and the number of lines before it. -/
def numbering : Capture Nat := fun line =>
  ExceptT.mk fun n => (.ok (line ++ toString n), n + 1)

/-- A text with a stray brace, an escape and a command, and another that goes on with text and a
chain. -/
theorem substitute_append_numbering :
    leftOpen "\x7d {{a}} {__shell__:e}, ".toList = 0 ∧
      (substitute numbering .empty ("\x7d {{a}} {__shell__:e}, " ++ "then {b|__shell__:f}\x7d")).run
        0 = (.ok "\x7d {a} e0, then f1\x7d", 2) ∧
      exchanges numbering .empty ("\x7d {{a}} {__shell__:e}, " ++ "then {b|__shell__:f}\x7d") 0 =
        [⟨"e", .ok "e0"⟩, ⟨"f", .ok "f1"⟩] := by
  have shut : leftOpen "\x7d {{a}} {__shell__:e}, ".toList = 0 := by decide +kernel
  have first : parse "\x7d {{a}} {__shell__:e}, " =
      ⟨[.text "\x7d ", .directive (.escape "{a}"), .text " ", .directive (.atom (.command "e")),
        .text ", "]⟩ := by
    decide +kernel
  have second : parse "then {b|__shell__:f}\x7d" =
      ⟨[.text "then ", .directive (.chain [⟨"b", .name "b"⟩, ⟨"__shell__:f", .command "f"⟩]),
        .text "\x7d"]⟩ := by
    decide +kernel
  have ranFirst : (substitute numbering .empty "\x7d {{a}} {__shell__:e}, ").run 0 =
      (.ok "\x7d {a} e0, ", 1) := by
    rw [substitute, first]
    rfl
  have ranSecond : (substitute numbering .empty "then {b|__shell__:f}\x7d").run 1 =
      (.ok "then f1\x7d", 2) := by
    rw [substitute, second]
    rfl
  have askedFirst : exchanges numbering .empty "\x7d {{a}} {__shell__:e}, " 0 =
      [⟨"e", .ok "e0"⟩] := by
    rw [exchanges, substitute, first]
    rfl
  have askedSecond : exchanges numbering .empty "then {b|__shell__:f}\x7d" 1 =
      [⟨"f", .ok "f1"⟩] := by
    rw [exchanges, substitute, second]
    rfl
  obtain ⟨ran, asked⟩ := ((substitute_append numbering .empty shut "then {b|__shell__:f}\x7d").2
    0).2 _ _ ranFirst _ _ ranSecond
  rw [askedFirst, askedSecond] at asked
  exact ⟨shut, ran, asked⟩

/-! ## Doubled braces -/

theorem doubledFrom_text {literal : List Char} (plain : '{' ∉ literal) (rest : List Char) :
    doubledFrom 0 (literal ++ rest) = literal ++ doubledFrom 0 rest := by
  induction literal with
  | nil => rfl
  | cons c others ih =>
    have notOpen : c ≠ '{' := fun opens => plain (opens ▸ List.mem_cons_self)
    have single : ¬(c = '{' ∧ 0 = 0 ∨ c = '}' ∧ 0 = 1) := by
      rintro (⟨opens, -⟩ | ⟨-, one⟩)
      · exact notOpen opens
      · cases one
    rw [List.cons_append, doubledFrom, if_neg single, depthAfter_zero notOpen,
      ih fun mem => plain (List.mem_cons_of_mem c mem), List.cons_append]

/-- Of a span that is open, only the brace that closes it is doubled. -/
theorem doubledFrom_of_takeBalanced {n : Nat} (pos : 0 < n) {cs span after : List Char}
    (taken : takeBalanced n cs = some (span, after)) :
    doubledFrom n cs = span ++ '}' :: doubledFrom 0 after := by
  induction cs generalizing n span with
  | nil => cases taken
  | cons c rest ih =>
    rcases Nat.eq_zero_or_pos (depthAfter n c) with zero | later
    · obtain rfl := eq_close_of_depthAfter pos zero
      have one : n = 1 := by
        have lower : depthAfter n '}' = n - 1 := rfl
        omega
      rw [takeBalanced_cons_of_zero pos zero] at taken
      cases taken
      rw [doubledFrom, if_pos (.inr ⟨rfl, one⟩), zero]
      rfl
    · have single : ¬(c = '{' ∧ n = 0 ∨ c = '}' ∧ n = 1) := by
        rintro (⟨-, none⟩ | ⟨rfl, rfl⟩)
        · omega
        · exact absurd later (by decide)
      rw [takeBalanced_cons_of_pos later] at taken
      obtain ⟨⟨inner, tail⟩, onward, same⟩ := Option.map_eq_some_iff.1 taken
      cases same
      rw [doubledFrom, if_neg single, ih later onward, List.cons_append]

theorem doubledFrom_closed {span : List Char} (closed : Closed span) (after : List Char) :
    doubledFrom 0 (span ++ after) = '{' :: (span ++ ['}']) ++ doubledFrom 0 after := by
  obtain ⟨rest, rfl⟩ := List.head?_eq_some_iff.1 closed.opens
  have taken : takeBalanced 1 (rest ++ after) = some (rest, after) :=
    (takeBalanced_eq_some_iff_of_pos Nat.one_pos).2 ⟨rfl, (closed_cons_iff rest).1 closed⟩
  rw [List.cons_append, doubledFrom, if_pos (.inl ⟨rfl, rfl⟩)]
  show '{' :: '{' :: doubledFrom 1 (rest ++ after) = _
  rw [doubledFrom_of_takeBalanced Nat.one_pos taken]
  simp

theorem head?_doubledFrom (n : Nat) (cs : List Char) : (doubledFrom n cs).head? = cs.head? := by
  cases cs with
  | nil => rfl
  | cons c rest =>
    rw [doubledFrom]
    split <;> rfl

theorem Closed.balanced {span : List Char} (closed : Closed span) : Balanced span where
  nonneg p before := by
    by_cases none : p = []
    · rw [none]
      exact Int.le_refl 0
    by_cases whole : p = span
    · exact Int.le_of_eq (by rw [whole, closed.balances])
    · exact Int.le_of_lt (closed.within p before none whole)
  balances := closed.balances

theorem Closed.isEscape {span : List Char} (closed : Closed span) : IsEscape span := by
  obtain ⟨inner, rfl⟩ := closed.exists_inner
  exact ⟨rfl, by rw [← List.cons_append, List.getLast?_concat]⟩

/-- With its outermost braces doubled, each directive is an escape of its own text. -/
theorem piecesOf_doubledFrom {cs : List Char} (shut : leftOpen cs = 0) :
    piecesOf (doubledFrom 0 cs) = (piecesOf cs).map Piece.spelled := by
  induction cs using pieces_induction with
  | nil =>
    rw [doubledFrom, piecesOf_nil]
    rfl
  | text literal rest nonempty plain stops ih =>
    rw [leftOpen_text plain] at shut
    have stops' : ∀ c ∈ (doubledFrom 0 rest).head?, c = '{' := by rwa [head?_doubledFrom]
    rw [doubledFrom_text plain, piecesOf_text nonempty plain stops',
      piecesOf_text nonempty plain stops, ih shut]
    rfl
  | closed span after closed ih =>
    rw [leftOpen_closed closed] at shut
    have written : (Directive.ofSpan span).print = String.ofList span :=
      String.toList_injective (closed.print_ofSpan.trans String.toList_ofList.symm)
    rw [doubledFrom_closed closed, piecesOf_closed closed.balanced.closed, piecesOf_closed closed,
      Directive.ofSpan_braced, Directive.ofInner_of_escape closed.isEscape, ih shut,
      List.map_cons, Piece.spelled, written]
  | staysOpen cs stays => exact absurd shut (Nat.ne_of_gt (leftOpen_staysOpen stays))

/-- Pieces that stand for texts come to these texts. -/
theorem evaluatePieces_spelled {σ : Type} (capture : Capture σ) (bindings : Bindings)
    (pieces : List Piece) :
    evaluatePieces capture bindings (pieces.map Piece.spelled) = pure (print ⟨pieces⟩) := by
  induction pieces with
  | nil => rfl
  | cons piece rest ih =>
    have first : piece.spelled.evaluate capture bindings = pure piece.print := by
      cases piece <;> rfl
    rw [List.map_cons, evaluatePieces, first, ih, pure_bind, pure_bind, print, print, List.map_cons,
      String.join_cons]

/-- A text that leaves no brace open is kept as it is, and nothing is asked for, once its outermost
braces are doubled: what would be a directive is an escape then. -/
theorem substitute_doubled {σ : Type} (capture : Capture σ) (bindings : Bindings) {text : String}
    (shut : leftOpen text.toList = 0) (s : σ) :
    (parse (doubled text)).pieces = (parse text).pieces.map Piece.spelled ∧
      (substitute capture bindings (doubled text)).run s = (.ok text, s) ∧
      exchanges capture bindings (doubled text) s = [] := by
  have pieces : (parse (doubled text)).pieces = (parse text).pieces.map Piece.spelled := by
    rw [parse, doubled, String.toList_ofList]
    exact piecesOf_doubledFrom shut
  have kept : ∀ {τ : Type} (capture : Capture τ),
      substitute capture bindings (doubled text) = pure text := by
    intro τ capture
    rw [substitute, evaluate, pieces, evaluatePieces_spelled]
    exact congrArg pure (String.toList_injective (print_piecesOf text.toList))
  refine ⟨pieces, ?_, ?_⟩
  · rw [kept]
    rfl
  · rw [exchanges, kept]
    rfl

/-- Stray braces, a name, a command, a chain and braces within braces. -/
theorem substitute_doubled_crowded :
    leftOpen "\x7d{a}\x7d{__shell__:rm {x}|y}{{b}|c}".toList = 0 ∧
      doubled "\x7d{a}\x7d{__shell__:rm {x}|y}{{b}|c}" =
        "\x7d{{a}}\x7d{{__shell__:rm {x}|y}}{{{b}|c}}" ∧
      (substitute numbering .empty "\x7d{{a}}\x7d{{__shell__:rm {x}|y}}{{{b}|c}}").run 0 =
        (.ok "\x7d{a}\x7d{__shell__:rm {x}|y}{{b}|c}", 0) := by
  have shut : leftOpen "\x7d{a}\x7d{__shell__:rm {x}|y}{{b}|c}".toList = 0 := by decide +kernel
  have twice : doubled "\x7d{a}\x7d{__shell__:rm {x}|y}{{b}|c}" =
      "\x7d{{a}}\x7d{{__shell__:rm {x}|y}}{{{b}|c}}" := by
    decide +kernel
  obtain ⟨-, ran, -⟩ := substitute_doubled numbering .empty shut 0
  rw [twice] at ran
  exact ⟨shut, twice, ran⟩

end Template

end Fleet
