import Fleet.Proofs.Attempts
import Fleet.Proofs.Reading
import Fleet.Template.Evaluation

/-!
# Alternatives alone and in a chain

A chain is read by other rules than a span of its own: it is split at its separators first, and what
stands between two of them is an atom and no other form of directive. For segments whose braces pair
off and that hold no separators of their own the two readings agree, so a chain does what its
segments do when each is put between braces alone, one after the other, up to the first that has a
value.

* `parse_braced`: a balanced text between braces is one directive.
* `substitute_segment`, `substitute_chain`: what a segment alone and a chain come down to.
* `substitute_alternatives`: a chain has the first value of its segments alone, or fails with all of
  their failures.
-/

namespace Fleet

open Template (commandMark Balanced Segmented)

/-- A text between braces. -/
def Template.braced (text : String) : String :=
  "\x7b" ++ text ++ "\x7d"

/-! ## One directive -/

namespace Template

theorem parse_braced {inner : String} (balanced : Balanced inner.toList) :
    parse (braced inner) = ⟨[.directive (.ofInner inner.toList)]⟩ := by
  have pieces := piecesOf_closed balanced.closed []
  rw [List.append_nil, Directive.ofSpan_braced, piecesOf_nil] at pieces
  rw [parse, braced, toList_braced, pieces]

theorem evaluatePieces_singleton {σ : Type} (capture : Capture σ) (bindings : Bindings)
    (piece : Piece) :
    evaluatePieces capture bindings [piece] = piece.evaluate capture bindings := by
  simp only [evaluatePieces, pure_bind, String.append_empty, bind_pure]

/-- A text that is one directive has the value of the directive. -/
theorem substitute_braced {σ : Type} (capture : Capture σ) (bindings : Bindings) {inner : String}
    (balanced : Balanced inner.toList) :
    substitute capture bindings (braced inner) =
      (Directive.ofInner inner.toList).evaluate capture bindings := by
  rw [substitute, parse_braced balanced, evaluate, evaluatePieces_singleton, Piece.evaluate]

end Template

/-! ## Segments and chains between braces -/

/-- A text that can stand as a segment: its braces pair off, and it does not begin with one. -/
structure Template.IsSegment (text : String) : Prop where
  balanced : Balanced text.toList
  plain : text.toList.head? ≠ some '{'

instance (text : String) : Decidable (Template.IsSegment text) :=
  decidable_of_iff (Balanced text.toList ∧ text.toList.head? ≠ some '{')
    ⟨fun ⟨balanced, plain⟩ => ⟨balanced, plain⟩, fun ⟨balanced, plain⟩ => ⟨balanced, plain⟩⟩

/-- A segment without separators, or that is a command, is an atom by itself too. -/
theorem Directive.ofInner_of_segment {inner : List Char} (plain : inner.head? ≠ some '{')
    (last : '|' ∈ inner → commandMark <+: inner) : ofInner inner = .atom (Atom.ofChars inner) := by
  by_cases command : commandMark <+: inner
  · exact ofInner_of_command command
  · exact ofInner_of_single (fun escape => plain escape.1) command fun bar => command (last bar)

namespace Template

variable {σ : Type} (capture : Capture σ) (bindings : Bindings)

/-- The evaluation of a segment between braces of its own. -/
def alone (segment : String) : Attempting σ TemplateError String :=
  substitute capture bindings (braced segment)

/-- A segment alone comes down to the atom that it is in a chain. -/
theorem substitute_segment {segment : String} (proper : IsSegment segment)
    (last : '|' ∈ segment.toList → commandMark <+: segment.toList) :
    alone capture bindings segment =
      ExceptT.adapt .atom
        ((Alternative.ofChars segment.toList).atom.evaluate capture bindings) := by
  rw [alone, substitute_braced capture bindings proper.balanced,
    Directive.ofInner_of_segment proper.plain last, Directive.evaluate, Alternative.ofChars]

/-- The text of a chain with these segments. -/
def chainOf (segments : List String) : String :=
  String.intercalate "|" segments

theorem toList_chainOf (segments : List String) :
    (chainOf segments).toList = ['|'].intercalate (segments.map String.toList) := by
  rw [chainOf, String.toList_intercalate]
  rfl

theorem map_source_ofChars (segments : List String) :
    (segments.map fun segment => Alternative.ofChars segment.toList).map Alternative.source =
      segments := by
  rw [List.map_map]
  refine List.map_id'' (fun segment => ?_) segments
  exact String.ofList_toList

/-- The segments are read as the alternatives of the chain. -/
theorem ofInner_chainOf {segments : List String} (several : 2 ≤ segments.length)
    (proper : ∀ segment ∈ segments, IsSegment segment)
    (segmented : Segmented (segments.map String.toList)) :
    Directive.ofInner (chainOf segments).toList =
      .chain (segments.map fun segment => Alternative.ofChars segment.toList) := by
  obtain ⟨bar, plain⟩ := chain_of_segmented (by rwa [List.length_map]) segmented
  have nonempty : segments.map String.toList ≠ [] := by
    intro empty
    rw [List.map_eq_nil_iff.1 empty] at several
    cases several
  have notEscape : ¬IsEscape (['|'].intercalate (segments.map String.toList)) := by
    -- the chain begins as its first segment does, or with a separator
    match segments, several, proper with
    | first :: next :: rest, _, proper =>
      intro escape
      have opens := escape.1
      rw [List.map_cons, List.map_cons, List.intercalate_cons_cons, List.append_assoc] at opens
      have plain := (proper first List.mem_cons_self).plain
      cases shape : first.toList with
      | nil =>
        rw [shape] at opens
        cases opens
      | cons c others =>
        rw [shape] at opens plain
        exact plain opens
  rw [toList_chainOf, Directive.ofInner_of_chain notEscape plain bar,
    segments_intercalate nonempty segmented, List.map_map]
  rfl

/-- A chain comes down to the first value of its segments as alternatives. -/
theorem substitute_chain {segments : List String} (several : 2 ≤ segments.length)
    (proper : ∀ segment ∈ segments, IsSegment segment)
    (segmented : Segmented (segments.map String.toList)) :
    substitute capture bindings (braced (chainOf segments)) =
      ExceptT.adapt (.exhausted (chainOf segments)) (Alternative.firstValue capture bindings
        (segments.map fun segment => Alternative.ofChars segment.toList)) := by
  have balanced : Balanced (chainOf segments).toList := by
    rw [toList_chainOf]
    refine balanced_intercalate fun text mem => ?_
    obtain ⟨segment, held, rfl⟩ := List.mem_map.1 mem
    exact (proper segment held).balanced
  rw [substitute_braced capture bindings balanced, ofInner_chainOf several proper segmented,
    Directive.evaluate, map_source_ofChars, chainOf]

/-! ## The first value -/

/-- What comes of evaluating segments alone, in order, up to the first that has a value: this value,
or what all of them failed for. -/
inductive FirstAlone :
    σ → List String → Except (List FailedAttempt) String → σ → Prop where
  | exhausted (s : σ) : FirstAlone s [] (.error []) s
  | chosen {s t : σ} {segment value : String} (after : List String)
      (succeeds : (alone capture bindings segment).run s = (.ok value, t)) :
      FirstAlone s (segment :: after) (.ok value) t
  | failed {s t u : σ} {segment : String} {others : List String} {e : AtomError}
      {result : Except (List FailedAttempt) String}
      (fails : (alone capture bindings segment).run s = (.error (.atom e), t))
      (rest : FirstAlone t others result u) :
      FirstAlone s (segment :: others) (result.mapError (⟨segment, e⟩ :: ·)) u

/-- Where each segment alone is an atom, their first value is that of the alternatives. -/
theorem firstAlone_firstValue {segments : List String}
    (atoms : ∀ segment ∈ segments, alone capture bindings segment =
      ExceptT.adapt .atom ((Alternative.ofChars segment.toList).atom.evaluate capture bindings))
    (s : σ) :
    let run := (Alternative.firstValue capture bindings
      (segments.map fun segment => Alternative.ofChars segment.toList)).run s
    FirstAlone capture bindings s segments run.1 run.2 := by
  induction segments generalizing s with
  | nil => exact .exhausted s
  | cons segment rest ih =>
    have first : (alone capture bindings segment).run s = _ :=
      congrArg (·.run s) (atoms segment List.mem_cons_self)
    have others := ih fun other mem => atoms other (List.mem_cons_of_mem _ mem)
    have source : (Alternative.ofChars segment.toList).source = segment := String.ofList_toList
    dsimp only at others ⊢
    rw [Attempting.run_adapt] at first
    rw [List.map_cons, Alternative.firstValue, Attempting.run_lift_bind, source]
    match ((Alternative.ofChars segment.toList).atom.evaluate capture bindings).run s, first with
    | (.ok value, t), first => exact .chosen rest first
    | (.error e, t), first => exact .failed first (others t)

/-- A chain does what its segments do alone, one after the other, up to the first that has a value;
without one it fails with the failures of all of them. -/
theorem substitute_alternatives {segments : List String} (several : 2 ≤ segments.length)
    (proper : ∀ segment ∈ segments, IsSegment segment)
    (segmented : Segmented (segments.map String.toList)) (s : σ) :
    ∃ result t, FirstAlone capture bindings s segments result t ∧
      (substitute capture bindings (braced (chainOf segments))).run s =
        (result.mapError (.exhausted (chainOf segments)), t) := by
  have atoms : ∀ segment ∈ segments, alone capture bindings segment =
      ExceptT.adapt .atom
        ((Alternative.ofChars segment.toList).atom.evaluate capture bindings) := by
    intro segment mem
    refine substitute_segment capture bindings (proper segment mem) fun bar => ?_
    exact segmented.command_of_bar (List.mem_map_of_mem mem) bar
  refine ⟨_, _, firstAlone_firstValue capture bindings atoms s, ?_⟩
  rw [substitute_chain capture bindings several proper segmented, Attempting.run_adapt]

/-- A segment that is empty, one that names a variable, one with braces of its own, and a command
with a separator of its own. -/
def mixed : List String :=
  ["", "$HOME", "u{v}w", "__shell__:cat {f} | head"]

/-- A capture that keeps the lines it is asked to run, and fails. -/
def refusing : Capture (List String) := fun line =>
  ExceptT.mk fun lines => (.error (.nonZeroExit line 1), lines ++ [line])

/-- Why each of the segments fails alone. -/
def refusals : List FailedAttempt :=
  [⟨"", .invalid "{}"⟩, ⟨"$HOME", .missing "$HOME"⟩, ⟨"u{v}w", .invalid "{u{v}w}"⟩,
    ⟨"__shell__:cat {f} | head", .command "cat {f} | head" (.nonZeroExit "cat {f} | head" 1)⟩]

/-- All of them fail, and one line is run. -/
theorem substitute_alternatives_mixed :
    2 ≤ mixed.length ∧ (∀ segment ∈ mixed, IsSegment segment) ∧
      Segmented (mixed.map String.toList) ∧
      FirstAlone refusing .empty [] mixed (.error refusals) ["cat {f} | head"] ∧
      (substitute refusing .empty "{|$HOME|u{v}w|__shell__:cat {f} | head}").run [] =
        (.error (.exhausted "|$HOME|u{v}w|__shell__:cat {f} | head" refusals),
          ["cat {f} | head"]) := by
  have several : 2 ≤ mixed.length := by decide
  have proper : ∀ segment ∈ mixed, IsSegment segment := by decide +kernel
  have segmented : Segmented (mixed.map String.toList) := by decide +kernel
  have text : braced (chainOf mixed) = "{|$HOME|u{v}w|__shell__:cat {f} | head}" := by
    decide +kernel
  have parsed : parse "{|$HOME|u{v}w|__shell__:cat {f} | head}" =
      ⟨[.directive (.chain [⟨"", .invalid "{}"⟩, ⟨"$HOME", .name "$HOME"⟩,
        ⟨"u{v}w", .invalid "{u{v}w}"⟩,
        ⟨"__shell__:cat {f} | head", .command "cat {f} | head"⟩])]⟩ := by
    decide +kernel
  have ran : (substitute refusing .empty "{|$HOME|u{v}w|__shell__:cat {f} | head}").run [] =
      (.error (.exhausted "|$HOME|u{v}w|__shell__:cat {f} | head" refusals),
        ["cat {f} | head"]) := by
    rw [substitute, parsed]
    rfl
  refine ⟨several, proper, segmented, ?_, ran⟩
  obtain ⟨result, t, first, same⟩ :=
    substitute_alternatives refusing .empty several proper segmented []
  rw [text, ran] at same
  obtain ⟨outcome, rfl⟩ := Prod.mk.inj same
  match result, first, outcome with
  | .error attempts, first, outcome =>
    cases outcome
    exact first

end Template

end Fleet
