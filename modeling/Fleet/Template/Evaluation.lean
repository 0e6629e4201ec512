import Fleet.Bindings
import Fleet.Execution.Capture
import Fleet.Template.Parser
import Fleet.Text.Blank

/-!
# Evaluating templates

A template has a value when each of its directives has one. Directives are evaluated in order, and
the first that fails ends the evaluation. In a chain, a failure of any kind only moves on to the
next alternative. No value is read as a template again.
-/

namespace Fleet

/-- Why an atom has no value. -/
inductive AtomError : Type where
  /-- The name is not bound. -/
  | missing (name : String)
  /-- The span has no known form. -/
  | invalid (span : String)
  /-- The command failed. -/
  | command (line : String) (cause : ExecutionError)
  deriving Repr, DecidableEq

/-- An alternative that has no value, and why. -/
structure FailedAttempt : Type where
  segment : String
  error : AtomError
  deriving Repr, DecidableEq

/-- Why a template has no value. -/
inductive TemplateError : Type where
  /-- An atom has no value. -/
  | atom (error : AtomError)
  /-- No alternative of a chain has a value. -/
  | exhausted (chain : String) (attempts : List FailedAttempt)
  deriving Repr, DecidableEq

namespace AtomError

/-- The sentence that reports the failure. -/
def message : AtomError → String
  | missing name => "Parameter '" ++ name ++ "' not provided."
  | invalid span => "Invalid directive '" ++ span ++ "'."
  | command line cause => "Shell evaluation of '" ++ line ++ "' failed: " ++ cause.message

/-- The messages of the causes below the failure, outermost first. -/
def sources : AtomError → List String
  | command _ cause => cause.message :: cause.sources
  | _ => []

end AtomError

namespace TemplateError

/-- An attempt as the report of its chain shows it. -/
def describeAttempt (attempt : FailedAttempt) : String :=
  "'" ++ attempt.segment ++ "' (" ++ attempt.error.message ++ ")"

/-- The sentence that reports the failure. -/
def message : TemplateError → String
  | atom error => error.message
  | exhausted chain attempts =>
    "No alternative of '\x7b" ++ chain ++ "\x7d' resolved: " ++
      String.intercalate ", " (attempts.map describeAttempt)

/-- The messages of the causes below the failure, outermost first. -/
def sources : TemplateError → List String
  | atom error => error.sources
  | exhausted _ _ => []

end TemplateError

variable {σ : Type}

/-- The value of an atom. -/
def Atom.evaluate (capture : Capture σ) (bindings : Bindings) :
    Atom → Attempting σ AtomError String
  | .name key =>
    match bindings.get? key with
    | some value => pure value
    | none => throw (.missing key)
  | .command line => ExceptT.adapt (.command line) (Text.trimEnd <$> capture line)
  | .invalid span => throw (.invalid span)

/-- The value of the first alternative that has one, or every failure in order. -/
def Alternative.firstValue (capture : Capture σ) (bindings : Bindings) :
    List Alternative → Attempting σ (List FailedAttempt) String
  | [] => throw []
  | a :: rest => do
    match ← (a.atom.evaluate capture bindings).run with
    | .ok value => pure value
    | .error e => ExceptT.adapt (⟨a.source, e⟩ :: ·) (firstValue capture bindings rest)

/-- The value of a directive. -/
def Directive.evaluate (capture : Capture σ) (bindings : Bindings) :
    Directive → Attempting σ TemplateError String
  | .escape inner => pure inner
  | .atom a => ExceptT.adapt .atom (a.evaluate capture bindings)
  | .chain alternatives =>
    ExceptT.adapt
      (.exhausted (String.intercalate "|" (alternatives.map Alternative.source)))
      (Alternative.firstValue capture bindings alternatives)

/-- The value of a piece. -/
def Piece.evaluate (capture : Capture σ) (bindings : Bindings) :
    Piece → Attempting σ TemplateError String
  | .text literal => pure literal
  | .directive d => d.evaluate capture bindings

namespace Template

/-- The values of the pieces, one after the other. -/
def evaluatePieces (capture : Capture σ) (bindings : Bindings) :
    List Piece → Attempting σ TemplateError String
  | [] => pure ""
  | piece :: rest => do
    let value ← piece.evaluate capture bindings
    let others ← evaluatePieces capture bindings rest
    pure (value ++ others)

/-- The value of a template. -/
def evaluate (capture : Capture σ) (bindings : Bindings) (t : Template) :
    Attempting σ TemplateError String :=
  evaluatePieces capture bindings t.pieces

/-- The value of a text read as a template. -/
def substitute (capture : Capture σ) (bindings : Bindings) (text : String) :
    Attempting σ TemplateError String :=
  (parse text).evaluate capture bindings

/-- The values of several templates in order; the first failure ends the evaluation. -/
def substituteAll (capture : Capture σ) (bindings : Bindings) :
    List String → Attempting σ TemplateError (List String)
  | [] => pure []
  | text :: rest => do
    let value ← substitute capture bindings text
    let others ← substituteAll capture bindings rest
    pure (value :: others)

end Template

end Fleet
