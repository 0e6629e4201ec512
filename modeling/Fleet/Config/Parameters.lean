import Fleet.Config.Value
import Fleet.Template.Evaluation

/-!
# Parameters of a repository

The names that the templates for one repository can use. Constants come first, the environment
hides them, and the repository's attributes hide both; its id and path are bound to `name` and
`path` whatever its attributes say. Attributes are templates too, and see constants and the
environment only.
-/

namespace Fleet

/-- The name that stands for a repository's id. -/
def idName : String :=
  "name"

/-- The name that stands for a repository's path. -/
def pathName : String :=
  "path"

/-- A name that no attribute can bind. -/
def isReservedName (name : String) : Bool :=
  name == idName || name == pathName

/-- Why an attribute has no value. -/
structure AttributeError : Type where
  key : String
  cause : TemplateError
  deriving Repr, DecidableEq

namespace AttributeError

/-- The sentence that reports the failure. -/
def message (e : AttributeError) : String :=
  "Attribute '" ++ e.key ++ "' could not be resolved: " ++ e.cause.message

/-- The messages of the causes below the failure, outermost first. -/
def sources (e : AttributeError) : List String :=
  e.cause.message :: e.cause.sources

end AttributeError

/-- Constants, hidden by the environment, hidden by attributes. -/
def Bindings.layered (constants environment attributes : List (String × String)) : Bindings :=
  ((Bindings.ofList constants).merge (.ofList environment)).merge (.ofList attributes)

variable {σ : Type}

/-- The text of a value; text is read as a template. -/
def Scalar.evaluate (capture : Capture σ) (bindings : Bindings) :
    Scalar → Attempting σ TemplateError String
  | .text s => Template.substitute capture bindings s
  | value => pure value.render

/-- The texts of values, in order. -/
def Scalar.evaluateAll (capture : Capture σ) (bindings : Bindings) :
    List Scalar → Attempting σ TemplateError (List String)
  | [] => pure []
  | value :: rest => do
    let first ← value.evaluate capture bindings
    let others ← evaluateAll capture bindings rest
    pure (first :: others)

/-- The text of an attribute; the values of a list are separated by a space. -/
def Attribute.evaluate (capture : Capture σ) (bindings : Bindings) :
    Attribute → Attempting σ TemplateError String
  | .scalar value => value.evaluate capture bindings
  | .list values => String.intercalate " " <$> Scalar.evaluateAll capture bindings values

/-- The texts of attributes, without the reserved ones. -/
def evaluateAttributes (capture : Capture σ) (bindings : Bindings) :
    List (String × Attribute) → Attempting σ AttributeError (List (String × String))
  | [] => pure []
  | (name, value) :: rest =>
    if isReservedName name then evaluateAttributes capture bindings rest
    else do
      let text ← ExceptT.adapt (⟨name, ·⟩) (value.evaluate capture bindings)
      let others ← evaluateAttributes capture bindings rest
      pure ((name, text) :: others)

/-- The names that templates for a repository can use. -/
def Repository.bindings (capture : Capture σ) (constants environment : List (String × String))
    (repository : Repository) : Attempting σ AttributeError Bindings := do
  let shared := Bindings.layered constants environment []
  let attributes ← evaluateAttributes capture shared repository.attributes
  pure (.layered constants environment
    (attributes ++ [(idName, repository.id), (pathName, repository.path)]))

end Fleet
