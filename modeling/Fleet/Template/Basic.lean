/-!
# Templates

What a template is made of, and the text that it stands for.
-/

/-!
## Templates

A template is text with directives between braces. `{{x}}` stands for `{x}`, `{name}` for the value
bound to a name, `{__shell__:line}` for what a command line prints, and `{a|b}` for the first of
its alternatives that has a value. A span of any other form is kept as invalid: it fails when it
is evaluated, not when it is read.
-/

namespace Fleet

/-- What may stand alone between braces, or as one alternative of a chain. -/
inductive Atom : Type where
  /-- The value bound to a name. -/
  | name (name : String)
  /-- What a command line prints. -/
  | command (line : String)
  /-- A span of no known form, with its braces. -/
  | invalid (span : String)
  deriving Repr, DecidableEq

/-- One alternative of a chain, with its text. -/
structure Alternative : Type where
  source : String
  atom : Atom
  deriving Repr, DecidableEq

/-- What a span between braces stands for. -/
inductive Directive : Type where
  /-- The text itself, which has braces of its own. -/
  | escape (text : String)
  /-- A single atom. -/
  | atom (atom : Atom)
  /-- The first of the alternatives that has a value. -/
  | chain (alternatives : List Alternative)
  deriving Repr, DecidableEq

/-- A piece of a template. -/
inductive Piece : Type where
  /-- Text that stands for itself. -/
  | text (text : String)
  /-- A span between braces. -/
  | directive (directive : Directive)
  deriving Repr, DecidableEq

/-- A template, as its pieces in order. -/
structure Template : Type where
  pieces : List Piece
  deriving Repr, DecidableEq

namespace Template

/-- The text that marks a command line. -/
def commandMark : List Char :=
  "__shell__:".toList

/-- A character that may start a name. -/
def isNameStart (c : Char) : Bool :=
  c.isAlpha || c == '_'

/-- A character that may continue a name. -/
def isNameRest (c : Char) : Bool :=
  c.isAlphanum || c == '_' || c == '.' || c == '-'

/-- A name without its environment tag: a letter or an underscore, then letters, digits,
underscores, dots and hyphens. -/
def isPlainName : List Char → Bool
  | [] => false
  | c :: rest => isNameStart c && rest.all isNameRest

/-- A name: a plain name, or a plain name tagged with `$` for the environment. -/
def isName : List Char → Bool
  | '$' :: rest => isPlainName rest
  | cs => isPlainName cs

end Template

/-!
## Writing templates

The text that a template stands for. An invalid span is written as it is, and everything else
between braces of its own.
-/

/-- An atom, with its braces. -/
def Atom.print : Atom → String
  | .name key => "\x7b" ++ key ++ "\x7d"
  | .command line => "\x7b" ++ String.ofList Template.commandMark ++ line ++ "\x7d"
  | .invalid span => span

/-- The texts of the alternatives, with a separator between two. -/
def Alternative.printAll (alternatives : List Alternative) : String :=
  String.intercalate "|" (alternatives.map Alternative.source)

/-- A directive, with its braces. -/
def Directive.print : Directive → String
  | .escape inner => "\x7b" ++ inner ++ "\x7d"
  | .atom a => a.print
  | .chain alternatives => "\x7b" ++ Alternative.printAll alternatives ++ "\x7d"

/-- A piece. -/
def Piece.print : Piece → String
  | .text literal => literal
  | .directive d => d.print

/-- The text of a template. -/
def Template.print (t : Template) : String :=
  String.join (t.pieces.map Piece.print)

end Fleet
