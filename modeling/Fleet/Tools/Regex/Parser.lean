import Fleet.Shell.Pattern
import Fleet.Tools.Regex

/-!
# Reading regular expressions

A text is cut into tokens, by the form it is written in, and the tokens are read by descent.
-/

namespace Fleet.Tools.Regex

open Shell.Pattern (classRanges)

/-- What is wrong with a regular expression. -/
inductive Fault : Type where
  | trailingBackslash
  | unclosedBracket
  | unclosedGroup
  | unopenedGroup
  | unclosedBounds
  | badBounds
  | badRange
  | badClass
  | badElement
  | nothingToRepeat
  | badReference
  | tooBig
  /-- The name of a class stands between single brackets. -/
  | bareClass
  /-- Nothing but a bracket. -/
  | loneBracket
  deriving Repr, DecidableEq

/-- What is said about a fault. -/
def Fault.message : Fault → String
  | trailingBackslash => "Trailing backslash"
  | unclosedBracket => "Unmatched [, [^, [:, [., or [="
  | unclosedGroup => "Unmatched ( or \\("
  | unopenedGroup => "Unmatched ) or \\)"
  | unclosedBounds => "Unmatched \\\x7b"
  | badBounds => "Invalid content of \\\x7b\\\x7d"
  | badRange => "Invalid range end"
  | badClass => "Invalid character class name"
  | badElement => "Invalid collation character"
  | nothingToRepeat => "Invalid preceding regular expression"
  | badReference => "Invalid back reference"
  | tooBig => "Regular expression too big"
  | bareClass => "character class syntax is [[:space:]], not [:space:]"
  | loneBracket => "Invalid regular expression"

/-- What is said about a fault in an ordered expression. -/
def Fault.orderedMessage : Fault → String
  | trailingBackslash => "\\ at end of pattern"
  | unclosedBracket | loneBracket => "missing terminating ] for character class"
  | unclosedGroup => "missing closing parenthesis"
  | unopenedGroup => "unmatched closing parenthesis"
  | unclosedBounds | badBounds => "numbers out of order in \x7b\x7d quantifier"
  | badRange => "range out of order in character class"
  | badClass => "unknown POSIX class name"
  | badElement => "POSIX collating elements are not supported"
  | nothingToRepeat => "quantifier does not follow a repeatable item"
  | badReference => "reference to non-existent subpattern"
  | tooBig => "number too big in \x7b\x7d quantifier"
  | bareClass => "POSIX named classes are supported only within a class"

/-- A token of a regular expression. -/
inductive Token : Type where
  /-- An expression by itself. -/
  | item (r : Regex)
  | opening
  /-- A parenthesis that does not count as a group. -/
  | openingPlain
  | openingAhead (holds : Bool)
  | openingBehind (holds : Bool)
  | closing
  | bar
  /-- A repetition, as it is written. -/
  | repetition (low : Nat) (high : Option Nat) (source : Octets)
  | caret
  | dollar
  | again (index : Nat)
  deriving Repr

/-- The largest number of repetitions. -/
def repetitionLimit : Nat :=
  32767

/-- The value of decimal digits. -/
def valueOf (digits : Octets) : Nat :=
  digits.foldl (fun n d => n * 10 + (d.toNat - '0'.toNat)) 0

/-- The bounds of a repetition and what follows them; none if the text is none. -/
def bounds? (d : Dialect) (cs : Octets) : Except Fault (Option (Nat × Option Nat × Octets)) := do
  let low := cs.takeWhile Char.isDigit
  let rest := cs.drop low.length
  let (high, rest) :=
    match rest with
    | ',' :: rest =>
      let digits := rest.takeWhile Char.isDigit
      (if digits.isEmpty then none else some (valueOf digits), rest.drop digits.length)
    | rest => (some (valueOf low), rest)
  let closed :=
    match d.form, rest with
    | .basic, '\\' :: '\x7d' :: rest => some rest
    | .basic, _ => none
    | _, '\x7d' :: rest => some rest
    | _, _ => none
  let isNothing := low.isEmpty && cs.head? != some ','
  let mayBeText := d.form = .ordered || (d.form = .extended && !d.strict)
  match closed with
  | some rest =>
    if d.form = .ordered && low.isEmpty then return none
    if isNothing || high.any (· < valueOf low) then throw .badBounds
    if repetitionLimit < valueOf low || high.any (repetitionLimit < ·) then throw .tooBig
    pure (some (valueOf low, high, rest))
  | none =>
    if mayBeText then pure none
    else if rest.isEmpty then throw .unclosedBounds
    else throw .badBounds

/-- The name between two marks such as colons and what follows its closing bracket. -/
def named? (mark : Char) (cs : Octets) : Option (Octets × Octets) :=
  let name := cs.takeWhile fun c => c != mark && c != ']'
  match cs.drop name.length with
  | c :: ']' :: rest => if c = mark then some (name, rest) else none
  | _ => none

/-- The names of the classes of characters. -/
def classNames : List String :=
  ["alpha", "digit", "alnum", "upper", "lower", "space", "blank", "punct", "xdigit", "cntrl",
    "graph", "print"]

/-- The octet that a letter after a backslash in an ordered expression stands for. -/
def control? : Char → Option Char
  | 'n' => some '\n'
  | 't' => some '\t'
  | 'r' => some '\r'
  | 'f' => some '\x0C'
  | 'a' => some '\x07'
  | 'e' => some '\x1B'
  | _ => none

/-- The octets that a class letter stands for. -/
def letterClass? : Char → Option (Bool × List (Char × Char))
  | 'w' => some (false, classRanges "alnum" ++ [('_', '_')])
  | 'W' => some (true, classRanges "alnum" ++ [('_', '_')])
  | 's' => some (false, classRanges "space")
  | 'S' => some (true, classRanges "space")
  | _ => none

/-- The ranges of octets that the ranges leave out. -/
def complement (ranges : List (Char × Char)) : List (Char × Char) :=
  let inside (n : Nat) : Bool := ranges.any fun (low, high) => low.toNat ≤ n && n ≤ high.toNat
  (((List.range 256).filter (!inside ·)).map Char.ofNat).map fun c => (c, c)

/-- The end of a range that starts with an octet, if there is one, and what follows. -/
def rangeFrom (c : Char) (rest : Octets) : Except Fault ((Char × Char) × Octets) := do
  match rest with
  | '-' :: d :: after =>
    if d = ']' then pure ((c, c), rest)
    else
      let (high, after) ←
        match d, after with
        | '[', '.' :: text =>
          match named? '.' text with
          | some ([h], after) => pure (h, after)
          | some _ => throw .badElement
          | none => throw .unclosedBracket
        | d, after => pure (d, after)
      if high < c then throw .badRange
      pure ((c, high), after)
  | rest => pure ((c, c), rest)

/-- The ranges of a bracket expression up to its closing bracket, and what follows. -/
def bracket (form : Form) (atStart : Bool) : Nat → Octets →
    Except Fault (List (Char × Char) × Octets)
  | 0, _ => throw .unclosedBracket
  | n + 1, cs => do
    match cs with
    | [] => throw .unclosedBracket
    | ']' :: rest =>
      if atStart then
        let (range, rest) ← rangeFrom ']' rest
        let (ranges, rest) ← bracket form false n rest
        pure (range :: ranges, rest)
      else pure ([], rest)
    | '[' :: ':' :: rest =>
      match named? ':' rest with
      | some (name, rest) =>
        if !classNames.contains (String.ofList name) then throw .badClass
        let (ranges, rest) ← bracket form false n rest
        pure (classRanges (String.ofList name) ++ ranges, rest)
      | none => throw .unclosedBracket
    | '[' :: '=' :: rest =>
      match named? '=' rest with
      | some ([c], rest) => do
        let (ranges, rest) ← bracket form false n rest
        pure ((c, c) :: ranges, rest)
      | some _ => throw .badElement
      | none => throw .unclosedBracket
    | '[' :: '.' :: rest =>
      match named? '.' rest with
      | some ([c], rest) => do
        let (range, rest) ← rangeFrom c rest
        let (ranges, rest) ← bracket form false n rest
        pure (range :: ranges, rest)
      | some _ => throw .badElement
      | none => throw .unclosedBracket
    | '\\' :: c :: rest =>
      if form = .ordered then
        let own : List (Char × Char) :=
          match letterClass? c, c with
          | some (outside, ranges), _ => if outside then complement ranges else ranges
          | none, 'd' => classRanges "digit"
          | none, 'D' => complement (classRanges "digit")
          | none, c => [((control? c).getD c, (control? c).getD c)]
        let (ranges, rest) ← bracket form false n rest
        pure (own ++ ranges, rest)
      else
        let (range, rest) ← rangeFrom '\\' (c :: rest)
        let (ranges, rest) ← bracket form false n rest
        pure (range :: ranges, rest)
    | c :: rest => do
      let (range, rest) ← rangeFrom c rest
      let (ranges, rest) ← bracket form false n rest
      pure (range :: ranges, rest)

/-- Whether a bracket expression consists of the name of a class alone, without brackets of its
own. -/
def isBareClass (cs : Octets) : Bool :=
  match cs with
  | ':' :: rest =>
    let name := rest.takeWhile fun c => c != ':' && c != ']'
    (rest.drop name.length).take 2 == [':', ']'] && !name.isEmpty
  | _ => false

/-- The bracket expression that starts after its opening bracket, and what follows. -/
def set (form : Form) (cs : Octets) : Except Fault (Regex × Octets) := do
  if isBareClass cs then throw .bareClass
  if cs.isEmpty || cs = ['^'] then throw .loneBracket
  let (outside, inner) :=
    match cs with
    | '^' :: inner => (true, inner)
    | inner => (false, inner)
  let (ranges, rest) ← bracket form true (inner.length + 1) inner
  pure (.oneOf outside ranges, rest)

/-- The token that an escaped character is in all forms, if it has a meaning of its own. -/
def escape? (form : Form) (c : Char) : Option Token :=
  match letterClass? c with
  | some (outside, ranges) => some (.item (.oneOf outside ranges))
  | none =>
    match form, c with
    | _, 'b' => some (.item (.edge .wordSide))
    | _, 'B' => some (.item (.edge .noWordSide))
    | .ordered, 'd' => some (.item (.oneOf false (classRanges "digit")))
    | .ordered, 'D' => some (.item (.oneOf true (classRanges "digit")))
    | .ordered, 'A' => some (.item (.edge .textStart))
    | .ordered, 'z' | .ordered, 'Z' => some (.item (.edge .textEnd))
    | .ordered, 'K' => some (.item .keep)
    | .ordered, c => (control? c).map fun c => .item (.octet c)
    | _, '<' => some (.item (.edge .wordStart))
    | _, '>' => some (.item (.edge .wordEnd))
    | _, '\x60' => some (.item (.edge .textStart))
    | _, '\'' => some (.item (.edge .textEnd))
    | _, _ => none

/-- The token that an operator is, and what follows it. -/
def operator? (d : Dialect) (c : Char) (rest : Octets) :
    Except Fault (Option (Token × Octets)) := do
  match c with
  | '(' =>
    match d.form, rest with
    | .ordered, '?' :: ':' :: rest => pure (some (.openingPlain, rest))
    | .ordered, '?' :: '=' :: rest => pure (some (.openingAhead true, rest))
    | .ordered, '?' :: '!' :: rest => pure (some (.openingAhead false, rest))
    | .ordered, '?' :: '<' :: '=' :: rest => pure (some (.openingBehind true, rest))
    | .ordered, '?' :: '<' :: '!' :: rest => pure (some (.openingBehind false, rest))
    | _, rest => pure (some (.opening, rest))
  | ')' => pure (some (.closing, rest))
  | '|' => pure (some (.bar, rest))
  | '+' => pure (some (.repetition 1 none ['+'], rest))
  | '?' => pure (some (.repetition 0 (some 1) ['?'], rest))
  | '\x7b' => do
    match ← bounds? d rest with
    | some (low, high, after) =>
      let source := '\x7b' :: rest.take (rest.length - after.length)
      pure (some (.repetition low high source, after))
    | none => pure none
  | _ => pure none

/-- The tokens of a text, of which some groups are open. A closing parenthesis that closes none may
be text. -/
def tokens (d : Dialect) : Nat → Nat → Octets → Except Fault (List Token)
  | 0, _, _ => pure []
  | _, _, [] => pure []
  | n + 1, depth, c :: rest => do
    let operator ←
      match d.form, c, rest with
      | .basic, '\\', o :: rest => operator? d o rest
      | .basic, _, _ => pure none
      | _, _, _ => operator? d c rest
    match operator with
    | some (.closing, rest) =>
      if depth = 0 && d.form = .extended && !d.strict then
        pure (.item (.octet ')') :: (← tokens d n 0 rest))
      else pure (.closing :: (← tokens d n (depth - 1) rest))
    | some (token, rest) =>
      let opens := match token with
        | .opening | .openingPlain | .openingAhead _ | .openingBehind _ => true
        | _ => false
      pure (token :: (← tokens d n (if opens then depth + 1 else depth) rest))
    | none =>
      match c, rest with
      | '\\', [] => throw .trailingBackslash
      | '\\', o :: rest =>
        let token : Token :=
          if o.isDigit && o ≠ '0' then .again (o.toNat - '0'.toNat)
          else (escape? d.form o).getD (.item (.octet o))
        pure (token :: (← tokens d n depth rest))
      | '[', rest => do
        let (r, rest) ← set d.form rest
        pure (.item r :: (← tokens d n depth rest))
      | '*', rest => pure (.repetition 0 none ['*'] :: (← tokens d n depth rest))
      | '.', rest => pure (.item .anyOctet :: (← tokens d n depth rest))
      | '^', rest => pure (.caret :: (← tokens d n depth rest))
      | '$', rest => pure (.dollar :: (← tokens d n depth rest))
      | c, rest => pure (.item (.octet c) :: (← tokens d n depth rest))

/-- The octets one after the other. -/
def literal (cs : Octets) : Regex :=
  cs.foldr (fun c r => .both (.octet c) r) .nothing

/-- Whether tokens end an alternative. -/
def endsHere : List Token → Bool
  | [] | .bar :: _ | .closing :: _ => true
  | _ => false

/-- What has been read, the number of the next group, and the tokens that are left. -/
abbrev Reading : Type :=
  Except Fault (Regex × Nat × List Token)

mutual

/-- Alternatives; `index` is the number of the next group. -/
def alternatives (d : Dialect) : Nat → Nat → List Token → Reading
  | 0, _, _ => throw .tooBig
  | n + 1, index, ts => do
    let (first, index, rest) ← sequence d n index true ts
    match rest with
    | .bar :: rest => do
      let (second, index, rest) ← alternatives d n index rest
      pure (.either first second, index, rest)
    | rest => pure (first, index, rest)

/-- Items one after the other. -/
def sequence (d : Dialect) : Nat → Nat → Bool → List Token → Reading
  | 0, _, _, _ => throw .tooBig
  | n + 1, index, atStart, ts => do
    if endsHere ts then pure (.nothing, index, ts)
    else
      let (item, index, rest) ← single d n index atStart ts
      let stillAtStart :=
        match d.form, ts with
        | .basic, .caret :: _ => atStart
        | _, _ => false
      let (item, rest) ← suffixes d n stillAtStart item rest
      let (others, index, rest) ← sequence d n index stillAtStart rest
      pure (.both item others, index, rest)

/-- One item without its repetitions. -/
def single (d : Dialect) : Nat → Nat → Bool → List Token → Reading
  | 0, _, _, _ => throw .tooBig
  | n + 1, index, atStart, ts => do
    let inGroup (index : Nat) (rest : List Token) : Reading := do
      let (inner, index, rest) ← alternatives d n index rest
      match rest with
      | .closing :: rest => pure (inner, index, rest)
      | _ => throw .unclosedGroup
    match ts with
    | .item r :: rest => pure (r, index, rest)
    | .again k :: rest => if k < index then pure (.again k, index, rest) else throw .badReference
    | .opening :: rest => do
      let (inner, later, rest) ← inGroup (index + 1) rest
      pure (.group index inner, later, rest)
    | .openingPlain :: rest => inGroup index rest
    | .openingAhead holds :: rest => do
      let (inner, later, rest) ← inGroup index rest
      pure (.ahead holds inner, later, rest)
    | .openingBehind holds :: rest => do
      let (inner, later, rest) ← inGroup index rest
      pure (.behind holds inner, later, rest)
    | .caret :: rest =>
      pure (if atStart || d.form ≠ .basic then .edge .lineStart else .octet '^', index, rest)
    | .dollar :: rest =>
      pure (if endsHere rest || d.form ≠ .basic then .edge .lineEnd else .octet '$', index, rest)
    | .repetition _ _ source :: rest =>
      -- A repetition of nothing.
      if d.form = .basic then
        if source.head? == some '\x7b' && d.strict then throw .nothingToRepeat
        pure (literal source, index, rest)
      else if d.strict || d.form = .ordered then throw .nothingToRepeat
      else pure (.nothing, index, rest)
    | _ => pure (.nothing, index, ts)

/-- The repetitions after an item, unless the start of a basic expression makes them text. -/
def suffixes (d : Dialect) : Nat → Bool → Regex → List Token → Except Fault (Regex × List Token)
  | 0, _, _, _ => throw .tooBig
  | n + 1, isText, item, ts => do
    match ts with
    | .repetition low high _ :: rest =>
      if isText then pure (item, ts)
      else if d.form = .ordered then
        match rest with
        | .repetition 0 (some 1) ['?'] :: rest => pure (.repeated low high false item, rest)
        | rest => pure (.repeated low high true item, rest)
      else
        match rest with
        | .repetition _ _ next :: _ => do
          let isRefused := next.head? == some '*' || next.head? == some '\x7b'
          if d.strict && d.form = .basic && isRefused then throw .nothingToRepeat
          suffixes d n false (.repeated low high true item) rest
        | rest => pure (.repeated low high true item, rest)
    | _ => pure (item, ts)

end

/-- The regular expression that a text is. -/
def parse (d : Dialect) (text : Octets) : Except Fault Regex := do
  let ts ← tokens d (text.length + 1) 0 text
  let (r, _, rest) ← alternatives d (6 * ts.length + 8) 1 ts
  if rest.isEmpty then pure r else throw .unopenedGroup

/-- How many groups an expression has. -/
def groupCount : Regex → Nat
  | .group index inner => max index (groupCount inner)
  | .both a b | .either a b => max (groupCount a) (groupCount b)
  | .repeated _ _ _ inner | .ahead _ inner | .behind _ inner => groupCount inner
  | _ => 0

end Fleet.Tools.Regex
