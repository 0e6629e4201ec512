import Fleet.Tools.Escapes
import Fleet.Tools.Regex.Parser

/-!
# Texts and regular expressions in programs

A backslash stands in front of letters for control characters, of digits for an octet's number, and
of operators that are meant as they are. Regular expressions are extended ones in which every
operator needs something to work on.
-/

namespace Fleet.Awk

open Tools (Regex)
open Tools.Regex (Token)

/-- The octet that is written after a backslash, and what follows; none if the letter has no such
meaning. -/
def escaped? : Octets → Option (Char × Octets)
  | [] => none
  | 'x' :: rest =>
    let digits := (rest.take 2).takeWhile Tools.isHexadecimal
    if digits.isEmpty then none
    else some (Char.ofNat (Tools.ofDigits 16 digits), rest.drop digits.length)
  | c :: rest =>
    if Tools.isOctal c then
      let digits := ((c :: rest).take 3).takeWhile Tools.isOctal
      some (Char.ofNat (Tools.ofDigits 8 digits % 256), (c :: rest).drop digits.length)
    else if c = '"' || c = '\\' then some (c, rest)
    else if c = 'e' then none
    else (Tools.escape? c).map fun octet => (octet, rest)

/-- A text without its backslashes; one that means nothing stays. At most the given number of octets
is looked at. -/
def unescaped : Nat → Octets → Octets
  | 0, text => text
  | _, [] => []
  | n + 1, '\\' :: '\n' :: rest => unescaped n rest
  | n + 1, '\\' :: rest =>
    match escaped? rest with
    | some (c, rest) => c :: unescaped n rest
    | none =>
      match rest with
      | c :: rest => '\\' :: c :: unescaped n rest
      | [] => ['\\']
  | n + 1, c :: rest => c :: unescaped n rest

/-- The text that stands between quotes or in an assignment among the arguments. -/
def textOf (source : Octets) : Octets :=
  unescaped source.length source

namespace Pattern

/-- What is wrong with a regular expression. -/
inductive Fault : Type where
  | unclosedGroup
  | badSet
  | missingOperand
  | tooLarge
  | repeatedAnchor
  deriving Repr, DecidableEq

/-- What is said about a fault. -/
def Fault.message : Fault → String
  | unclosedGroup => "missing ')'"
  | badSet => "bad class -- [], [^] or ["
  | missingOperand => "missing operand"
  | tooLarge => "resource exhaustion -- regular expression too large"
  | repeatedAnchor => "syntax error ^* or ^+"

/-- The regular expressions that are meant. -/
def dialect : Regex.Dialect :=
  { form := .extended, strict := true }

/-- An octet of a set, which may be written with a backslash, and what follows. -/
def member? : Octets → Option (Char × Octets)
  | [] => none
  | '\\' :: c :: rest => some ((escaped? (c :: rest)).getD (c, rest))
  | c :: rest => some (c, rest)

/-- The ranges of a set up to its closing bracket, and what follows; at most as many as given. -/
def ranges (first : Bool) : Nat → Octets → Except Fault (List (Char × Char) × Octets)
  | 0, _ => throw .badSet
  | n + 1, text => do
    match text with
    | '[' :: ':' :: rest =>
      match Regex.named? ':' rest with
      | some (name, rest) =>
        if !Regex.classNames.contains (String.ofList name) then throw .badSet
        let (others, rest) ← ranges false n rest
        pure (Shell.Pattern.classRanges (String.ofList name) ++ others, rest)
      | none => do
        let (others, rest) ← ranges false n (':' :: rest)
        pure (('[', '[') :: others, rest)
    | text =>
      if !first && text.head? = some ']' then pure ([], text.tail)
      else
        match member? text with
        | none => throw .badSet
        | some (low, rest) =>
          let (high, rest) :=
            match rest with
            | '-' :: ']' :: _ => (low, rest)
            | '-' :: after => (member? after).getD (low, rest)
            | rest => (low, rest)
          let (others, rest) ← ranges false n rest
          pure ((if high < low then (high, low) else (low, high)) :: others, rest)

/-- The set after its opening bracket, and what follows. -/
def set (text : Octets) : Except Fault (Regex × Octets) := do
  let (outside, inner) :=
    match text with
    | '^' :: inner => (true, inner)
    | inner => (false, inner)
  let (all, rest) ← ranges true (inner.length + 1) inner
  pure (.oneOf outside all, rest)

/-- The tokens of a regular expression in which some groups are open. -/
def tokens : Nat → Nat → Octets → Except Fault (List Token)
  | 0, _, _ => pure []
  | _, _, [] => pure []
  | n + 1, depth, c :: rest => do
    let plain (c : Char) (rest : Octets) : Except Fault (List Token) := do
      pure (.item (.octet c) :: (← tokens n depth rest))
    let operator (t : Token) : Except Fault (List Token) := do
      pure (t :: (← tokens n depth rest))
    match c with
    | '(' => do pure (.opening :: (← tokens n (depth + 1) rest))
    | ')' =>
      if depth = 0 then plain c rest else pure (.closing :: (← tokens n (depth - 1) rest))
    | '|' => operator .bar
    | '*' => operator (.repetition 0 none ['*'])
    | '+' => operator (.repetition 1 none ['+'])
    | '?' => operator (.repetition 0 (some 1) ['?'])
    | '.' => operator (.item .anyOctet)
    | '^' => operator .caret
    | '$' => operator .dollar
    | '[' => do
      let (r, rest) ← set rest
      pure (.item r :: (← tokens n depth rest))
    | '\\' =>
      match escaped? rest, rest with
      | some (c, rest), _ => plain c rest
      | none, c :: rest => plain c rest
      | none, [] => plain '\\' []
    | '\x7b' =>
      match Regex.bounds? { form := .extended } rest with
      | .ok (some (low, high, after)) => do
        pure (.repetition low high ['\x7b'] :: (← tokens n depth after))
      | _ => plain c rest
    | c => plain c rest

/-- What is wrong where a token has nothing to work on; `before` is the token in front of the
others. -/
def faultAfter (before : Token) : List Token → Option Fault
  | [] =>
    match before with
    | .bar => some .missingOperand
    | .opening => some .unclosedGroup
    | _ => none
  | t :: rest =>
    let needsOperand := match before with
      | .bar | .opening => true
      | _ => false
    let fault : Option Fault := match before, t with
      | .caret, .repetition _ _ _ => some .repeatedAnchor
      | _, .repetition _ _ source =>
        if !needsOperand then none
        else some (if source = ['\x7b'] then .tooLarge else .missingOperand)
      | _, .bar | _, .closing => if needsOperand then some .missingOperand else none
      | _, _ => none
    match fault with
    | some fault => some fault
    | none => faultAfter t rest

/-- The regular expression that a text is. -/
def parse (text : Octets) : Except Fault Regex := do
  let ts ← tokens (text.length + 1) 0 text
  if ts.isEmpty then return .nothing
  match faultAfter .bar ts with
  | some fault => throw fault
  | none =>
    match Regex.alternatives dialect (6 * ts.length + 8) 1 ts with
    | .ok (r, _, _) => pure r
    | .error _ => throw .unclosedGroup

end Pattern

/-- The first match in a text from a position on. -/
def find? (r : Regex) (text : Array Char) (start : Nat) : Option (Nat × Nat) :=
  (Tools.Regex.find? Pattern.dialect r text start).map fun (i, j, _) => (i, j)

end Fleet.Awk
